import CoinWallet.Account.JsonRpc
import CoinWallet.Proofs.Account.CallData
import CoinWallet.Proofs.Amount.BaseUnits
import CoinWallet.Proofs.Config.Construction
import CoinWallet.Proofs.Decimal.Nearest
import CoinWallet.Proofs.Fee.HalfUp
import CoinWallet.Proofs.Fee.Limit
import CoinWallet.Proofs.Fee.Order
import CoinWallet.Proofs.History.News
import CoinWallet.Proofs.Payment.Room
import CoinWallet.Proofs.Provider.Sharing
import CoinWallet.Proofs.Record.Transaction
import CoinWallet.Proofs.Session.Accounts
import CoinWallet.Proofs.Session.Atomicity
import CoinWallet.Proofs.Session.Balance
import CoinWallet.Proofs.Session.Decimals
import CoinWallet.Proofs.Session.InFlight
import CoinWallet.Proofs.Session.Nonce
import CoinWallet.Proofs.Session.Offer
import CoinWallet.Proofs.Session.Outputs
import CoinWallet.Proofs.Session.Overlap
import CoinWallet.Proofs.Session.Phase
import CoinWallet.Proofs.Session.Placeholder
import CoinWallet.Proofs.Session.Protocol
import CoinWallet.Proofs.Session.Shutdown
import CoinWallet.Proofs.Utxo.Coalescing
import CoinWallet.Proofs.Utxo.Commit
import CoinWallet.Proofs.Utxo.Delta
import CoinWallet.Proofs.Utxo.Estimate
import CoinWallet.Proofs.Utxo.Netting
import CoinWallet.Proofs.Utxo.Regrouping
import CoinWallet.Record.Normal
import CoinWallet.Simulation.Debounced
import CoinWallet.Simulation.Requests
import CoinWallet.Simulation.Stage
