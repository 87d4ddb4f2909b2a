import CoinWallet.Json.Reader
import CoinWallet.Record.Capability
import CoinWallet.Record.Config
import CoinWallet.Record.Transaction

set_option autoImplicit false

namespace CoinWallet.Record

def normalBy {α : Type} (read : Node → Option α) (write : α → Node) (n : Node) : Option Node :=
  (read n).map write

def normal? (kind : String) : Node → Option Node :=
  match kind with
  | "blockchain" => normalBy (Blockchain.read .loose) Blockchain.write
  | "token" => normalBy (Token.read .loose) Token.write
  | "amount_type" => normalBy (AmountType.read .loose) AmountType.write
  | "amount" => normalBy (Amount.read .loose) Amount.write
  | "public_key" => normalBy PublicKey.read PublicKey.write
  | "wallet_id" => normalBy WalletId.read WalletId.write
  | "transaction_status" => normalBy TransactionStatus.read TransactionStatus.write
  | "address" => normalBy Address.read Address.write
  | "unspent_output" => normalBy UnspentOutput.read UnspentOutput.write
  | "transaction_data" => normalBy Transaction.read Transaction.write
  | "basic_transaction_data" => normalBy ReportedTransaction.read ReportedTransaction.write
  | "fee" => normalBy (Fee.read .loose) Fee.write
  | "fee_tier" => normalBy FeeTier.read FeeTier.write
  | "transaction_fee" => normalBy FeeOffer.read FeeOffer.write
  | "transaction_error" => normalBy PaymentError.read PaymentError.write
  | "capability" => normalBy Capability.read Capability.write
  | "gas_fee_config" => normalBy (GasPolicy.read .loose) GasPolicy.write
  | "provider_config" => normalBy (ProviderConfig.read .loose) ProviderConfig.write
  | "manager_config" => normalBy (ManagerConfig.read .loose) ManagerConfig.write
  | "client_config" => normalBy (ClientConfig.read .loose) ClientConfig.write
  | "blockchain_config" => normalBy (ChainConfig.read .loose) ChainConfig.write
  | "tracing_config" => normalBy (LogConfig.read .loose) LogConfig.write
  | "config" => normalBy (Config.read .loose) Config.write
  | _ => fun _ => none

def normalJson? (kind text : String) : Option Node :=
  (Json.read text).bind (normal? kind)

end CoinWallet.Record
