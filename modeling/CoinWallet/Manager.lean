import CoinWallet.Chain
import CoinWallet.Debouncer
import CoinWallet.Payment

set_option autoImplicit false

namespace CoinWallet

inductive UpdatePhase
  | idle
  | updating
deriving DecidableEq, Repr

inductive SendPhase
  | idle
  | building
  | signing
  | broadcasting
deriving DecidableEq, Repr

structure Moment where
  elapsed : Nat
  date : Timestamp

structure Manager where
  chain : Chain
  builder : Builder
  wallet : Wallet
  cursor : Nat := 0
  debouncer : Debouncer
  sendLine : Line := {}
  isShutDown : Bool := false
  updatePhase : UpdatePhase := .idle
  sendPhase : SendPhase := .idle

namespace Manager

-- the wallet has to be on the chain; the window is in milliseconds
def new (wallet : Wallet) (chain : Chain) (builder : Builder) (window : Nat) :
    Except ConfigError Manager :=
  if wallet.blockchain = chain.blockchain then
    .ok { chain := chain, builder := builder, wallet := wallet, debouncer := { window := window } }
  else
    .error (.blockchainMismatch wallet.id wallet.blockchain chain.blockchain)

def currentHost (m : Manager) : String :=
  m.chain.currentHost m.cursor

def shutDown (m : Manager) : Manager :=
  { m with isShutDown := true }

def addToken (m : Manager) (t : Token) : Manager :=
  { m with wallet := m.wallet.addToken t }

def removeToken (m : Manager) (t : Token) : Manager :=
  { m with wallet := m.wallet.removeToken t }

def paymentErrors? (m : Manager) (amount : Amount) (fee : Option Amount) :
    Option (List PaymentError) :=
  Payment.errors? { amount := amount, fee := fee, dust := m.chain.dustValue } m.wallet

def createTransaction (m : Manager) (amount : Amount) (fee : Option Fee) (destination : String)
    (now : Timestamp) : Transaction where
  amount := amount
  fee := fee
  source := m.wallet.primaryAddress
  destination := destination
  contract := amount.kind.token?.map (·.contract)
  status := .unconfirmed
  hash := none
  date := now

end Manager

end CoinWallet
