import CoinWallet.History
import CoinWallet.PublicKey
import CoinWallet.WalletId

set_option autoImplicit false

namespace CoinWallet

inductive AddressKind
  | standard
  | legacy
deriving DecidableEq, Repr

structure Address where
  value : String
  kind : AddressKind := .standard
deriving DecidableEq, Repr

structure Wallet where
  id : WalletId
  blockchain : Blockchain
  publicKey : PublicKey
  addresses : List Address
  amounts : List (AmountType × Amount)
  tokens : List Token
  recent : History
  outputsCount : Option Nat
  unspentOutputs : List UnspentOutput
  nonce : Option UInt64
deriving DecidableEq

namespace Wallet

def new (id : WalletId) (chain : Blockchain) (key : PublicKey) (addresses : List Address) :
    Wallet where
  id := id
  blockchain := chain
  publicKey := key
  addresses := addresses
  amounts := [(.coin, .zeroCoin chain)]
  tokens := []
  recent := []
  outputsCount := none
  unspentOutputs := []
  nonce := none

def primaryAddress (w : Wallet) : String :=
  match w.addresses.find? fun a => a.kind == .standard with
  | some a => a.value
  | none =>
    match w.addresses.head? with
    | some a => a.value
    | none => unknownAddress

def amount? (w : Wallet) (kind : AmountType) : Option Amount :=
  (w.amounts.find? fun entry => entry.1.sameAsset kind).map (·.2)

def coinAmount (w : Wallet) : Amount :=
  match w.amounts.find? fun entry => entry.1 == .coin with
  | some entry => entry.2
  | none => .zeroCoin w.blockchain

def funds (w : Wallet) (kind : AmountType) : Decimal :=
  match w.amount? kind with
  | some amount => amount.value
  | none => .zero

def unspentBalance? (w : Wallet) : Option Decimal :=
  Decimal.sum? (w.unspentOutputs.map (·.amount))

-- the entries of other assets, then the given one
def putAmount (amounts : List (AmountType × Amount)) (kind : AmountType) (amount : Amount) :
    List (AmountType × Amount) :=
  amounts.filter (fun entry => !entry.1.sameAsset kind) ++ [(kind, amount)]

def setCoin (w : Wallet) (value : Decimal) : Wallet :=
  { w with amounts := putAmount w.amounts .coin (w.coinAmount.withValue value) }

def tracks (w : Wallet) (t : Token) : Bool :=
  w.tokens.any fun other => other.sameContract t

def addToken (w : Wallet) (t : Token) : Wallet :=
  if w.tracks t then w else { w with tokens := w.tokens ++ [t] }

def setToken (w : Wallet) (t : Token) (value : Decimal) : Wallet :=
  let w := w.addToken t
  { w with amounts := putAmount w.amounts (.token t) (.ofToken t value) }

def removeToken (w : Wallet) (t : Token) : Wallet :=
  { w with
    tokens := w.tokens.filter fun other => !other.sameContract t
    amounts := w.amounts.filter fun entry => !entry.1.sameAsset (.token t) }

def recordOutgoing (w : Wallet) (tx : Transaction) : Wallet :=
  { w with recent := w.recent.recordOutgoing tx }

def addPlaceholder (w : Wallet) (now : Timestamp) : Wallet :=
  { w with recent := w.recent.addPlaceholder w.coinAmount now }

def confirmAll (w : Wallet) : Wallet :=
  { w with recent := w.recent.confirmAll }

def reconcile (w : Wallet) (reported : List Transaction) : Wallet :=
  { w with recent := w.recent.reconcile reported }

def reconcileReports (w : Wallet) (reported : List ReportedTransaction) (now : Timestamp) :
    Wallet :=
  w.reconcile (reported.map fun tx => tx.toTransaction w.coinAmount now)

end Wallet

end CoinWallet
