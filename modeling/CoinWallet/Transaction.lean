import CoinWallet.Fee.Offer
import CoinWallet.Timestamp

set_option autoImplicit false

namespace CoinWallet

inductive TransactionStatus
  | unconfirmed
  | confirmed
deriving DecidableEq, Repr

def unknownAddress : String := "unknown"

structure Transaction where
  amount : Amount
  fee : Option Fee
  source : String
  destination : String
  contract : Option String
  status : TransactionStatus
  hash : Option String
  date : Timestamp
deriving DecidableEq

namespace Transaction

def hasHash (tx : Transaction) (hash : String) : Bool :=
  match tx.hash with
  | some own => Text.sameIgnoringCase own hash
  | none => false

def isConfirmed (tx : Transaction) : Bool :=
  tx.status == .confirmed

def confirm (tx : Transaction) : Transaction :=
  { tx with status := .confirmed }

end Transaction

-- an entry of the history of an address. `balanceChange` is positive for incoming value
structure ReportedTransaction where
  balanceChange : Decimal
  hash : String
  date : Option Timestamp
  isConfirmed : Bool
  source : Option String
  destination : Option String
deriving DecidableEq

def ReportedTransaction.toTransaction (coin : Amount) (now : Timestamp)
    (tx : ReportedTransaction) : Transaction where
  amount := coin.withValue tx.balanceChange.abs
  fee := none
  source := tx.source.getD unknownAddress
  destination := tx.destination.getD unknownAddress
  contract := none
  status := if tx.isConfirmed then .confirmed else .unconfirmed
  hash := some tx.hash
  date := tx.date.getD now

structure UnspentOutput where
  hash : String
  index : UInt32
  amount : Decimal
  address : String
  script : Option String := none
  derivationPath : Option String := none
deriving DecidableEq

structure TransactionDraft where
  amount : Option Amount := none
  fee : Option Fee := none
  source : Option String := none
  destination : Option String := none
  contract : Option String := none
  status : Option TransactionStatus := none
  hash : Option String := none
  date : Option Timestamp := none

inductive MissingPart
  | amount
  | source
  | destination
deriving DecidableEq, Repr

def MissingPart.message : MissingPart → String
  | amount => "`amount` must be initialized"
  | source => "`source_address` must be initialized"
  | destination => "`destination_address` must be initialized"

namespace TransactionDraft

def build (d : TransactionDraft) (now : Timestamp) : Except MissingPart Transaction :=
  match d.amount, d.source, d.destination with
  | none, _, _ => .error .amount
  | _, none, _ => .error .source
  | _, _, none => .error .destination
  | some amount, some source, some destination =>
    .ok
      { amount := amount
        fee := d.fee
        source := source
        destination := destination
        contract := d.contract
        status := d.status.getD .unconfirmed
        hash := d.hash
        date := d.date.getD now }

end TransactionDraft

end CoinWallet
