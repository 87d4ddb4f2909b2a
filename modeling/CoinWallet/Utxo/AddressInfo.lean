import CoinWallet.Transaction

set_option autoImplicit false

namespace CoinWallet

structure AddressInfo where
  balance : Decimal
  unspentOutputs : List UnspentOutput
  history : List ReportedTransaction
  hasUnconfirmed : Option Bool
deriving DecidableEq

namespace AddressInfo

def empty : AddressInfo where
  balance := .zero
  unspentOutputs := []
  history := []
  hasUnconfirmed := some false

-- a second report of the transaction `known`
def combine? (known tx : ReportedTransaction) : Option ReportedTransaction := do
  let change ← known.balanceChange.add? tx.balanceChange
  return { known with
    balanceChange := change
    isConfirmed := known.isConfirmed && tx.isConfirmed
    date := Timestamp.earliest known.date tx.date
    source := known.source.or tx.source
    destination := known.destination.or tx.destination }

/-- Adds a report to a history. One of a known hash is combined with the entry that has it, so that
a transfer between two addresses of one wallet shows only its outer effect; a new one goes to the
end, with its hash in lower case. -/
def addReport? (tx : ReportedTransaction) :
    List ReportedTransaction → Option (List ReportedTransaction)
  | [] => some [{ tx with hash := Text.lower tx.hash }]
  | known :: rest =>
    if Text.sameIgnoringCase known.hash tx.hash then
      (combine? known tx).map (· :: rest)
    else
      (addReport? tx rest).map (known :: ·)

-- unknown as soon as one address is unknown
def eitherUnconfirmed : Option Bool → Option Bool → Option Bool
  | some a, some b => some (a || b)
  | _, _ => none

def absorb? (merged info : AddressInfo) : Option AddressInfo := do
  let balance ← merged.balance.add? info.balance
  let history ← info.history.foldlM (fun txs tx => addReport? tx txs) merged.history
  return {
    balance := balance
    unspentOutputs := merged.unspentOutputs ++ info.unspentOutputs
    history := history
    hasUnconfirmed := eitherUnconfirmed merged.hasUnconfirmed info.hasUnconfirmed }

def merge? (infos : List AddressInfo) : Option AddressInfo :=
  infos.foldlM absorb? empty

end AddressInfo

abbrev FeeRates := Tiers Decimal

end CoinWallet
