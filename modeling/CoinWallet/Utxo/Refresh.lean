import CoinWallet.Provider.Fetch
import CoinWallet.Wallet

set_option autoImplicit false

namespace CoinWallet.Utxo

-- powers and sums are those of the core library
attribute [local instance (high)] instPowNat Zero.ofOfNat0

def infoQuery (a : Address) : Query :=
  .addressInfo a.value

def refreshPlan (w : Wallet) : Plan AddressInfo where
  queries := w.addresses.map infoQuery
  conclude := fun replies =>
    .ofOption (AddressInfo.merge? (replies.toList infoQuery (fun _ info => info) w.addresses))

def commitHistory (w : Wallet) (info : AddressInfo) (now : Timestamp) : Wallet :=
  if info.history.isEmpty then
    match info.hasUnconfirmed with
    | some true => w.addPlaceholder now
    | some false => { w with recent := [] }
    | none => w
  else w.reconcileReports info.history now

def commit (w : Wallet) (info : AddressInfo) (now : Timestamp) : Wallet :=
  commitHistory
    { w.setCoin info.balance with
      outputsCount := some info.unspentOutputs.length
      unspentOutputs := info.unspentOutputs }
    info now

def countQuery (a : Address) : Query :=
  .signatureCount a.value

def sumCounts? (counts : List UInt64) : Option UInt64 :=
  let total := (counts.map UInt64.toNat).sum
  if total < 2 ^ (64 : Nat) then some (UInt64.ofNat total) else none

def signatureCountPlan (w : Wallet) : Plan UInt64 where
  queries := w.addresses.map countQuery
  conclude := fun replies =>
    .ofOption (sumCounts? (replies.toList countQuery (fun _ n => n) w.addresses))

end CoinWallet.Utxo
