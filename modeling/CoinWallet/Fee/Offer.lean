import CoinWallet.Amount
import CoinWallet.Fee.Tiers

set_option autoImplicit false

namespace CoinWallet

inductive Fee
  | common (amount : Amount)
  | gas (amount : Amount) (limit : UInt64) (price : Decimal)
deriving DecidableEq

def Fee.amount : Fee → Amount
  | common amount => amount
  | gas amount _ _ => amount

inductive FeeTier
  | minimum
  | normal
  | priority
deriving DecidableEq, Repr

inductive FeeOffer
  | single (fee : Fee)
  | choosable (fees : Tiers Fee)
deriving DecidableEq

namespace FeeOffer

def choosable? (fees : Tiers Fee) : Option FeeOffer :=
  if fees.minimum.amount.value ≤ fees.normal.amount.value ∧
      fees.normal.amount.value ≤ fees.priority.amount.value then
    some (.choosable fees)
  else none

def tier : FeeOffer → FeeTier → Fee
  | single fee, _ => fee
  | choosable fees, .minimum => fees.minimum
  | choosable fees, .normal => fees.normal
  | choosable fees, .priority => fees.priority

def normal (offer : FeeOffer) : Fee :=
  offer.tier .normal

end FeeOffer

end CoinWallet
