import CoinWallet.Decimal.Arithmetic
import CoinWallet.Fee.Tiers

set_option autoImplicit false

namespace CoinWallet

def Tiers.ordered (t : Tiers Decimal) : Tiers Decimal :=
  let normal := t.normal.max t.minimum
  { minimum := t.minimum, normal := normal, priority := t.priority.max normal }

namespace SizeFee

def kilobyte : Decimal := .ofUInt64 1024

def places : Nat := 8

/-- The fee of `size` bytes at a rate per kilobyte: the rate is at least `minRate`, places beyond
the eighth are cut off, and the fee is at least `minFee`. None if the product has no room. -/
def fee? (rate minRate minFee : Decimal) (size : UInt64) : Option Decimal := do
  let perByte ← (rate.max minRate).div? kilobyte
  let fee ← perByte.mul? (.ofUInt64 size)
  return (fee.roundTo .toZero places).max minFee

def tiers? (rates : Tiers Decimal) (minRate minFee : Decimal) (size : UInt64) :
    Option (Tiers Decimal) :=
  (rates.mapM? fun rate => fee? rate minRate minFee size).map Tiers.ordered

end SizeFee

-- the multipliers of a chain that sets none

def GasPolicy.usualNormal : Decimal := { mantissa := 12, scale := 1 }

def GasPolicy.usualPriority : Decimal := { mantissa := 15, scale := 1 }

structure GasPolicy where
  normalMultiplier : Decimal := GasPolicy.usualNormal
  priorityMultiplier : Decimal := GasPolicy.usualPriority
  limitMultiplier : Option Decimal := none
  minimalPrice : Option Decimal := none
deriving DecidableEq

namespace GasPolicy

def multipliers (p : GasPolicy) : Tiers Decimal :=
  ⟨.one, p.normalMultiplier, p.priorityMultiplier⟩

/-- The limit times its multiplier, rounded up. An estimate whose product has no room, is below zero
or leaves the 64 bits of a limit is kept. -/
def adjustLimit (p : GasPolicy) (limit : UInt64) : UInt64 :=
  match p.limitMultiplier with
  | none => limit
  | some multiplier =>
    match (Decimal.ofUInt64 limit).mul? multiplier with
    | none => limit
    | some product =>
      if product.isNegative then limit else product.ceiling.toUInt64?.getD limit

def floorPrice (p : GasPolicy) (price : Decimal) : Decimal :=
  match p.minimalPrice with
  | some minimal => price.max minimal
  | none => price

/-- Limit times price times each multiplier, rounded to whole units with ties away from zero, in
order. None if a product has no room. -/
def feeTiers? (p : GasPolicy) (limit : UInt64) (price : Decimal) : Option (Tiers Decimal) := do
  let base ← (p.floorPrice price).mul? (.ofUInt64 limit)
  let fees ← p.multipliers.mapM? fun multiplier =>
    (base.mul? multiplier).map (·.roundTo .halfAway 0)
  return fees.ordered

def priceTiers? (p : GasPolicy) (price : Decimal) : Option (Tiers Decimal) :=
  p.multipliers.mapM? fun multiplier => (p.floorPrice price).mul? multiplier

end GasPolicy

end CoinWallet
