import CoinWallet.Decimal.Basic

set_option autoImplicit false

/-!
Sums, differences, products and quotients of decimals. A result is the exact one where the mantissa
can hold it; otherwise places are given up, no more than needed, and the last place is rounded to
nearest with ties to the even neighbour. A result too large for a mantissa without places is none.
-/

namespace CoinWallet.Decimal

-- powers are those of the core library
attribute [local instance (high)] instPowNat

-- the quotient `num / den` at as many places as the mantissa can hold, at most `places`
def nearest? (num : Int) (den : Nat) : (places : Nat) → Option Decimal
  | 0 => ofScaled? (Rounding.halfEven.round num den) 0
  | places + 1 =>
    match ofScaled? (Rounding.halfEven.round (num * 10 ^ (places + 1)) den) (places + 1) with
    | some d => some d
    | none => nearest? num den places

-- the sum; a zero leaves the other number as it is written
def add? (a b : Decimal) : Option Decimal :=
  if a.isZero then some b
  else if b.isZero then some a
  else
    let scale := Nat.max a.scale b.scale
    nearest? (a.mantissa * 10 ^ (scale - a.scale) + b.mantissa * 10 ^ (scale - b.scale))
      (10 ^ scale) scale

def sub? (a b : Decimal) : Option Decimal :=
  add? a b.neg

def mul? (a b : Decimal) : Option Decimal :=
  if a.isZero || b.isZero then some zero
  else
    nearest? (a.mantissa * b.mantissa) (10 ^ (a.scale + b.scale))
      (Nat.min maxScale (a.scale + b.scale))

def div? (a b : Decimal) : Option Decimal :=
  if b.isZero then none
  else if a.isZero then some zero
  else
    nearest? (a.mantissa * 10 ^ b.scale * b.mantissa.sign) (b.mantissa.natAbs * 10 ^ a.scale)
      maxScale

def sum? (ds : List Decimal) : Option Decimal :=
  ds.foldlM add? zero

end CoinWallet.Decimal
