import CoinWallet.Decimal.Rounding

set_option autoImplicit false

namespace CoinWallet

-- powers are those of the core library
attribute [local instance (high)] instPowNat

/-- The number `mantissa / 10 ^ scale`. The scale is part of the number as it is written, not of its
value: `1.5` and `1.50` are two numbers of one value. -/
@[ext] structure Decimal where
  mantissa : Int
  scale : Nat
  mantissa_lt : mantissa.natAbs < 2 ^ (96 : Nat) := by decide
  scale_le : scale ≤ 28 := by decide
deriving DecidableEq

namespace Decimal

def maxScale : Nat := 28

def ofScaled? (mantissa : Int) (scale : Nat) : Option Decimal :=
  if h : mantissa.natAbs < 2 ^ (96 : Nat) ∧ scale ≤ 28 then some ⟨mantissa, scale, h.1, h.2⟩
  else none

def toRat (d : Decimal) : Rat :=
  mkRat d.mantissa (10 ^ d.scale)

def zero : Decimal := { mantissa := 0, scale := 0 }

def one : Decimal := { mantissa := 1, scale := 0 }

def unit (places : Nat) (scale_le : places ≤ 28 := by decide) : Decimal where
  mantissa := 1
  scale := places
  scale_le := scale_le

instance : Inhabited Decimal := ⟨zero⟩

def ofUInt64 (n : UInt64) : Decimal where
  mantissa := n.toNat
  scale := 0
  mantissa_lt := by have := n.toNat_lt; simp; omega
  scale_le := by decide

instance : LE Decimal :=
  ⟨fun a b => a.mantissa * 10 ^ b.scale ≤ b.mantissa * 10 ^ a.scale⟩

instance : LT Decimal :=
  ⟨fun a b => a.mantissa * 10 ^ b.scale < b.mantissa * 10 ^ a.scale⟩

theorem le_def (a b : Decimal) : a ≤ b ↔ a.mantissa * 10 ^ b.scale ≤ b.mantissa * 10 ^ a.scale :=
  Iff.rfl

theorem lt_def (a b : Decimal) : a < b ↔ a.mantissa * 10 ^ b.scale < b.mantissa * 10 ^ a.scale :=
  Iff.rfl

instance (a b : Decimal) : Decidable (a ≤ b) :=
  inferInstanceAs (Decidable (a.mantissa * 10 ^ b.scale ≤ b.mantissa * 10 ^ a.scale))

instance (a b : Decimal) : Decidable (a < b) :=
  inferInstanceAs (Decidable (a.mantissa * 10 ^ b.scale < b.mantissa * 10 ^ a.scale))

-- of two numbers of one value the first is taken
def max (a b : Decimal) : Decimal :=
  if a < b then b else a

def isZero (d : Decimal) : Bool :=
  d.mantissa == 0

def isPositive (d : Decimal) : Bool :=
  0 < d.mantissa

def isNegative (d : Decimal) : Bool :=
  d.mantissa < 0

def neg (d : Decimal) : Decimal where
  mantissa := -d.mantissa
  scale := d.scale
  mantissa_lt := by rw [Int.natAbs_neg]; exact d.mantissa_lt
  scale_le := d.scale_le

def abs (d : Decimal) : Decimal where
  mantissa := d.mantissa.natAbs
  scale := d.scale
  mantissa_lt := by exact d.mantissa_lt
  scale_le := d.scale_le

-- at most `places` places; a number that has no more is kept as it is written
def roundTo (r : Rounding) (places : Nat) (d : Decimal) : Decimal :=
  if h : d.scale ≤ places then d
  else
    { mantissa := r.round d.mantissa (10 ^ (d.scale - places))
      scale := places
      mantissa_lt := by
        have two : 2 ≤ 10 ^ (d.scale - places) :=
          Nat.le_trans (by decide : 2 ≤ 10 ^ (1 : Nat))
            (Nat.pow_le_pow_right (by decide) (by omega))
        exact Nat.lt_of_le_of_lt (r.natAbs_round_le d.mantissa two) d.mantissa_lt
      scale_le := by have := d.scale_le; omega }

def ceiling (d : Decimal) : Decimal where
  mantissa := Rounding.ceiling d.mantissa (10 ^ d.scale)
  scale := 0
  mantissa_lt := Nat.lt_of_le_of_lt (Rounding.natAbs_ceiling_le _ _) d.mantissa_lt
  scale_le := by decide

def toNat? (d : Decimal) : Option Nat :=
  let whole := Rounding.toZero.round d.mantissa (10 ^ d.scale)
  if whole < 0 then none else some whole.toNat

def toUInt64? (d : Decimal) : Option UInt64 :=
  d.toNat?.bind fun n => if n < 2 ^ (64 : Nat) then some (UInt64.ofNat n) else none

-- drops zeros at the end of the fraction
def stripZeros (m : Int) : Nat → Int × Nat
  | 0 => (m, 0)
  | s + 1 => if m % 10 = 0 then stripZeros (m / 10) s else (m, s + 1)

theorem stripZeros_le (m : Int) (s : Nat) :
    (stripZeros m s).1.natAbs ≤ m.natAbs ∧ (stripZeros m s).2 ≤ s := by
  induction s generalizing m with
  | zero => simp [stripZeros]
  | succ s ih =>
    unfold stripZeros
    split
    · have := ih (m / 10)
      omega
    · simp

def normalize (d : Decimal) : Decimal where
  mantissa := (stripZeros d.mantissa d.scale).1
  scale := (stripZeros d.mantissa d.scale).2
  mantissa_lt := Nat.lt_of_le_of_lt (stripZeros_le _ _).1 d.mantissa_lt
  scale_le := Nat.le_trans (stripZeros_le _ _).2 d.scale_le

end Decimal

end CoinWallet
