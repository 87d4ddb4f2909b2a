import CoinWallet.Decimal.Arithmetic
import Mathlib.Data.Rat.Defs
import Mathlib.Tactic.FieldSimp
import Mathlib.Tactic.Ring

set_option autoImplicit false

namespace CoinWallet

-- powers and sums are those of the core library
attribute [local instance (high)] instPowNat Zero.ofOfNat0

namespace Rounding

theorem quotient_mul (r : Rounding) (n : Nat) {d : Nat} (pos : 0 < d) : r.quotient (n * d) d = n := by
  have rem : n * d % d = 0 := Nat.mul_mod_left n d
  have div : n * d / d = n := Nat.mul_div_cancel n pos
  have stays : r.goesUp n 0 d = false := by
    cases r <;> simp [goesUp] <;> omega
  simp [quotient, rem, div, stays]

theorem round_mul (r : Rounding) (n : Int) {d : Nat} (pos : 0 < d) : r.round (n * d) d = n := by
  have sign : (n * d).sign = n.sign := by
    rw [Int.sign_mul, Int.sign_natCast_of_ne_zero (by omega), Int.mul_one]
  rw [round, sign, Int.natAbs_mul, Int.natAbs_natCast, quotient_mul r _ pos, Int.sign_mul_natAbs]

end Rounding

namespace Decimal

theorem nearest?_pow {n : Int} {places : Nat} (fits : n.natAbs < 2 ^ (96 : Nat)) (le : places ≤ 28) :
    nearest? n (10 ^ places) places = some ⟨n, places, fits, le⟩ := by
  cases places with
  | zero =>
    have exact := Rounding.halfEven.round_mul n Nat.one_pos
    rw [Nat.cast_one, Int.mul_one] at exact
    simp [nearest?, exact, ofScaled?, fits]
  | succ places =>
    have exact := Rounding.halfEven.round_mul n (Nat.pow_pos (n := places + 1) (by decide : 0 < 10))
    rw [Nat.cast_pow] at exact
    simp only [nearest?]
    rw [show (10 : Int) = ((10 : Nat) : Int) from rfl, exact]
    simp [ofScaled?, fits, le]

-- at least zero, and without anything below the last of `places` places
def Whole (places : Nat) (d : Decimal) : Prop :=
  0 ≤ d.mantissa ∧ d.scale ≤ places

-- in the last of `places` places
def units (places : Nat) (d : Decimal) : Nat :=
  d.mantissa.toNat * 10 ^ (places - d.scale)

variable {places : Nat} {a b : Decimal}

theorem whole_zero (places : Nat) : zero.Whole places :=
  ⟨Int.le_refl 0, Nat.zero_le _⟩

@[simp] theorem units_zero (places : Nat) : zero.units places = 0 :=
  Nat.zero_mul _

theorem units_of_isZero (none : a.isZero = true) (places : Nat) : a.units places = 0 := by
  have mantissa : a.mantissa = 0 := by simpa [isZero] using none
  simp [units, mantissa]

theorem Whole.mantissa_mul (whole : a.Whole places) :
    a.mantissa * 10 ^ (places - a.scale) = a.units places := by
  have sign : (a.mantissa.toNat : Int) = a.mantissa := Int.toNat_of_nonneg whole.1
  simp [units, sign]

theorem Whole.units_mul {fewer : Nat} (whole : a.Whole fewer) (le : fewer ≤ places) :
    a.units fewer * 10 ^ (places - fewer) = a.units places := by
  have exponent : places - a.scale = (fewer - a.scale) + (places - fewer) := by
    have := whole.2
    omega
  rw [units, units, exponent, Nat.pow_add, Nat.mul_assoc]

theorem Whole.add? (first : a.Whole places) (second : b.Whole places) (le : places ≤ 28)
    (room : a.units places + b.units places < 2 ^ (96 : Nat)) :
    ∃ sum, a.add? b = some sum ∧ sum.Whole places ∧
      sum.units places = a.units places + b.units places := by
  by_cases none : a.isZero = true
  next => exact ⟨b, by simp [Decimal.add?, none], second, by simp [units_of_isZero none]⟩
  by_cases nothing : b.isZero = true
  next => exact ⟨a, by simp [Decimal.add?, none, nothing], first, by simp [units_of_isZero nothing]⟩
  -- at the greater of both scales each of them is whole, and so is the sum
  let scale := Nat.max a.scale b.scale
  have inside : scale ≤ places := Nat.max_le.mpr ⟨first.2, second.2⟩
  have left : a.Whole scale := ⟨first.1, Nat.le_max_left _ _⟩
  have right : b.Whole scale := ⟨second.1, Nat.le_max_right _ _⟩
  have total : (a.units scale + b.units scale) * 10 ^ (places - scale) =
      a.units places + b.units places := by
    rw [Nat.add_mul, left.units_mul inside, right.units_mul inside]
  have fits : ((a.units scale + b.units scale : Nat) : Int).natAbs < 2 ^ (96 : Nat) := by
    have grows := Nat.le_mul_of_pos_right (a.units scale + b.units scale)
      (Nat.pow_pos (n := places - scale) (by decide : 0 < 10))
    rw [Int.natAbs_natCast]
    omega
  refine ⟨⟨_, scale, fits, by omega⟩, ?_, ⟨Int.natCast_nonneg _, inside⟩, ?_⟩
  next =>
    have sum : a.mantissa * 10 ^ (scale - a.scale) + b.mantissa * 10 ^ (scale - b.scale) =
        ((a.units scale + b.units scale : Nat) : Int) := by
      rw [left.mantissa_mul, right.mantissa_mul, Nat.cast_add]
    simp only [Decimal.add?, none, nothing, if_false, Bool.false_eq_true]
    rw [show Nat.max a.scale b.scale = scale from rfl, sum, nearest?_pow fits]
  next => rw [← total, units, Int.toNat_natCast]

theorem Whole.foldlM_add? {ds : List Decimal} (start : a.Whole places)
    (whole : ∀ d ∈ ds, d.Whole places) (le : places ≤ 28)
    (room : a.units places + (ds.map (units places)).sum < 2 ^ (96 : Nat)) :
    ∃ sum, ds.foldlM Decimal.add? a = some sum ∧ sum.Whole places ∧
      sum.units places = a.units places + (ds.map (units places)).sum := by
  induction ds generalizing a with
  | nil => exact ⟨a, rfl, start, by simp⟩
  | cons d rest ih =>
    rw [List.map_cons, List.sum_cons] at room ⊢
    obtain ⟨next, added, here, units⟩ :=
      start.add? (whole d List.mem_cons_self) le (by omega)
    obtain ⟨sum, rest, there, total⟩ :=
      ih here (fun other member => whole other (List.mem_cons_of_mem _ member)) (by omega)
    exact ⟨sum, by simp [added, rest], there, by omega⟩

theorem Whole.sum? {ds : List Decimal} (whole : ∀ d ∈ ds, d.Whole places) (le : places ≤ 28)
    (room : (ds.map (units places)).sum < 2 ^ (96 : Nat)) :
    ∃ sum, Decimal.sum? ds = some sum ∧ sum.Whole places ∧
      sum.units places = (ds.map (units places)).sum := by
  have added := (whole_zero places).foldlM_add? whole le (by simpa using room)
  simpa [Decimal.sum?] using added

theorem Whole.toRat_eq (whole : a.Whole places) : a.toRat = a.units places / 10 ^ places := by
  have exponent : places = (places - a.scale) + a.scale := by
    have := whole.2
    omega
  have sign : (a.mantissa.toNat : Int) = a.mantissa := Int.toNat_of_nonneg whole.1
  have value : (a.mantissa : Rat) = a.mantissa.toNat := by rw [← Int.cast_natCast, sign]
  rw [toRat, Rat.mkRat_eq_div, units, value]
  nth_rewrite 2 [exponent]
  rw [pow_add]
  push_cast
  field_simp

theorem Whole.sum_toRat {ds : List Decimal} (whole : ∀ d ∈ ds, d.Whole places) :
    (ds.map toRat).sum = ((ds.map (units places)).sum : Nat) / 10 ^ places := by
  induction ds with
  | nil => simp
  | cons d rest ih =>
    have here := (whole d List.mem_cons_self).toRat_eq
    have there := ih fun other member => whole other (List.mem_cons_of_mem _ member)
    simp only [List.map_cons, List.sum_cons, here, there]
    push_cast
    ring

end Decimal

end CoinWallet
