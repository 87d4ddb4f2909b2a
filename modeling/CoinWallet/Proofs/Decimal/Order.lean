import CoinWallet.Proofs.Decimal.Exact
import Mathlib.Data.Rat.Floor

set_option autoImplicit false

namespace CoinWallet

-- powers and sums are those of the core library
attribute [local instance (high)] instPowNat Zero.ofOfNat0

namespace Rounding

theorem le_round {r : Rounding} {n : Int} {d k : Nat} (pos : 0 < d) (reached : k * d ≤ n) :
    k ≤ r.round n d := by
  rcases Nat.eq_zero_or_pos k with rfl | some
  next =>
    have sign : 0 ≤ n.sign := Int.sign_nonneg_iff.mpr (by simpa using reached)
    exact Int.mul_nonneg sign (Int.natCast_nonneg _)
  have least : 0 < (k * d : Int) := by exact_mod_cast Nat.mul_pos some pos
  have whole : k ≤ n.natAbs / d := (Nat.le_div_iff_mul_le pos).mpr (by omega)
  rw [round, Int.sign_eq_one_of_pos (by omega), Int.one_mul, Int.ofNat_le, quotient]
  exact whole.trans (Nat.le_add_right _ _)

theorem round_toZero {n : Int} (nonneg : 0 ≤ n) {d : Nat} : toZero.round n d = n / d := by
  rcases eq_or_ne n 0 with rfl | some
  next => simp [round]
  next =>
    have size : (n.natAbs : Int) = n := Int.natAbs_of_nonneg nonneg
    rw [round, Int.sign_eq_one_of_pos (by omega), Int.one_mul]
    simp [quotient, goesUp, size]

theorem round_natCast (r : Rounding) (n : Nat) {d : Nat} (pos : 0 < d) :
    r.round n d = r.quotient n d := by
  rcases Nat.eq_zero_or_pos n with rfl | some
  next =>
    have none := r.quotient_mul 0 pos
    rw [Nat.zero_mul] at none
    simp [round, none]
  next => rw [round, Int.sign_natCast_of_ne_zero (by omega), Int.one_mul, Int.natAbs_natCast]

theorem round_neg (r : Rounding) (n : Int) (d : Nat) : r.round (-n) d = -r.round n d := by
  rw [round, round, Int.sign_neg, Int.natAbs_neg, Int.neg_mul]

-- the quotient of two naturals, and what is left of it
theorem div_eq_add (n : Nat) {d : Nat} (pos : 0 < d) :
    (n / d : Rat) = (n / d : Nat) + (n % d : Nat) / (d : Rat) := by
  have positive : (0 : Rat) < d := Nat.cast_pos.mpr pos
  rw [div_eq_iff positive.ne', add_mul, div_mul_cancel₀ _ positive.ne', mul_comm]
  exact_mod_cast (Nat.div_add_mod n d).symm

def cut (x : Rat) : Int :=
  if 0 ≤ x then ⌊x⌋ else ⌈x⌉

theorem cut_neg (x : Rat) : cut (-x) = -cut x := by
  rcases lt_trichotomy x 0 with neg | rfl | pos
  next => simp [cut, not_le.mpr neg, neg.le, Int.floor_neg]
  next => simp [cut]
  next => simp [cut, not_le.mpr pos, pos.le, Int.ceil_neg]

theorem cut_mono {x y : Rat} (le : x ≤ y) : cut x ≤ cut y := by
  unfold cut
  split
  next nonneg =>
    rw [if_pos (nonneg.trans le)]
    exact Int.floor_mono le
  next neg =>
    split
    next nonneg => exact (Int.ceil_nonpos.mpr (not_le.mp neg).le).trans (Int.floor_nonneg.mpr nonneg)
    next => exact Int.ceil_mono le

theorem round_toZero_eq_cut (n : Int) {d : Nat} (pos : 0 < d) : toZero.round n d = cut (n / d) := by
  have natural (k : Nat) : toZero.round k d = cut (k / d) := by
    rw [round_toZero (Int.natCast_nonneg k), cut, if_pos (by positivity)]
    exact (Rat.floor_intCast_div_natCast k d).symm
  obtain ⟨k, rfl | rfl⟩ := n.eq_nat_or_neg
  next => exact natural k
  next => rw [round_neg, natural, Int.cast_neg, neg_div, cut_neg, Int.cast_natCast]

theorem ceiling_eq (n : Int) (d : Nat) : ceiling n d = ⌈(n / d : Rat)⌉ := by
  rw [ceiling, ← Rat.floor_intCast_div_natCast, Int.cast_neg, neg_div, Int.floor_neg, neg_neg]

end Rounding

namespace Decimal

variable {a b d : Decimal} {places : Nat}

theorem le_iff : a ≤ b ↔ a.toRat ≤ b.toRat := by
  rw [le_def, toRat_eq_div, toRat_eq_div, div_le_div_iff₀ (by positivity) (by positivity)]
  exact_mod_cast Iff.rfl

theorem lt_iff : a < b ↔ a.toRat < b.toRat := by
  rw [lt_def, toRat_eq_div, toRat_eq_div, div_lt_div_iff₀ (by positivity) (by positivity)]
  exact_mod_cast Iff.rfl

@[simp] theorem toRat_max (a b : Decimal) : (a.max b).toRat = Max.max a.toRat b.toRat := by
  unfold max
  split
  next less => exact (max_eq_right (lt_iff.mp less).le).symm
  next least => exact (max_eq_left (not_lt.mp (mt lt_iff.mpr least))).symm

theorem max_eq_or (a b : Decimal) : a.max b = a ∨ a.max b = b := by
  unfold max
  split <;> simp

theorem isZero_iff : d.isZero = true ↔ d.toRat = 0 :=
  ⟨toRat_of_isZero, not_imp_not.mp toRat_ne_zero⟩

theorem isPositive_iff : d.isPositive = true ↔ 0 < d.toRat := by
  rw [isPositive, decide_eq_true_eq, toRat_eq_div, div_pos_iff_of_pos_right (by positivity), Int.cast_pos]

theorem isNegative_iff : d.isNegative = true ↔ d.toRat < 0 := by
  rw [isNegative, decide_eq_true_eq, toRat_eq_div, div_lt_iff₀ (by positivity), zero_mul,
    Int.cast_lt_zero]

theorem scale_roundTo_le (r : Rounding) (places : Nat) (d : Decimal) :
    (d.roundTo r places).scale ≤ places := by
  unfold roundTo
  split
  next le => exact le
  next => exact Nat.le_refl _

theorem toRat_roundTo (r : Rounding) (places : Nat) (d : Decimal) :
    (d.roundTo r places).toRat =
      (r.round (d.mantissa * 10 ^ (places - d.scale)) (10 ^ (d.scale - places)) : Int) /
        10 ^ places := by
  unfold roundTo
  split
  next le =>
    obtain ⟨more, rfl⟩ := Nat.exists_eq_add_of_le le
    have kept := r.round_mul (d.mantissa * 10 ^ (d.scale + more - d.scale)) Nat.one_pos
    rw [Nat.cast_one, Int.mul_one, Nat.add_sub_cancel_left] at kept
    rw [Nat.sub_eq_zero_of_le le, pow_zero, Nat.add_sub_cancel_left, kept, toRat_eq_div, pow_add]
    push_cast
    field_simp
  next more =>
    rw [Nat.sub_eq_zero_of_le (Nat.le_of_not_le more), pow_zero, Int.mul_one, toRat_eq_div]

-- a value in the last of the places that are kept
theorem toRat_mul_pow (d : Decimal) (places : Nat) :
    d.toRat * 10 ^ places =
      (d.mantissa * 10 ^ (places - d.scale) : Int) / (10 ^ (d.scale - places) : Nat) := by
  rw [toRat_eq_div]
  push_cast
  rcases Nat.le_total d.scale places with le | le
  all_goals
    obtain ⟨more, equal⟩ := Nat.exists_eq_add_of_le le
    rw [Nat.sub_eq_zero_of_le le, equal, Nat.add_sub_cancel_left, pow_zero, pow_add]
    field_simp

theorem toRat_roundTo_of_onGrid (r : Rounding) (grid : OnGrid places d.toRat) :
    (d.roundTo r places).toRat = d.toRat := by
  obtain ⟨n, units⟩ := grid
  have exact : d.mantissa * 10 ^ (places - d.scale) = n * (10 ^ (d.scale - places) : Nat) := by
    have cleared := units
    rw [toRat_mul_pow, div_eq_iff (by positivity)] at cleared
    exact_mod_cast cleared
  rw [toRat_roundTo, exact, r.round_mul n (by positivity), ← units]
  field_simp

theorem toRat_roundTo_eq_cut (d : Decimal) (places : Nat) :
    (d.roundTo .toZero places).toRat = Rounding.cut (d.toRat * 10 ^ places) / 10 ^ places := by
  rw [toRat_roundTo, toRat_mul_pow, Rounding.round_toZero_eq_cut _ (by positivity)]

theorem toRat_roundTo_toZero (nonneg : 0 ≤ d.toRat) (places : Nat) :
    (d.roundTo .toZero places).toRat = ⌊d.toRat * 10 ^ places⌋ / 10 ^ places := by
  rw [toRat_roundTo_eq_cut, Rounding.cut, if_pos (by positivity)]

theorem toRat_roundTo_toZero_mono (le : a.toRat ≤ b.toRat) (places : Nat) :
    (a.roundTo .toZero places).toRat ≤ (b.roundTo .toZero places).toRat := by
  have positive : (0 : Rat) < 10 ^ places := by positivity
  have whole := Rounding.cut_mono (mul_le_mul_of_nonneg_right le positive.le)
  rw [toRat_roundTo_eq_cut, toRat_roundTo_eq_cut]
  exact div_le_div_of_nonneg_right (Int.cast_le.mpr whole) positive.le

theorem le_toRat_roundTo {r : Rounding} {k : Nat} (reached : k ≤ d.toRat) :
    k ≤ (d.roundTo r 0).toRat := by
  rw [← mul_one d.toRat, ← pow_zero 10, toRat_mul_pow, le_div_iff₀ (by positivity)] at reached
  have least : (k : Int) ≤ r.round (d.mantissa * 10 ^ (0 - d.scale)) (10 ^ (d.scale - 0)) :=
    Rounding.le_round (by positivity) (by exact_mod_cast reached)
  rw [toRat_roundTo, pow_zero, div_one]
  exact_mod_cast least

theorem toNat?_eq_floor (nonneg : 0 ≤ d.toRat) : d.toNat? = some ⌊d.toRat⌋₊ := by
  have whole : Rounding.toZero.round d.mantissa (10 ^ d.scale) = ⌊d.toRat⌋ := by
    have value := toRat_eq_div d
    rw [Rounding.round_toZero_eq_cut _ (by positivity)]
    push_cast
    rw [← value, Rounding.cut, if_pos nonneg]
  have sign : ¬ ⌊d.toRat⌋ < 0 := not_lt.mpr (Int.floor_nonneg.mpr nonneg)
  rw [toNat?, whole, if_neg sign, Int.floor_toNat]

theorem toRat_ceiling (d : Decimal) : d.ceiling.toRat = ⌈d.toRat⌉ := by
  have whole : d.ceiling.mantissa = ⌈d.toRat⌉ := by
    rw [toRat_eq_div]
    exact_mod_cast Rounding.ceiling_eq d.mantissa (10 ^ d.scale)
  rw [toRat_of_scale_eq_zero rfl, whole]

theorem toUInt64?_ceiling (nonneg : 0 ≤ d.toRat) :
    d.ceiling.toUInt64? =
      if ⌈d.toRat⌉₊ < 2 ^ (64 : Nat) then some (.ofNat ⌈d.toRat⌉₊) else none := by
  have above : 0 ≤ d.ceiling.toRat := by
    rw [toRat_ceiling]
    exact_mod_cast Int.ceil_nonneg nonneg
  rw [toUInt64?, toNat?_eq_floor above, toRat_ceiling, ← natCast_ceil_eq_intCast_ceil nonneg,
    Nat.floor_natCast]
  rfl

end Decimal

end CoinWallet
