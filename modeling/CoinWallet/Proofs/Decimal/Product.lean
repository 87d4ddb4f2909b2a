import CoinWallet.Proofs.Decimal.Order

set_option autoImplicit false

namespace CoinWallet

-- powers and sums are those of the core library
attribute [local instance (high)] instPowNat Zero.ofOfNat0

namespace Decimal

variable {a b d : Decimal} {digits places : Nat}

@[simp] theorem toRat_one : one.toRat = 1 := by
  rw [toRat_of_scale_eq_zero rfl, one, Int.cast_one]

@[simp] theorem toRat_ofUInt64 (n : UInt64) : (ofUInt64 n).toRat = n.toNat := by
  rw [toRat_of_scale_eq_zero rfl, ofUInt64, Int.cast_natCast]

theorem mul?_exact (grid : OnGrid digits (a.toRat * b.toRat))
    (small : |a.toRat * b.toRat| * 10 ^ digits < 2 ^ 96) (le : digits ≤ 28) :
    ∃ product, a.mul? b = some product ∧ product.toRat = a.toRat * b.toRat := by
  by_cases zero : (a.isZero || b.isZero) = true
  next => exact ⟨.zero, if_pos zero, by rw [toRat_zero, product_of_isZero zero]⟩
  rw [← product_eq] at grid small ⊢
  rw [mul?, if_neg zero]
  refine nearest?_onGrid grid small ?_ (Nat.min_le_left _ _)
  -- as many places as both have together, or all there are
  rcases Nat.le_total (a.scale + b.scale) maxScale with few | many
  · exact .inr (Nat.le_min.mpr ⟨few, Nat.le_refl _⟩)
  · exact .inl (Nat.le_min.mpr ⟨le, le.trans many⟩)

theorem toRat_mul?_of_whole {product : Decimal} {n : Int} (made : a.mul? b = some product)
    (whole : a.toRat * b.toRat = n) : product.toRat = n := by
  have room : ¬ 2 ^ 96 - 1 / 2 ≤ |a.toRat * b.toRat| := by
    rw [← mul?_eq_none_iff, made]
    nofun
  have small : |a.toRat * b.toRat| * 10 ^ 0 < 2 ^ 96 := by linarith
  obtain ⟨exact, equal, value⟩ := mul?_exact ⟨n, by rw [whole, pow_zero, mul_one]⟩ small (by decide)
  rw [made, Option.some.injEq] at equal
  rw [equal, value, whole]

theorem div?_exact (some : b.toRat ≠ 0) (grid : OnGrid digits (a.toRat / b.toRat))
    (small : |a.toRat / b.toRat| * 10 ^ digits < 2 ^ 96) (le : digits ≤ 28) :
    ∃ quotient, a.div? b = Option.some quotient ∧ quotient.toRat = a.toRat / b.toRat := by
  have divisor : ¬ b.isZero = true := mt toRat_of_isZero some
  by_cases nothing : a.isZero = true
  next => exact ⟨.zero, by simp [div?, divisor, nothing], by simp [toRat_of_isZero nothing]⟩
  obtain ⟨n, units⟩ := grid
  have pos := divisor_pos divisor a
  have exact : a.mantissa * 10 ^ b.scale * b.mantissa.sign * 10 ^ digits =
      n * (b.mantissa.natAbs * 10 ^ a.scale : Nat) := by
    have cleared := units
    rw [← quotient_eq divisor] at cleared
    generalize b.mantissa.natAbs * 10 ^ a.scale = den at cleared pos ⊢
    rw [div_mul_eq_mul_div, div_eq_iff (by positivity)] at cleared
    exact_mod_cast cleared
  have fits : n.natAbs < 2 ^ (96 : Nat) := by
    rw [natAbs_lt_iff, ← units, abs_mul, abs_of_pos (by positivity : (0 : Rat) < 10 ^ digits)]
    exact_mod_cast small
  obtain ⟨quotient, found, value⟩ := nearest?_exact pos exact fits le (Nat.le_refl 28)
  refine ⟨quotient, by simp [div?, divisor, nothing, maxScale, found], ?_⟩
  rw [value, ← units]
  field_simp

-- a decimal can hold this value, in digits below 2 ^ 96 at a scale of at most 28
def Held (x : Rat) : Prop :=
  ∃ scale ≤ 28, ∃ digits : Int, digits.natAbs < 2 ^ (96 : Nat) ∧ x * 10 ^ scale = digits

theorem held_toRat (d : Decimal) : Held d.toRat :=
  ⟨d.scale, d.scale_le, d.mantissa, d.mantissa_lt, d.toRat_mul_scale⟩

theorem mul?_of_held (held : Held (a.toRat * b.toRat)) :
    ∃ product, a.mul? b = some product ∧ product.toRat = a.toRat * b.toRat := by
  obtain ⟨scale, le, digits, fits, units⟩ := held
  refine mul?_exact ⟨digits, units⟩ ?_ le
  rw [natAbs_lt_iff, ← units, abs_mul, abs_of_pos (by positivity : (0 : Rat) < 10 ^ scale)] at fits
  exact_mod_cast fits

def Fits (places most : Nat) (x : Rat) : Prop :=
  ∃ digits ≤ places, ∃ n : Nat, n ≤ most ∧ x * 10 ^ digits = n

namespace Fits

variable {places most : Nat} {x y : Rat}

theorem of_significant {m : Nat} {z : Int} (significant : x = m * 10 ^ z) (few : m ≤ most)
    (grid : OnGrid places x) (le : x ≤ most) : Fits places most x := by
  cases z with
  | ofNat up =>
    have whole : x = (m * 10 ^ up : Nat) := by
      rw [significant, Int.ofNat_eq_natCast, zpow_natCast]
      push_cast
      rfl
    exact ⟨0, Nat.zero_le _, _, by exact_mod_cast whole ▸ le, by rw [pow_zero, mul_one, whole]⟩
  | negSucc down =>
    have digits : x * 10 ^ (down + 1) = m := by
      rw [significant, zpow_negSucc]
      field_simp
    by_cases fewer : down + 1 ≤ places
    next => exact ⟨down + 1, fewer, m, few, digits⟩
    -- the last of its digits are zeros, being beyond the grid
    obtain ⟨n, units⟩ := grid
    have nonneg : 0 ≤ x := nonneg_of_mul_nonneg_left (digits ▸ Nat.cast_nonneg m) (by positivity)
    have sign : 0 ≤ n := by
      have units_nonneg : 0 ≤ x * 10 ^ places := by positivity
      rw [units] at units_nonneg
      exact_mod_cast units_nonneg
    lift n to Nat using sign
    refine ⟨places, Nat.le_refl _, n, ?_, units⟩
    have more : (10 : Rat) ^ places ≤ 10 ^ (down + 1) := pow_le_pow_right₀ (by norm_num) (by omega)
    have within : (n : Rat) ≤ m := by
      rw [← Int.cast_natCast n, ← units, ← digits]
      exact mul_le_mul_of_nonneg_left more nonneg
    exact (Nat.cast_le.mp within).trans few

theorem mono {more larger : Nat} (fits : Fits places most x) (le : places ≤ more)
    (within : most ≤ larger) : Fits more larger x := by
  obtain ⟨digits, few, n, small, units⟩ := fits
  exact ⟨digits, few.trans le, n, small.trans within, units⟩

theorem max (first : Fits places most x) (second : Fits places most y) :
    Fits places most (Max.max x y) := by
  rcases max_choice x y with left | right
  · rwa [left]
  · rwa [right]

theorem mul_natCast (fits : Fits places most x) {k limit : Nat} (le : k ≤ limit) :
    Fits places (most * limit) (x * k) := by
  obtain ⟨digits, few, n, small, units⟩ := fits
  refine ⟨digits, few, n * k, Nat.mul_le_mul small le, ?_⟩
  rw [mul_right_comm, units, Nat.cast_mul]

theorem div_pow (fits : Fits places most x) (shift : Nat) :
    Fits (places + shift) most (x / 10 ^ shift) := by
  obtain ⟨digits, few, n, small, units⟩ := fits
  refine ⟨digits + shift, Nat.add_le_add_right few shift, n, small, ?_⟩
  rw [← units, pow_add]
  field_simp

theorem onGrid (fits : Fits places most x) (room : most < 2 ^ (96 : Nat)) :
    ∃ digits ≤ places, OnGrid digits x ∧ |x| * 10 ^ digits < 2 ^ 96 := by
  obtain ⟨digits, few, n, small, units⟩ := fits
  refine ⟨digits, few, ⟨n, by rw [units, Int.cast_natCast]⟩, ?_⟩
  nth_rewrite 1 [← abs_of_pos (by positivity : (0 : Rat) < 10 ^ digits)]
  rw [← abs_mul, units, Nat.abs_cast]
  exact_mod_cast small.trans_lt room

end Fits

variable {most : Nat}

theorem mul?_fits (fits : Fits 28 most (a.toRat * b.toRat)) (room : most < 2 ^ (96 : Nat)) :
    ∃ product, a.mul? b = some product ∧ product.toRat = a.toRat * b.toRat := by
  obtain ⟨digits, few, grid, small⟩ := fits.onGrid room
  exact mul?_exact grid small few

theorem div?_fits (some : b.toRat ≠ 0) (fits : Fits 28 most (a.toRat / b.toRat))
    (room : most < 2 ^ (96 : Nat)) :
    ∃ quotient, a.div? b = Option.some quotient ∧ quotient.toRat = a.toRat / b.toRat := by
  obtain ⟨digits, few, grid, small⟩ := fits.onGrid room
  exact div?_exact some grid small few

theorem toRat_unit (le : places ≤ 28) : (unit places le).toRat = 1 / 10 ^ places := by
  rw [toRat_eq_div, unit, Int.cast_one]

theorem shiftLeft?_exact (grid : OnGrid digits (d.toRat / 10 ^ places))
    (small : |d.toRat / 10 ^ places| * 10 ^ digits < 2 ^ 96) (le : digits ≤ 28) (few : places ≤ 28) :
    ∃ shifted, d.shiftLeft? places = some shifted ∧ shifted.toRat = d.toRat / 10 ^ places := by
  have factor : ofScaled? 1 places = some (unit places few) := by simp [ofScaled?, few, unit]
  rw [div_eq_mul_one_div, ← toRat_unit few] at grid small ⊢
  obtain ⟨shifted, product, value⟩ := mul?_exact grid small le
  exact ⟨shifted, by simp [shiftLeft?, factor, product], value⟩

theorem shiftLeft?_fits (fits : Fits 28 most (d.toRat / 10 ^ places)) (room : most < 2 ^ (96 : Nat))
    (few : places ≤ 28) :
    ∃ shifted, d.shiftLeft? places = some shifted ∧ shifted.toRat = d.toRat / 10 ^ places := by
  obtain ⟨digits, le, grid, small⟩ := fits.onGrid room
  exact shiftLeft?_exact grid small le few

theorem shiftLeft?_of_scale_eq_zero (whole : d.scale = 0) (few : places ≤ 28) :
    ∃ shifted, d.shiftLeft? places = some shifted ∧ shifted.toRat * 10 ^ places = d.toRat := by
  have mantissa := toRat_of_scale_eq_zero whole
  have units : d.toRat / 10 ^ places * 10 ^ places = d.mantissa := by
    rw [mantissa]
    field_simp
  have small : |d.toRat / 10 ^ places| * 10 ^ places < 2 ^ 96 := by
    have fits := natAbs_lt_iff.mp d.mantissa_lt
    nth_rewrite 2 [← abs_of_pos (by positivity : (0 : Rat) < 10 ^ places)]
    rw [← abs_mul, units]
    exact_mod_cast fits
  obtain ⟨shifted, made, value⟩ := shiftLeft?_exact ⟨d.mantissa, units⟩ small few few
  exact ⟨shifted, made, by rw [value, units, mantissa]⟩

end Decimal

end CoinWallet
