import CoinWallet.Proofs.Decimal.Sum
import CoinWallet.Amount
import Mathlib.Algebra.Order.Ring.Rat
import Mathlib.Algebra.Order.BigOperators.Group.List
import Mathlib.Tactic.Linarith
import Mathlib.Tactic.Positivity

set_option autoImplicit false

namespace CoinWallet

-- powers and sums are those of the core library
attribute [local instance (high)] instPowNat Zero.ofOfNat0

namespace Rounding

theorem halfEven_goesUp_iff {q rem den : Nat} :
    halfEven.goesUp q rem den = true ↔ den < 2 * rem ∨ 2 * rem = den ∧ q % 2 = 1 := by
  simp [goesUp]

-- an even number is reached half a unit before it
theorem le_quotient_iff {n d k : Nat} (pos : 0 < d) (even : k % 2 = 0) (some : 0 < k) :
    k ≤ halfEven.quotient n d ↔ (2 * k - 1) * d ≤ 2 * n := by
  have division := Nat.div_add_mod n d
  have less := Nat.mod_lt n pos
  have up := @halfEven_goesUp_iff (n / d) (n % d) d
  unfold quotient
  generalize n / d = q at division up ⊢
  generalize n % d = rem at division less up ⊢
  have product : (2 * q + 1) * d = 2 * (d * q) + d := by ring
  rcases Nat.lt_trichotomy k (q + 1) with below | rfl | above
  next =>
    have bound : (2 * k - 1) * d + 2 * d ≤ (2 * q + 1) * d := by
      rw [← Nat.add_mul]
      exact Nat.mul_le_mul_right d (by omega)
    constructor <;> intro _ <;> omega
  next =>
    rw [show 2 * (q + 1) - 1 = 2 * q + 1 by omega, product]
    split
    next goes =>
      have high := up.mp goes
      omega
    next stays =>
      have low := mt up.mpr stays
      omega
  next =>
    have bound : (2 * q + 1) * d + 2 * d ≤ (2 * k - 1) * d := by
      rw [← Nat.add_mul]
      exact Nat.mul_le_mul_right d (by omega)
    constructor
    next =>
      intro reached
      split at reached <;> omega
    next => omega

theorem natAbs_halfEven_round (n : Int) {d : Nat} (pos : 0 < d) :
    (halfEven.round n d).natAbs = halfEven.quotient n.natAbs d := by
  rcases eq_or_ne n 0 with rfl | some
  next =>
    have none := @halfEven.quotient_mul 0 d pos
    rw [Nat.zero_mul] at none
    simp [natAbs_round, none]
  next => rw [natAbs_round, Int.natAbs_sign_of_ne_zero some, Nat.one_mul]

end Rounding

namespace Decimal

theorem toRat_eq_div (d : Decimal) : d.toRat = d.mantissa / 10 ^ d.scale := by
  rw [toRat, Rat.mkRat_eq_div]
  push_cast
  rfl

theorem toRat_of_scale_eq_zero {d : Decimal} (whole : d.scale = 0) : d.toRat = d.mantissa := by
  rw [toRat_eq_div, whole, pow_zero, div_one]

theorem toRat_mul_scale (d : Decimal) : d.toRat * 10 ^ d.scale = d.mantissa := by
  rw [toRat_eq_div]
  field_simp

theorem ofScaled?_eq_none_iff {m : Int} {places : Nat} (le : places ≤ 28) :
    ofScaled? m places = none ↔ 2 ^ (96 : Nat) ≤ m.natAbs := by
  simp [ofScaled?, le]

theorem toRat_of_ofScaled? {m : Int} {places : Nat} {d : Decimal}
    (held : ofScaled? m places = some d) : d.toRat = m / 10 ^ places := by
  rw [ofScaled?, Option.dite_none_right_eq_some] at held
  obtain ⟨_, held⟩ := held
  cases held
  exact toRat_eq_div _

theorem toRat_abs (d : Decimal) : d.abs.toRat = |d.toRat| := by
  have value : (d.abs.mantissa : Rat) = |(d.mantissa : Rat)| := by
    rw [← Int.cast_abs, Int.abs_eq_natAbs]
    rfl
  rw [toRat_eq_div, toRat_eq_div, abs_div, value,
    abs_of_pos (by positivity : (0 : Rat) < 10 ^ d.scale)]
  rfl

theorem toRat_neg (d : Decimal) : d.neg.toRat = -d.toRat := by
  rw [toRat_eq_div, toRat_eq_div, neg, Int.cast_neg, neg_div]

theorem nearest?_eq_none_iff {num : Int} {den places : Nat} (pos : 0 < den) (le : places ≤ 28) :
    nearest? num den places = none ↔ (2 * 2 ^ (96 : Nat) - 1) * den ≤ 2 * num.natAbs := by
  have reached (n : Int) {k : Nat} (le : k ≤ 28) :
      ofScaled? (Rounding.halfEven.round n den) k = none ↔
        (2 * 2 ^ (96 : Nat) - 1) * den ≤ 2 * n.natAbs := by
    rw [ofScaled?_eq_none_iff le, Rounding.natAbs_halfEven_round n pos,
      Rounding.le_quotient_iff pos (by decide) (by decide)]
  induction places with
  | zero => exact reached num le
  | succ places ih =>
    have grows : num.natAbs ≤ (num * 10 ^ (places + 1)).natAbs := by
      rw [Int.natAbs_mul]
      exact Nat.le_mul_of_pos_right _ (Int.natAbs_pos.mpr (by positivity))
    rw [nearest?]
    split
    next d held =>
      have more := mt (reached (num * 10 ^ (places + 1)) le).mpr (by simp [held])
      simp only [reduceCtorEq, false_iff]
      omega
    next => exact ih (by omega)

def OnGrid (places : Nat) (x : Rat) : Prop :=
  ∃ n : Int, x * 10 ^ places = n

namespace OnGrid

variable {places : Nat} {x y : Rat}

theorem add (first : OnGrid places x) (second : OnGrid places y) : OnGrid places (x + y) := by
  obtain ⟨n, left⟩ := first
  obtain ⟨m, right⟩ := second
  exact ⟨n + m, by rw [add_mul, left, right, Int.cast_add]⟩

theorem neg (grid : OnGrid places x) : OnGrid places (-x) := by
  obtain ⟨n, units⟩ := grid
  exact ⟨-n, by rw [neg_mul, units, Int.cast_neg]⟩

theorem sub (first : OnGrid places x) (second : OnGrid places y) : OnGrid places (x - y) :=
  sub_eq_add_neg x y ▸ first.add second.neg

theorem mul_natCast (grid : OnGrid places x) (k : Nat) : OnGrid places (x * k) := by
  obtain ⟨n, units⟩ := grid
  exact ⟨n * k, by rw [mul_right_comm, units, Int.cast_mul, Int.cast_natCast]⟩

theorem of_scale_le {d : Decimal} (le : d.scale ≤ places) : OnGrid places d.toRat := by
  refine ⟨d.mantissa * 10 ^ (places - d.scale), ?_⟩
  obtain ⟨more, rfl⟩ := Nat.exists_eq_add_of_le le
  rw [toRat_eq_div, Nat.add_sub_cancel_left, pow_add]
  push_cast
  field_simp

theorem sum {xs : List Rat} (grids : ∀ x ∈ xs, OnGrid places x) : OnGrid places xs.sum := by
  induction xs with
  | nil => exact ⟨0, by simp⟩
  | cons x rest ih =>
    rw [List.sum_cons]
    exact (grids x List.mem_cons_self).add (ih fun y later => grids y (List.mem_cons_of_mem x later))

end OnGrid

theorem nearest?_exact {num n : Int} {den places digits : Nat} (pos : 0 < den)
    (exact : num * 10 ^ digits = n * den) (fits : n.natAbs < 2 ^ (96 : Nat))
    (fewer : digits ≤ places) (le : places ≤ 28) :
    ∃ d, nearest? num den places = some d ∧ d.toRat = n / 10 ^ digits := by
  obtain ⟨more, rfl⟩ := Nat.exists_eq_add_of_le fewer
  clear fewer
  have rounded (k : Nat) : Rounding.halfEven.round (num * 10 ^ (digits + k)) den = n * 10 ^ k := by
    have product : num * 10 ^ (digits + k) = n * 10 ^ k * den := by
      rw [pow_add, ← mul_assoc, exact]
      ring
    rw [product, Rounding.halfEven.round_mul _ pos]
  have value {k : Nat} {d : Decimal} (held : ofScaled? (n * 10 ^ k) (digits + k) = some d) :
      d.toRat = n / 10 ^ digits := by
    rw [toRat_of_ofScaled? held, pow_add]
    push_cast
    field_simp
  induction more with
  | zero =>
    have held : ofScaled? n digits = some ⟨n, digits, fits, le⟩ := by
      simp [ofScaled?, fits, show digits ≤ 28 from le]
    refine ⟨_, ?_, value (k := 0) (by simpa using held)⟩
    have first := rounded 0
    cases digits with
    | zero =>
      simp only [Nat.add_zero, pow_zero, Int.mul_one] at first
      rw [nearest?, first, held]
    | succ digits =>
      rw [Nat.add_zero] at first
      simp [nearest?, first, held]
  | succ more ih =>
    rw [← Nat.add_assoc, nearest?]
    split
    next d held =>
      refine ⟨d, rfl, value (k := more + 1) ?_⟩
      rwa [Nat.add_assoc, rounded] at held
    next => exact ih (by omega)

theorem natAbs_lt_iff {n : Int} {k : Nat} : n.natAbs < k ↔ |(n : Rat)| < k := by
  rw [← Int.cast_abs, Int.abs_eq_natAbs, Int.cast_natCast, Nat.cast_lt]

theorem nearest?_onGrid {num : Int} {scale places digits : Nat}
    (grid : OnGrid digits (num / 10 ^ scale))
    (small : |(num / 10 ^ scale : Rat)| * 10 ^ digits < 2 ^ 96)
    (enough : digits ≤ places ∨ scale ≤ places) (le : places ≤ 28) :
    ∃ d, nearest? num (10 ^ scale) places = some d ∧ d.toRat = num / 10 ^ scale := by
  have pos : 0 < 10 ^ scale := by positivity
  by_cases fewer : digits ≤ places
  next =>
    obtain ⟨n, units⟩ := grid
    have exact : num * 10 ^ digits = n * ((10 ^ scale : Nat) : Int) := by
      have cleared : (num : Rat) * 10 ^ digits = n * 10 ^ scale := by
        rw [← units]
        field_simp
      push_cast
      exact_mod_cast cleared
    have fits : n.natAbs < 2 ^ (96 : Nat) := by
      rw [natAbs_lt_iff, ← units, abs_mul, abs_of_pos (by positivity : (0 : Rat) < 10 ^ digits)]
      exact_mod_cast small
    obtain ⟨d, found, value⟩ := nearest?_exact pos exact fits fewer le
    refine ⟨d, found, ?_⟩
    rw [value, ← units]
    field_simp
  next =>
    have within : scale ≤ places := enough.resolve_left fewer
    have fits : num.natAbs < 2 ^ (96 : Nat) := by
      have whole : |(num : Rat)| = |(num / 10 ^ scale : Rat)| * 10 ^ scale := by
        rw [abs_div, abs_of_pos (by positivity : (0 : Rat) < 10 ^ scale)]
        field_simp
      have more : (10 : Rat) ^ scale ≤ 10 ^ digits :=
        pow_le_pow_right₀ (by norm_num) (by omega)
      rw [natAbs_lt_iff, whole]
      push_cast
      exact lt_of_le_of_lt (mul_le_mul_of_nonneg_left more (abs_nonneg _)) small
    exact nearest?_exact pos (by push_cast; rfl) fits within le

theorem toRat_of_isZero {a : Decimal} (none : a.isZero = true) : a.toRat = 0 := by
  have mantissa : a.mantissa = 0 := by simpa [isZero] using none
  rw [toRat_eq_div, mantissa, Int.cast_zero, zero_div]

@[simp] theorem toRat_zero : zero.toRat = 0 :=
  toRat_of_isZero rfl

theorem abs_mantissa_le (d : Decimal) : |(d.mantissa : Rat)| ≤ 2 ^ 96 - 1 := by
  have fits := d.mantissa_lt
  rw [← Int.cast_abs, Int.abs_eq_natAbs, Int.cast_natCast]
  have cast : ((d.mantissa.natAbs + 1 : Nat) : Rat) ≤ (2 ^ (96 : Nat) : Nat) := Nat.cast_le.mpr fits
  push_cast at cast
  linarith

theorem abs_toRat_le (a : Decimal) : |a.toRat| ≤ 2 ^ 96 - 1 := by
  have one : (1 : Rat) ≤ 10 ^ a.scale := one_le_pow₀ (by norm_num)
  rw [toRat_eq_div, abs_div, abs_of_pos (by positivity : (0 : Rat) < 10 ^ a.scale)]
  exact (div_le_self (abs_nonneg _) one).trans a.abs_mantissa_le

theorem aligned (a b : Decimal) :
    ((a.mantissa * 10 ^ (Nat.max a.scale b.scale - a.scale) +
      b.mantissa * 10 ^ (Nat.max a.scale b.scale - b.scale) : Int) : Rat) /
        10 ^ Nat.max a.scale b.scale = a.toRat + b.toRat := by
  have part {d : Decimal} {scale : Nat} (le : d.scale ≤ scale) :
      (d.mantissa : Rat) * 10 ^ (scale - d.scale) / 10 ^ scale = d.toRat := by
    rw [toRat_eq_div]
    nth_rewrite 2 [← Nat.sub_add_cancel le]
    rw [pow_add]
    field_simp
  push_cast
  rw [add_div, part (Nat.le_max_left _ _), part (Nat.le_max_right _ _)]

theorem nearest?_eq_none_iff_abs {num : Int} {den places : Nat} (pos : 0 < den)
    (le : places ≤ 28) :
    nearest? num den places = none ↔ 2 ^ 96 - 1 / 2 ≤ |(num / den : Rat)| := by
  have positive : (0 : Rat) < den := Nat.cast_pos.mpr pos
  rw [nearest?_eq_none_iff pos le, abs_div, abs_of_pos positive, le_div_iff₀ positive,
    ← Int.cast_abs, Int.abs_eq_natAbs, Int.cast_natCast, ← Nat.cast_le (α := Rat)]
  push_cast
  constructor <;> intro reached <;> linarith

theorem add?_eq_none_iff {a b : Decimal} :
    a.add? b = none ↔ 2 ^ 96 - 1 / 2 ≤ |a.toRat + b.toRat| := by
  have room (d : Decimal) : ¬ (2 ^ 96 - 1 / 2 ≤ |d.toRat|) := by
    have bound := d.abs_toRat_le
    linarith
  by_cases none : a.isZero = true
  next => simpa [add?, none, toRat_of_isZero none] using room b
  by_cases nothing : b.isZero = true
  next => simpa [add?, none, nothing, toRat_of_isZero nothing] using room a
  have within : Nat.max a.scale b.scale ≤ 28 := Nat.max_le.mpr ⟨a.scale_le, b.scale_le⟩
  simp only [add?, none, nothing, if_false, Bool.false_eq_true]
  rw [nearest?_eq_none_iff_abs (by positivity) within, ← aligned]
  push_cast
  rfl

theorem add?_exact {a b : Decimal} {digits : Nat} (grid : OnGrid digits (a.toRat + b.toRat))
    (small : |a.toRat + b.toRat| * 10 ^ digits < 2 ^ 96) :
    ∃ sum, a.add? b = some sum ∧ sum.toRat = a.toRat + b.toRat := by
  by_cases none : a.isZero = true
  next => exact ⟨b, by simp [add?, none], by rw [toRat_of_isZero none, zero_add]⟩
  by_cases nothing : b.isZero = true
  next => exact ⟨a, by simp [add?, none, nothing], by rw [toRat_of_isZero nothing, add_zero]⟩
  have within : Nat.max a.scale b.scale ≤ 28 := Nat.max_le.mpr ⟨a.scale_le, b.scale_le⟩
  rw [← aligned] at grid small ⊢
  simp only [add?, none, nothing, if_false, Bool.false_eq_true]
  exact nearest?_onGrid grid small (.inr (Nat.le_refl _)) within

theorem sub?_eq_none_iff {a b : Decimal} :
    a.sub? b = none ↔ 2 ^ 96 - 1 / 2 ≤ |a.toRat - b.toRat| := by
  rw [sub?, add?_eq_none_iff, toRat_neg, ← sub_eq_add_neg]

theorem sub?_exact {a b : Decimal} {digits : Nat} (grid : OnGrid digits (a.toRat - b.toRat))
    (small : |a.toRat - b.toRat| * 10 ^ digits < 2 ^ 96) :
    ∃ difference, a.sub? b = some difference ∧ difference.toRat = a.toRat - b.toRat := by
  rw [sub_eq_add_neg, ← toRat_neg] at grid small ⊢
  exact add?_exact grid small

theorem foldlM_add?_exact {ds : List Decimal} {a : Decimal} {digits : Nat}
    (start : OnGrid digits a.toRat) (grids : ∀ d ∈ ds, OnGrid digits d.toRat)
    (small : (|a.toRat| + (ds.map fun d => |d.toRat|).sum) * 10 ^ digits < 2 ^ 96) :
    ∃ sum, ds.foldlM add? a = some sum ∧ sum.toRat = a.toRat + (ds.map toRat).sum := by
  induction ds generalizing a with
  | nil => exact ⟨a, rfl, by simp⟩
  | cons d rest ih =>
    have grid := start.add (grids d List.mem_cons_self)
    have positive : (0 : Rat) < 10 ^ digits := by positivity
    rw [List.map_cons, List.sum_cons, ← add_assoc] at small
    have triangle := abs_add_le a.toRat d.toRat
    have others : 0 ≤ (rest.map fun d => |d.toRat|).sum :=
      List.sum_nonneg fun x member => by
        obtain ⟨other, _, rfl⟩ := List.mem_map.mp member
        exact abs_nonneg _
    have here : |a.toRat + d.toRat| * 10 ^ digits < 2 ^ 96 :=
      lt_of_le_of_lt (mul_le_mul_of_nonneg_right (by linarith) positive.le) small
    obtain ⟨next, added, value⟩ := add?_exact grid here
    obtain ⟨sum, rest, total⟩ :=
      ih (value ▸ grid) (fun other later => grids other (List.mem_cons_of_mem d later)) <| by
        rw [value]
        exact lt_of_le_of_lt (mul_le_mul_of_nonneg_right (by linarith) positive.le) small
    refine ⟨sum, by simp [added, rest], ?_⟩
    rw [total, value, List.map_cons, List.sum_cons, add_assoc]

theorem sum?_exact {ds : List Decimal} {digits : Nat} (grids : ∀ d ∈ ds, OnGrid digits d.toRat)
    (small : (ds.map fun d => |d.toRat|).sum * 10 ^ digits < 2 ^ 96) :
    ∃ sum, sum? ds = some sum ∧ sum.toRat = (ds.map toRat).sum := by
  simpa [sum?] using foldlM_add?_exact (a := zero) ⟨0, by simp⟩ grids (by simpa using small)

theorem toRat_ne_zero {a : Decimal} (some : ¬ a.isZero = true) : a.toRat ≠ 0 := by
  have mantissa : a.mantissa ≠ 0 := by simpa [isZero] using some
  rw [toRat_eq_div]
  exact div_ne_zero (Int.cast_ne_zero.mpr mantissa) (by positivity)

theorem product_eq (a b : Decimal) :
    ((a.mantissa * b.mantissa : Int) : Rat) / 10 ^ (a.scale + b.scale) = a.toRat * b.toRat := by
  rw [toRat_eq_div, toRat_eq_div, div_mul_div_comm]
  push_cast
  rw [pow_add]

theorem product_of_isZero {a b : Decimal} (none : (a.isZero || b.isZero) = true) :
    a.toRat * b.toRat = 0 := by
  rcases Bool.or_eq_true_iff.mp none with first | second
  · rw [toRat_of_isZero first, zero_mul]
  · rw [toRat_of_isZero second, mul_zero]

theorem mul?_eq_none_iff {a b : Decimal} :
    a.mul? b = none ↔ 2 ^ 96 - 1 / 2 ≤ |a.toRat * b.toRat| := by
  by_cases zero : (a.isZero || b.isZero) = true
  next =>
    rw [mul?, if_pos zero, product_of_isZero zero, abs_zero]
    simp only [reduceCtorEq, false_iff]
    norm_num
  next =>
    have pos : 0 < 10 ^ (a.scale + b.scale) := by positivity
    have within : maxScale.min (a.scale + b.scale) ≤ 28 := Nat.min_le_left _ _
    rw [mul?, if_neg zero, nearest?_eq_none_iff_abs pos within, ← product_eq]
    push_cast
    rfl

theorem shiftLeft?_isSome (d : Decimal) {places : Nat} (le : places ≤ 28) :
    ∃ shifted, d.shiftLeft? places = some shifted := by
  let factor : Decimal := .unit places le
  have held : ofScaled? 1 places = some factor := by simp [ofScaled?, le, factor, unit]
  have bound : |d.toRat * factor.toRat| ≤ |d.toRat| := by
    have one : (1 : Rat) ≤ 10 ^ places := one_le_pow₀ (by norm_num)
    rw [toRat_eq_div factor, abs_mul]
    refine mul_le_of_le_one_right (abs_nonneg _) ?_
    simp only [factor, unit, Int.cast_one, abs_div, abs_one,
      abs_of_pos (by linarith : (0 : Rat) < 10 ^ places)]
    exact div_le_one_of_le₀ one (by positivity)
  have room : d.mul? factor ≠ none := by
    rw [ne_eq, mul?_eq_none_iff]
    have limit := d.abs_toRat_le
    linarith
  obtain ⟨shifted, product⟩ := Option.ne_none_iff_exists'.mp room
  exact ⟨shifted, by simp [shiftLeft?, held, product]⟩

-- the divisor's sign is moved to the numerator
theorem quotient_eq {b : Decimal} (some : ¬ b.isZero = true) (a : Decimal) :
    ((a.mantissa * 10 ^ b.scale * b.mantissa.sign : Int) : Rat) /
      (b.mantissa.natAbs * 10 ^ a.scale : Nat) = a.toRat / b.toRat := by
  have mantissa : b.mantissa ≠ 0 := by simpa [isZero] using some
  have sign : (b.mantissa.sign : Rat) / b.mantissa.natAbs = 1 / b.mantissa := by
    have size : ((b.mantissa.natAbs : Int) : Rat) = |(b.mantissa : Rat)| := by
      rw [← Int.abs_eq_natAbs, Int.cast_abs]
    rw [← Int.cast_natCast, size]
    rcases Int.lt_or_gt_of_ne mantissa with neg | pos
    · rw [Int.sign_eq_neg_one_of_neg neg, abs_of_neg (Int.cast_lt_zero.mpr neg)]
      push_cast
      rw [neg_div_neg_eq]
    · rw [Int.sign_eq_one_of_pos pos, abs_of_pos (Int.cast_pos.mpr pos), Int.cast_one]
  rw [toRat_eq_div a, toRat_eq_div b]
  push_cast
  rw [mul_comm (b.mantissa.natAbs : Rat), mul_div_mul_comm, sign]
  field_simp

theorem divisor_pos {b : Decimal} (some : ¬ b.isZero = true) (a : Decimal) :
    0 < b.mantissa.natAbs * 10 ^ a.scale := by
  have mantissa : b.mantissa ≠ 0 := by simpa [isZero] using some
  exact Nat.mul_pos (Int.natAbs_pos.mpr mantissa) (by positivity)

theorem div?_eq_none_iff {a b : Decimal} :
    a.div? b = none ↔ b.toRat = 0 ∨ 2 ^ 96 - 1 / 2 ≤ |a.toRat / b.toRat| := by
  by_cases zero : b.isZero = true
  next => simp [div?, zero, toRat_of_isZero zero]
  have divisor := toRat_ne_zero zero
  by_cases nothing : a.isZero = true
  next =>
    rw [div?, if_neg zero, if_pos nothing, toRat_of_isZero nothing, zero_div, abs_zero]
    simp only [reduceCtorEq, divisor, false_or, false_iff]
    norm_num
  have within : maxScale ≤ 28 := Nat.le_refl _
  rw [div?, if_neg zero, if_neg nothing, nearest?_eq_none_iff_abs (divisor_pos zero a) within,
    quotient_eq zero]
  simp [divisor]

end Decimal
end CoinWallet
