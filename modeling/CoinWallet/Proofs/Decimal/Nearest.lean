import CoinWallet.Proofs.Decimal.Order

set_option autoImplicit false

namespace CoinWallet

-- powers and sums are those of the core library
attribute [local instance (high)] instPowNat Zero.ofOfNat0

namespace Rounding

-- halfway between two of them it is the even one
structure NearestEven (x : Rat) (n : Int) : Prop where
  near : |x - n| ≤ 1 / 2
  even : |x - n| = 1 / 2 → n % 2 = 0

namespace NearestEven

variable {x y : Rat} {m n : Int}

theorem self (n : Int) : NearestEven n n where
  near := by norm_num
  even := by norm_num

theorem neg (nearest : NearestEven x n) : NearestEven (-x) (-n) := by
  have mirrored : |-x - (-n : Int)| = |x - n| := by
    rw [Int.cast_neg, neg_sub_neg, abs_sub_comm]
  refine ⟨mirrored ▸ nearest.near, fun half => ?_⟩
  have even := nearest.even (mirrored ▸ half)
  omega

theorem mono (first : NearestEven x m) (second : NearestEven y n) (le : x ≤ y) : m ≤ n := by
  by_contra less
  have above := (abs_le.mp first.near).1
  have below := (abs_le.mp second.near).2
  have apart : (n : Rat) + 1 ≤ m := by exact_mod_cast Int.not_le.mp less
  -- both are halfway between the same two whole numbers, of which only one is even
  have left : x - m = -(1 / 2) := by linarith
  have right : y - n = 1 / 2 := by linarith
  have lower := first.even (by rw [left]; norm_num)
  have upper := second.even (by rw [right]; norm_num)
  have next : m = n + 1 := by
    have same : (m : Rat) = n + 1 := by linarith
    exact_mod_cast same
  omega

theorem eq_of_whole (nearest : NearestEven x n) (whole : x = m) : n = m := by
  have same : NearestEven x m := whole ▸ self m
  exact Int.le_antisymm (nearest.mono same le_rfl) (same.mono nearest le_rfl)

end NearestEven

theorem nearestEven_quotient (n : Nat) {d : Nat} (pos : 0 < d) :
    NearestEven (n / d) (halfEven.quotient n d : Int) := by
  have less := Nat.mod_lt n pos
  have up := @halfEven_goesUp_iff (n / d) (n % d) d
  have positive : (0 : Rat) < d := Nat.cast_pos.mpr pos
  rw [div_eq_add n pos, quotient]
  generalize n / d = q at up ⊢
  generalize n % d = rem at less up ⊢
  have part : (0 : Rat) ≤ rem / d := by positivity
  split
  next goes =>
    -- what is missing to the next whole number
    have high := up.mp goes
    have missing : |(q + rem / d - ((q + 1 : Nat) : Int) : Rat)| = (d - rem : Nat) / (d : Rat) := by
      rw [Nat.cast_sub less.le, sub_div, div_self positive.ne', abs_sub_comm]
      push_cast
      rw [abs_of_nonneg] <;> linarith [(div_lt_one positive).mpr (Nat.cast_lt.mpr less)]
    constructor
    next =>
      rw [missing, div_le_div_iff₀ positive two_pos]
      exact_mod_cast (by omega : (d - rem) * 2 ≤ 1 * d)
    next =>
      rw [missing, div_eq_div_iff positive.ne' two_ne_zero]
      intro half
      have equal : (d - rem) * 2 = 1 * d := by exact_mod_cast half
      omega
  next stays =>
    have low := mt up.mpr stays
    have left : |(q + rem / d - ((q + 0 : Nat) : Int) : Rat)| = rem / d := by
      push_cast
      rw [add_zero, add_sub_cancel_left, abs_of_nonneg part]
    constructor
    next =>
      rw [left, div_le_div_iff₀ positive two_pos]
      exact_mod_cast (by omega : rem * 2 ≤ 1 * d)
    next =>
      rw [left, div_eq_div_iff positive.ne' two_ne_zero]
      intro half
      have equal : rem * 2 = 1 * d := by exact_mod_cast half
      omega

theorem nearestEven_round (n : Int) {d : Nat} (pos : 0 < d) :
    NearestEven (n / d) (halfEven.round n d) := by
  obtain ⟨k, rfl | rfl⟩ := n.eq_nat_or_neg
  next =>
    rw [round_natCast _ _ pos, Int.cast_natCast]
    exact nearestEven_quotient k pos
  next =>
    rw [round_neg, round_natCast _ _ pos, Int.cast_neg, Int.cast_natCast, neg_div]
    exact (nearestEven_quotient k pos).neg

end Rounding

namespace Decimal

open Rounding

/-- Nearest to `x` at as many places as there can be: nothing of `x` is lost, or no decimal has more
places, or one place more has no room. -/
structure Nearest (x : Rat) (d : Decimal) : Prop where
  near : NearestEven (x * 10 ^ d.scale) d.mantissa
  full : d.toRat = x ∨ d.scale = 28 ∨ 2 ^ 96 - 1 / 2 ≤ |x| * 10 ^ (d.scale + 1)

theorem toRat_of_mul_scale {d : Decimal} {x : Rat} (units : x * 10 ^ d.scale = d.mantissa) :
    d.toRat = x := by
  rw [toRat_eq_div, ← units]
  field_simp

namespace Nearest

variable {x y : Rat} {d e : Decimal}

theorem self (d : Decimal) : Nearest d.toRat d where
  near := d.toRat_mul_scale ▸ .self d.mantissa
  full := .inl rfl

theorem neg (nearest : Nearest x d) : Nearest (-x) d.neg where
  near := by
    rw [neg_mul]
    exact nearest.near.neg
  full := by
    rw [toRat_neg, neg_inj, abs_neg]
    exact nearest.full

-- the mantissa would have to be the even number above all that there are
theorem abs_mul_lt (nearest : Nearest x d) : |x| * 10 ^ d.scale < 2 ^ 96 - 1 / 2 := by
  have edge : NearestEven (2 ^ 96 - 1 / 2) (2 ^ 96) := by
    constructor <;> norm_num
  have limit := d.mantissa_lt
  by_contra beyond
  rw [not_lt] at beyond
  rcases abs_cases x with ⟨same, _⟩ | ⟨same, _⟩
  next =>
    have above := edge.mono nearest.near (same ▸ beyond)
    omega
  next =>
    have below := edge.mono nearest.near.neg (by rwa [same, neg_mul] at beyond)
    omega

-- with one place more there would be no room for the value, so that this one fills the mantissa
theorem le_mantissa_of_full (nearest : Nearest x d) (pos : 0 ≤ x)
    (full : 2 ^ 96 - 1 / 2 ≤ |x| * 10 ^ (d.scale + 1)) : (2 : Rat) ^ 96 - 1 ≤ d.mantissa * 10 := by
  have near := (abs_le.mp nearest.near.near).2
  rw [abs_of_nonneg pos, pow_succ 10, ← mul_assoc] at full
  -- a tenth of 2 ^ 96 - 1 / 2 is more than half a unit above this number
  have least : (7922816251426433759354395033 : Rat) < d.mantissa := by linarith
  have whole : (7922816251426433759354395034 : Int) ≤ d.mantissa := by exact_mod_cast least
  have cast : (7922816251426433759354395034 : Rat) ≤ d.mantissa := by exact_mod_cast whole
  linarith

-- the larger value has fewer places because it needs no more, or because it has no room for more
theorem le_of_scale_lt (first : Nearest x d) (second : Nearest y e) (le : x ≤ y)
    (fewer : e.scale < d.scale) : d.toRat ≤ e.toRat := by
  obtain ⟨more, scale⟩ := Nat.exists_eq_add_of_lt fewer
  have positive : (0 : Rat) < 10 ^ d.scale := by positivity
  rcases second.full with exact | all | full
  next =>
    -- the larger value is whole at the places of the smaller one too
    have whole : y * 10 ^ d.scale = (e.mantissa * 10 ^ (more + 1) : Int) := by
      rw [← exact, scale, Nat.add_assoc, pow_add, ← mul_assoc, toRat_mul_scale]
      push_cast
      rfl
    have below := first.near.mono (.self (e.mantissa * 10 ^ (more + 1)))
      (whole ▸ mul_le_mul_of_nonneg_right le positive.le)
    rw [exact, toRat_eq_div, div_le_iff₀ positive, whole]
    exact_mod_cast below
  next =>
    have limit := d.scale_le
    omega
  next =>
    have shift : (10 : Rat) ^ (e.scale + 1) ≤ 10 ^ d.scale :=
      pow_le_pow_right₀ (by norm_num) (by omega)
    rcases le_or_gt 0 y with pos | neg
    next =>
      have limit := (abs_le.mp d.abs_mantissa_le).2
      have most := second.le_mantissa_of_full pos full
      have nonneg : (0 : Rat) ≤ e.mantissa * 10 := by linarith
      calc d.toRat = d.mantissa / 10 ^ d.scale := toRat_eq_div d
        _ ≤ e.mantissa * 10 / 10 ^ d.scale :=
          div_le_div_of_nonneg_right (limit.trans most) positive.le
        _ ≤ e.mantissa * 10 / 10 ^ (e.scale + 1) :=
          div_le_div_of_nonneg_left nonneg (by positivity) shift
        _ = e.toRat := by
          rw [toRat_eq_div, pow_succ]
          field_simp
    next =>
      -- below zero the smaller value has even less room
      have larger : |y| ≤ |x| := by
        rw [abs_of_neg neg, abs_of_neg (by linarith)]
        linarith
      have room := first.abs_mul_lt
      have less := mul_le_mul larger shift (by positivity) (abs_nonneg x)
      linarith

theorem mono (first : Nearest x d) (second : Nearest y e) (le : x ≤ y) : d.toRat ≤ e.toRat := by
  rcases Nat.lt_trichotomy d.scale e.scale with fewer | same | more
  next =>
    have mirrored := second.neg.le_of_scale_lt first.neg (neg_le_neg le) fewer
    rwa [toRat_neg, toRat_neg, neg_le_neg_iff] at mirrored
  next =>
    have positive : (0 : Rat) < 10 ^ d.scale := by positivity
    have units := first.near.mono (same ▸ second.near) (mul_le_mul_of_nonneg_right le positive.le)
    rw [toRat_eq_div, toRat_eq_div, ← same]
    exact div_le_div_of_nonneg_right (Int.cast_le.mpr units) positive.le
  next => exact first.le_of_scale_lt second le more

theorem abs_sub_mul_le (nearest : Nearest x d) : |x - d.toRat| * 10 ^ d.scale ≤ 1 / 2 := by
  have near := nearest.near.near
  rwa [← toRat_mul_scale, ← sub_mul, abs_mul, abs_of_pos (by positivity : (0 : Rat) < 10 ^ d.scale)]
    at near

-- beside a value of 64 bits a full mantissa has nine places at least
theorem abs_sub_le (nearest : Nearest x d) (small : |x| ≤ 2 ^ 64) :
    |x - d.toRat| ≤ 1 / (2 * 10 ^ 9) := by
  have many (places : 9 ≤ d.scale) : |x - d.toRat| ≤ 1 / (2 * 10 ^ 9) := by
    have more : (10 : Rat) ^ 9 ≤ 10 ^ d.scale := pow_le_pow_right₀ (by norm_num) places
    have least := mul_le_mul_of_nonneg_left more (abs_nonneg (x - d.toRat))
    rw [le_div_iff₀ (by norm_num)]
    linarith [nearest.abs_sub_mul_le]
  rcases nearest.full with exact | all | full
  next =>
    rw [exact, sub_self, abs_zero]
    norm_num
  next => exact many (by omega)
  next =>
    refine many ?_
    by_contra few
    have fewer : (10 : Rat) ^ (d.scale + 1) ≤ 10 ^ 9 := pow_le_pow_right₀ (by norm_num) (by omega)
    have most := full.trans (mul_le_mul small fewer (by positivity) (by norm_num))
    norm_num at most

end Nearest

variable {a b d : Decimal}

theorem parts_of_ofScaled? {m : Int} {places : Nat} (held : ofScaled? m places = some d) :
    d.mantissa = m ∧ d.scale = places := by
  rw [ofScaled?, Option.dite_none_right_eq_some] at held
  obtain ⟨_, held⟩ := held
  cases held
  exact ⟨rfl, rfl⟩

theorem nearest_of_ofScaled? {num : Int} {den places : Nat} (pos : 0 < den)
    (held : ofScaled? (halfEven.round (num * 10 ^ places) den) places = some d)
    (full : places = 28 ∨ OnGrid places (num / den) ∨
      2 ^ 96 - 1 / 2 ≤ |(num / den : Rat)| * 10 ^ (places + 1)) : Nearest (num / den) d := by
  obtain ⟨mantissa, scale⟩ := parts_of_ofScaled? held
  have near : NearestEven (num / den * 10 ^ d.scale) d.mantissa := by
    rw [mantissa, scale, div_mul_eq_mul_div]
    exact_mod_cast nearestEven_round (num * 10 ^ places) pos
  refine ⟨near, ?_⟩
  rcases full with all | ⟨n, units⟩ | full
  next => exact .inr (.inl (scale.trans all))
  next =>
    rw [← scale] at units
    exact .inl (toRat_of_mul_scale (by rw [near.eq_of_whole units, units]))
  next => exact .inr (.inr (scale ▸ full))

-- what is left out at the start is left out because it is not there, or because there is no room
-- for it
theorem nearest_of_nearest? {num : Int} {den places : Nat} (pos : 0 < den) (le : places ≤ 28)
    (made : nearest? num den places = some d)
    (full : places = 28 ∨ OnGrid places (num / den) ∨
      2 ^ 96 - 1 / 2 ≤ |(num / den : Rat)| * 10 ^ (places + 1)) : Nearest (num / den) d := by
  induction places with
  | zero => exact nearest_of_ofScaled? pos (by simpa [nearest?] using made) full
  | succ places ih =>
    rw [nearest?] at made
    split at made
    next other held => exact Option.some.inj made ▸ nearest_of_ofScaled? pos held full
    next none =>
      refine ih (by omega) made (.inr (.inr ?_))
      have beyond : nearest? (num * 10 ^ (places + 1)) den 0 = Option.none := by
        rw [nearest?, ofScaled?_eq_none_iff (by decide), ← ofScaled?_eq_none_iff le, none]
      rw [nearest?_eq_none_iff_abs pos (by decide)] at beyond
      push_cast at beyond
      rwa [← div_mul_eq_mul_div, abs_mul, abs_of_pos (by positivity : (0 : Rat) < 10 ^ (places + 1))]
        at beyond

theorem onGrid_div_pow (num : Int) (places : Nat) : OnGrid places (num / (10 ^ places : Nat)) :=
  ⟨num, by push_cast; field_simp⟩

theorem nearest_add? (made : a.add? b = some d) : Nearest (a.toRat + b.toRat) d := by
  unfold add? at made
  split at made
  next zero =>
    cases made
    simpa [toRat_of_isZero zero] using Nearest.self b
  split at made
  next zero =>
    cases made
    simpa [toRat_of_isZero zero] using Nearest.self a
  have within : Nat.max a.scale b.scale ≤ 28 := Nat.max_le.mpr ⟨a.scale_le, b.scale_le⟩
  have nearest := nearest_of_nearest? (by positivity) within made (.inr (.inl (onGrid_div_pow _ _)))
  rw [← aligned]
  exact_mod_cast nearest

theorem nearest_mul? (made : a.mul? b = some d) : Nearest (a.toRat * b.toRat) d := by
  unfold mul? at made
  split at made
  next zero =>
    cases made
    simpa [product_of_isZero zero] using Nearest.self Decimal.zero
  generalize few : maxScale.min (a.scale + b.scale) = places at made
  have within : places ≤ 28 := few ▸ Nat.min_le_left _ _
  have nearest := nearest_of_nearest? (by positivity) within made <| by
    rcases Nat.le_total maxScale (a.scale + b.scale) with all | fewer
    next => exact .inl (few.symm.trans (Nat.min_eq_left all))
    next =>
      rw [few.symm.trans (Nat.min_eq_right fewer)]
      exact .inr (.inl (onGrid_div_pow _ _))
  rw [← product_eq]
  exact_mod_cast nearest

theorem nearest_div? (made : a.div? b = some d) : Nearest (a.toRat / b.toRat) d := by
  unfold div? at made
  split at made
  next => cases made
  next some =>
    split at made
    next zero =>
      cases made
      simpa [toRat_of_isZero zero] using Nearest.self Decimal.zero
    rw [← quotient_eq some]
    exact nearest_of_nearest? (divisor_pos some a) (Nat.le_refl 28) made (.inl rfl)

-- a whole number that a product has reached is a decimal too
theorem le_of_mul? {product : Decimal} {k : Nat} (made : a.mul? b = some product)
    (reached : k ≤ a.toRat * b.toRat) : k ≤ product.toRat := by
  have room : ¬ 2 ^ 96 - 1 / 2 ≤ |a.toRat * b.toRat| := by
    rw [← mul?_eq_none_iff, made]
    nofun
  have least := le_abs_self (a.toRat * b.toRat)
  have fits : k < 2 ^ (96 : Nat) := by
    have below : (k : Rat) < (2 ^ (96 : Nat) : Nat) := by
      push_cast
      linarith
    exact_mod_cast below
  let whole : Decimal := { mantissa := k, scale := 0, mantissa_lt := by simpa using fits }
  have value : whole.toRat = k := by rw [toRat_eq_div, pow_zero, div_one, Int.cast_natCast]
  rw [← value] at reached ⊢
  exact (Nearest.self whole).mono (nearest_mul? made) reached

end Decimal

end CoinWallet
