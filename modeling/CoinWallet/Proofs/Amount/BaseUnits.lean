import CoinWallet.Proofs.Decimal.Product

set_option autoImplicit false

namespace CoinWallet

-- powers and sums are those of the core library
attribute [local instance (high)] instPowNat Zero.ofOfNat0

def multiplesUpTo (unit x : Rat) : Set Rat :=
  {y | y ≤ x ∧ ∃ k : Int, y = k * unit}

theorem isGreatest_multiplesUpTo {unit : Rat} (pos : 0 < unit) (x : Rat) :
    IsGreatest (multiplesUpTo unit x) (⌊x / unit⌋ * unit) := by
  constructor
  next => exact ⟨(le_div_iff₀ pos).mp (Int.floor_le _), _, rfl⟩
  next =>
    rintro _ ⟨le, k, rfl⟩
    have whole : k ≤ ⌊x / unit⌋ := Int.le_floor.mpr ((le_div_iff₀ pos).mpr le)
    exact mul_le_mul_of_nonneg_right (Int.cast_le.mpr whole) pos.le

namespace Decimal

variable {d : Decimal} {places raw : Nat}

theorem shiftRight?_eq_mul? (d : Decimal) (few : places ≤ 28) :
    ∃ factor, factor.toRat = 10 ^ places ∧ d.shiftRight? places = d.mul? factor := by
  have least : Nat.min places 29 = places := Nat.min_eq_left (by omega)
  have fits : 10 ^ places < 2 ^ (96 : Nat) :=
    lt_of_le_of_lt (Nat.pow_le_pow_right (by decide) few) (by decide)
  let factor : Decimal := ⟨(10 ^ places : Nat), 0, by rwa [Int.natAbs_natCast], zero.scale_le⟩
  have held : ofScaled? (10 ^ places : Nat) 0 = some factor := by simp [ofScaled?, fits, factor]
  refine ⟨factor, by rw [toRat_of_scale_eq_zero rfl, Int.cast_natCast, Nat.cast_pow, Nat.cast_ofNat], ?_⟩
  rw [shiftRight?, least, held]
  rfl

-- what has no places left after the move has room as a whole number, and the rest in the digits it
-- had
theorem abs_mul_pow_lt (small : |d.toRat * 10 ^ places| < 2 ^ 96) :
    |d.toRat * 10 ^ places| * 10 ^ (d.scale - places) < 2 ^ 96 := by
  by_cases le : d.scale ≤ places
  next => rwa [Nat.sub_eq_zero_of_le le, pow_zero, mul_one]
  next =>
    have bound := d.abs_mantissa_le
    rw [toRat_mul_pow, Nat.sub_eq_zero_of_le (Nat.le_of_not_le le), abs_div]
    push_cast
    rw [mul_one, abs_of_pos (by positivity : (0 : Rat) < 10 ^ (d.scale - places)),
      div_mul_cancel₀ _ (by positivity)]
    linarith

theorem onGrid_mul_pow (d : Decimal) (places : Nat) :
    OnGrid (d.scale - places) (d.toRat * 10 ^ places) := by
  refine ⟨d.mantissa * 10 ^ (places - d.scale), ?_⟩
  rw [toRat_mul_pow]
  push_cast
  field_simp

theorem shiftRight?_exact (few : places ≤ 28) (small : |d.toRat * 10 ^ places| < 2 ^ 96) :
    ∃ shifted, d.shiftRight? places = some shifted ∧ shifted.toRat = d.toRat * 10 ^ places := by
  obtain ⟨factor, power, product⟩ := shiftRight?_eq_mul? d few
  have within : d.scale - places ≤ 28 := (Nat.sub_le _ _).trans d.scale_le
  rw [product, ← power]
  exact mul?_exact (power ▸ onGrid_mul_pow d places) (power ▸ abs_mul_pow_lt small) within

theorem shiftRight?_eq_none (beyond : places ≤ 28 → 2 ^ 96 ≤ |d.toRat * 10 ^ places|) :
    d.shiftRight? places = none := by
  by_cases few : places ≤ 28
  next =>
    obtain ⟨factor, power, product⟩ := shiftRight?_eq_mul? d few
    rw [product, mul?_eq_none_iff, power]
    linarith [beyond few]
  next =>
    have most : Nat.min places 29 = 29 := Nat.min_eq_right (by omega)
    have none : ofScaled? (10 ^ (29 : Nat) : Nat) 0 = none := by decide
    rw [shiftRight?, most, none]
    rfl

theorem isSome_ofBaseUnits?_iff {decimals : UInt32} :
    (ofBaseUnits? raw decimals).isSome ↔ raw < 2 ^ (96 : Nat) ∧ decimals.toNat ≤ 28 := by
  simp [ofBaseUnits?, ofScaled?]

theorem toRat_of_ofBaseUnits? {decimals : UInt32} {value : Decimal}
    (made : ofBaseUnits? raw decimals = some value) :
    value.toRat = raw / 10 ^ decimals.toNat := by
  rw [toRat_of_ofScaled? made, Int.cast_natCast]

end Decimal

namespace Amount

variable {a : Amount}

def units (a : Amount) : Rat :=
  a.value.toRat * 10 ^ a.decimals.toNat

theorem units_nonneg (nonneg : 0 ≤ a.value.toRat) : 0 ≤ a.units :=
  mul_nonneg nonneg (by positivity)

theorem exists_shiftRight? (nonneg : 0 ≤ a.value.toRat) (few : a.decimals.toNat ≤ 28)
    (small : a.units < 2 ^ 96) :
    ∃ shifted, a.value.shiftRight? a.decimals.toNat = some shifted ∧ shifted.toRat = a.units :=
  Decimal.shiftRight?_exact few (lt_of_eq_of_lt (abs_of_nonneg (units_nonneg nonneg)) small)

theorem baseUnits?_eq_floor (nonneg : 0 ≤ a.value.toRat) (few : a.decimals.toNat ≤ 28)
    (small : a.units < 2 ^ 96) : a.baseUnits? = some ⌊a.units⌋₊ := by
  obtain ⟨shifted, made, value⟩ := exists_shiftRight? nonneg few small
  rw [baseUnits?, made, ← value]
  exact Decimal.toNat?_eq_floor (value ▸ units_nonneg nonneg)

theorem baseUnits?_eq (nonneg : 0 ≤ a.value.toRat) :
    a.baseUnits? = if a.decimals.toNat ≤ 28 ∧ a.units < 2 ^ 96 then some ⌊a.units⌋₊ else none := by
  split
  next room => exact baseUnits?_eq_floor nonneg room.1 room.2
  next without =>
    have beyond (few : a.decimals.toNat ≤ 28) : 2 ^ 96 ≤ |a.units| := by
      rw [abs_of_nonneg (units_nonneg nonneg)]
      exact not_lt.mp fun small => without ⟨few, small⟩
    rw [baseUnits?, Decimal.shiftRight?_eq_none beyond]
    rfl

theorem baseUnit?_eq (few : a.decimals.toNat ≤ 28) :
    ∃ unit, a.baseUnit? = some unit ∧ unit.toRat = 1 / 10 ^ a.decimals.toNat := by
  obtain ⟨unit, made, value⟩ := Decimal.shiftLeft?_of_scale_eq_zero (d := .one) rfl few
  exact ⟨unit, made, by rw [eq_div_iff (by positivity), value, Decimal.toRat_one]⟩

theorem units_of_ofBaseUnits? {raw : Nat} {value : Decimal}
    (made : Decimal.ofBaseUnits? raw a.decimals = some value) (same : a.value.toRat = value.toRat) :
    a.units = raw := by
  rw [units, same, Decimal.toRat_of_ofBaseUnits? made]
  field_simp

theorem baseUnits?_of_ofBaseUnits? {raw : Nat} {value : Decimal}
    (made : Decimal.ofBaseUnits? raw a.decimals = some value) (same : a.value.toRat = value.toRat) :
    a.baseUnits? = some raw := by
  have ⟨small, few⟩ := Decimal.isSome_ofBaseUnits?_iff.mp (Option.isSome_of_eq_some made)
  have count := units_of_ofBaseUnits? made same
  have nonneg : 0 ≤ a.value.toRat := by
    rw [same, Decimal.toRat_of_ofBaseUnits? made]
    positivity
  have room : a.units < 2 ^ 96 := by
    rw [count]
    exact_mod_cast small
  rw [baseUnits?_eq_floor nonneg few room, count, Nat.floor_natCast]

theorem exists_ofBaseUnits? (nonneg : 0 ≤ a.value.toRat) (few : a.decimals.toNat ≤ 28)
    (small : a.units < 2 ^ 96) :
    ∃ below, Decimal.ofBaseUnits? ⌊a.units⌋₊ a.decimals = some below ∧
      IsGreatest (multiplesUpTo (1 / 10 ^ a.decimals.toNat) a.value.toRat) below.toRat := by
  have room : ⌊a.units⌋₊ < 2 ^ (96 : Nat) := by
    rw [Nat.floor_lt' (by decide)]
    exact_mod_cast small
  obtain ⟨below, held⟩ := Option.isSome_iff_exists.mp
    (Decimal.isSome_ofBaseUnits?_iff.mpr ⟨room, few⟩)
  have greatest := isGreatest_multiplesUpTo (by positivity : (0 : Rat) < 1 / 10 ^ a.decimals.toNat)
    a.value.toRat
  refine ⟨below, held, ?_⟩
  rwa [div_div_eq_mul_div, div_one, ← units, ← natCast_floor_eq_intCast_floor (units_nonneg nonneg),
    mul_one_div, ← Decimal.toRat_of_ofBaseUnits? held] at greatest

/-- The way down to units is exact until the fraction is cut off, for any digits and scale of the
value. -/
theorem baseUnits_round_trip (decimals : UInt32) :
    (∀ raw : Nat,
      ((Decimal.ofBaseUnits? raw decimals).isSome ↔ raw < 2 ^ (96 : Nat) ∧ decimals.toNat ≤ 28) ∧
      ∀ value, Decimal.ofBaseUnits? raw decimals = some value →
        value.toRat = raw / 10 ^ decimals.toNat ∧
        ∀ a : Amount, a.decimals = decimals → a.value.toRat = value.toRat → a.baseUnits? = some raw) ∧
    ∀ a : Amount, a.decimals = decimals → 0 ≤ a.value.toRat →
      a.baseUnits? = (if decimals.toNat ≤ 28 ∧ a.units < 2 ^ 96 then some ⌊a.units⌋₊ else none) ∧
      ∀ raw, a.baseUnits? = some raw →
        (∃ shifted, a.value.shiftRight? decimals.toNat = some shifted ∧ shifted.toRat = a.units) ∧
        ∃ unit below, a.baseUnit? = some unit ∧ unit.toRat = 1 / 10 ^ decimals.toNat ∧
          Decimal.ofBaseUnits? raw decimals = some below ∧
          IsGreatest (multiplesUpTo unit.toRat a.value.toRat) below.toRat := by
  constructor
  next =>
    refine fun raw => ⟨Decimal.isSome_ofBaseUnits?_iff, fun value made => ?_⟩
    refine ⟨Decimal.toRat_of_ofBaseUnits? made, ?_⟩
    rintro a rfl same
    exact baseUnits?_of_ofBaseUnits? made same
  next =>
    rintro a rfl nonneg
    refine ⟨baseUnits?_eq nonneg, fun raw counted => ?_⟩
    rw [baseUnits?_eq nonneg, Option.ite_none_right_eq_some] at counted
    obtain ⟨⟨few, small⟩, equal⟩ := counted
    cases equal
    obtain ⟨unit, made, value⟩ := baseUnit?_eq few
    obtain ⟨below, held, greatest⟩ := exists_ofBaseUnits? nonneg few small
    exact ⟨exists_shiftRight? nonneg few small, unit, below, made, value, held, value ▸ greatest⟩

namespace Sample

-- the largest mantissa, with ten of its digits below the unit
def dusty : Amount :=
  coin .ethereum ⟨79228162514264337593543950335, 28, by decide, by decide⟩

theorem baseUnits_round_trip_full :
    (∃ value, Decimal.ofBaseUnits? (2 ^ (96 : Nat) - 1) 18 = some value ∧
      (coin .ethereum value).baseUnits? = some (2 ^ (96 : Nat) - 1)) ∧
    dusty.baseUnits? = some 7922816251426433759 ∧
    ∃ unit below, dusty.baseUnit? = some unit ∧
      Decimal.ofBaseUnits? 7922816251426433759 18 = some below ∧
      IsGreatest (multiplesUpTo unit.toRat dusty.value.toRat) below.toRat := by
  obtain ⟨up, down⟩ := baseUnits_round_trip 18
  obtain ⟨held, back⟩ := up (2 ^ (96 : Nat) - 1)
  obtain ⟨value, made⟩ := Option.isSome_iff_exists.mp (held.mpr (by decide))
  obtain ⟨_, counted⟩ := back value made
  obtain ⟨floor, greatest⟩ := down dusty rfl (by decide)
  have count : dusty.baseUnits? = some 7922816251426433759 := floor.trans (by decide +kernel)
  obtain ⟨_, unit, below, exact, _, kept, least⟩ := greatest _ count
  exact ⟨⟨value, made, counted _ rfl rfl⟩, count, unit, below, exact, kept, least⟩

end Sample

end Amount

end CoinWallet
