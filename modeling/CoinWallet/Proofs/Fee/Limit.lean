import CoinWallet.Proofs.Decimal.Nearest
import CoinWallet.Proofs.Decimal.Product
import CoinWallet.Fee.Pricing

set_option autoImplicit false

namespace CoinWallet

-- powers and sums are those of the core library
attribute [local instance (high)] instPowNat Zero.ofOfNat0

open Decimal

namespace GasPolicy

variable {gas : GasPolicy} {limit : UInt64} {multiplier product : Decimal}

def inflated (limit : UInt64) (multiplier : Decimal) : Rat :=
  limit.toNat * multiplier.toRat

theorem inflated_nonneg (nonneg : 0 ≤ multiplier.toRat) : 0 ≤ inflated limit multiplier :=
  mul_nonneg (Nat.cast_nonneg _) nonneg

theorem inflated_eq (limit : UInt64) (multiplier : Decimal) :
    (ofUInt64 limit).toRat * multiplier.toRat = inflated limit multiplier := by
  rw [toRat_ofUInt64, inflated]

-- a whole number that is reached is reached after rounding too
theorem le_product {k : Nat} (made : (ofUInt64 limit).mul? multiplier = some product)
    (reached : k ≤ inflated limit multiplier) : k ≤ product.toRat :=
  le_of_mul? made (reached.trans_eq (inflated_eq limit multiplier).symm)

theorem product_nonneg (nonneg : 0 ≤ multiplier.toRat)
    (made : (ofUInt64 limit).mul? multiplier = some product) : 0 ≤ product.toRat := by
  have reached : ((0 : Nat) : Rat) ≤ inflated limit multiplier :=
    Nat.cast_zero.trans_le (inflated_nonneg nonneg)
  exact_mod_cast le_product made reached

-- what is not beyond 64 bits is far from the 96 of a mantissa
theorem exists_product (nonneg : 0 ≤ multiplier.toRat) (small : inflated limit multiplier ≤ 2 ^ 64) :
    ∃ product, (ofUInt64 limit).mul? multiplier = some product ∧
      Nearest (inflated limit multiplier) product := by
  have room : (ofUInt64 limit).mul? multiplier ≠ none := by
    rw [ne_eq, mul?_eq_none_iff, inflated_eq, abs_of_nonneg (inflated_nonneg nonneg)]
    linarith
  obtain ⟨product, made⟩ := Option.ne_none_iff_exists'.mp room
  exact ⟨product, made, inflated_eq limit multiplier ▸ nearest_mul? made⟩

theorem adjustLimit_of_none (given : gas.limitMultiplier = some multiplier)
    (none : (ofUInt64 limit).mul? multiplier = none) : gas.adjustLimit limit = limit := by
  simp [adjustLimit, given, none]

theorem toNat_adjustLimit (given : gas.limitMultiplier = some multiplier)
    (nonneg : 0 ≤ multiplier.toRat) (made : (ofUInt64 limit).mul? multiplier = some product) :
    (gas.adjustLimit limit).toNat =
      if ⌈product.toRat⌉₊ < 2 ^ (64 : Nat) then ⌈product.toRat⌉₊ else limit.toNat := by
  have signed := product_nonneg nonneg made
  have sign : ¬ product.isNegative = true := mt isNegative_iff.mp (not_lt.mpr signed)
  simp only [adjustLimit, given, made, if_neg sign, toUInt64?_ceiling signed]
  split
  next fits => exact UInt64.toNat_ofNat_of_lt' fits
  next => rfl

theorem le_adjustLimit (given : gas.limitMultiplier = some multiplier)
    (least : 1 ≤ multiplier.toRat) : limit ≤ gas.adjustLimit limit := by
  rw [UInt64.le_iff_toNat_le]
  cases made : (ofUInt64 limit).mul? multiplier with
  | none => rw [adjustLimit_of_none given made]
  | some product =>
    have reached : limit.toNat ≤ product.toRat :=
      le_product made (le_mul_of_one_le_right (Nat.cast_nonneg _) least)
    rw [toNat_adjustLimit given (zero_le_one.trans least) made]
    split
    next => exact Nat.cast_le.mp (reached.trans (Nat.le_ceil _))
    next => exact Nat.le_refl _

theorem adjustLimit_of_large (given : gas.limitMultiplier = some multiplier)
    (nonneg : 0 ≤ multiplier.toRat) (large : 2 ^ 64 ≤ inflated limit multiplier) :
    gas.adjustLimit limit = limit := by
  cases made : (ofUInt64 limit).mul? multiplier with
  | none => exact adjustLimit_of_none given made
  | some product =>
    have reached : (2 ^ (64 : Nat) : Nat) ≤ product.toRat :=
      le_product made (by exact_mod_cast large)
    have beyond : ¬ ⌈product.toRat⌉₊ < 2 ^ (64 : Nat) :=
      not_lt.mpr (Nat.cast_le.mp (reached.trans (Nat.le_ceil _)))
    rw [← UInt64.toNat_inj, toNat_adjustLimit given nonneg made, if_neg beyond]

theorem adjustLimit_of_held (given : gas.limitMultiplier = some multiplier)
    (nonneg : 0 ≤ multiplier.toRat) (fits : ⌈inflated limit multiplier⌉₊ < 2 ^ (64 : Nat))
    (held : Held (inflated limit multiplier)) :
    (gas.adjustLimit limit).toNat = ⌈inflated limit multiplier⌉₊ := by
  rw [← inflated_eq] at held
  obtain ⟨product, made, value⟩ := mul?_of_held held
  rw [inflated_eq] at value
  rw [toNat_adjustLimit given nonneg made, value, if_pos fits]

theorem adjustLimit_near (given : gas.limitMultiplier = some multiplier)
    (nonneg : 0 ≤ multiplier.toRat) (fits : ⌈inflated limit multiplier⌉₊ < 2 ^ (64 : Nat)) :
    (gas.adjustLimit limit).toNat ≤ ⌈inflated limit multiplier⌉₊ ∧
      inflated limit multiplier ≤ (gas.adjustLimit limit).toNat + 1 / (2 * 10 ^ 9) := by
  have above := Nat.le_ceil (inflated limit multiplier)
  have small : inflated limit multiplier ≤ 2 ^ 64 := above.trans (by exact_mod_cast fits.le)
  have size : |inflated limit multiplier| ≤ 2 ^ 64 :=
    (abs_of_nonneg (inflated_nonneg nonneg)).trans_le small
  obtain ⟨product, made, nearest⟩ := exists_product nonneg small
  -- the ceiling is a decimal itself, so that nothing is rounded past it
  have most : (ofUInt64 (.ofNat ⌈inflated limit multiplier⌉₊)).toRat =
      ⌈inflated limit multiplier⌉₊ := by
    rw [toRat_ofUInt64, UInt64.toNat_ofNat_of_lt' fits]
  have below : ⌈product.toRat⌉₊ ≤ ⌈inflated limit multiplier⌉₊ :=
    Nat.ceil_le.mpr (most ▸ nearest.mono (.self _) (most ▸ above))
  rw [toNat_adjustLimit given nonneg made, if_pos (below.trans_lt fits)]
  refine ⟨below, ?_⟩
  have lost := (abs_le.mp (nearest.abs_sub_le size)).2
  linarith [Nat.le_ceil product.toRat]

/-- A multiplier of at least one never makes a limit lower. As long as the ceiling of the product
has 64 bits, it is the limit wherever a decimal can hold the product; elsewhere the limit is not
above it and misses the product by half a billionth at most. A product of more bits changes nothing.
-/
theorem limit_rounded_up (gas : GasPolicy) (limit : UInt64) {multiplier : Decimal}
    (given : gas.limitMultiplier = some multiplier) (least : 1 ≤ multiplier.toRat) :
    limit ≤ gas.adjustLimit limit ∧
    (⌈inflated limit multiplier⌉₊ < 2 ^ (64 : Nat) →
      (∀ exact : Decimal, exact.toRat = inflated limit multiplier →
        (gas.adjustLimit limit).toNat = ⌈inflated limit multiplier⌉₊) ∧
      (gas.adjustLimit limit).toNat ≤ ⌈inflated limit multiplier⌉₊ ∧
      inflated limit multiplier ≤ (gas.adjustLimit limit).toNat + 1 / (2 * 10 ^ 9)) ∧
    (2 ^ 64 ≤ inflated limit multiplier → gas.adjustLimit limit = limit) := by
  have nonneg : 0 ≤ multiplier.toRat := zero_le_one.trans least
  refine ⟨le_adjustLimit given least, fun fits => ⟨fun exact value => ?_, ?_⟩,
    adjustLimit_of_large given nonneg⟩
  next => exact adjustLimit_of_held given nonneg fits (value ▸ held_toRat exact)
  next => exact adjustLimit_near given nonneg fits

namespace Sample

def inflating (multiplier : Decimal) : GasPolicy where
  limitMultiplier := some multiplier

-- an eighth more
def eighth : Decimal where
  mantissa := 1125
  scale := 3

-- a hair above two, of which a long product keeps nothing
def hair : Decimal where
  mantissa := 2 * 10 ^ (28 : Nat) + 1
  scale := maxScale

def vast : UInt64 := 4000000000000000001

theorem limit_rounded_up_hair :
    (vast ≤ (inflating hair).adjustLimit vast ∧
      ((inflating hair).adjustLimit vast).toNat < ⌈inflated vast hair⌉₊ ∧
      inflated vast hair ≤ ((inflating hair).adjustLimit vast).toNat + 1 / (2 * 10 ^ 9)) ∧
    ((inflating eighth).adjustLimit 21001).toNat = 23627 ∧
    (inflating hair).adjustLimit (2 ^ (63 : Nat)) = 2 ^ (63 : Nat) := by
  obtain ⟨kept, near, _⟩ := limit_rounded_up (inflating hair) vast rfl (by decide +kernel)
  obtain ⟨_, _, lost⟩ := near (by decide +kernel)
  obtain ⟨_, up, _⟩ := limit_rounded_up (inflating eighth) 21001 rfl (by decide +kernel)
  obtain ⟨exactly, _⟩ := up (by decide +kernel)
  obtain ⟨_, _, large⟩ := limit_rounded_up (inflating hair) (2 ^ (63 : Nat)) rfl (by decide +kernel)
  refine ⟨⟨kept, by decide +kernel, lost⟩, ?_, large (by decide +kernel)⟩
  exact (exactly { mantissa := 23626125, scale := 3 } (by decide +kernel)).trans (by decide +kernel)

end Sample

end GasPolicy

end CoinWallet
