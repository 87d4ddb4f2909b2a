import CoinWallet.Proofs.Decimal.Nearest
import CoinWallet.Proofs.Decimal.Product
import CoinWallet.Proofs.Fee.Tiers

set_option autoImplicit false

namespace CoinWallet

-- powers and sums are those of the core library
attribute [local instance (high)] instPowNat Zero.ofOfNat0

open Tiers

namespace GasPolicy

variable {gas : GasPolicy} {limit : UInt64} {price : Decimal} {fees : Tiers Decimal}

theorem feeTiers?_eq_some_iff :
    gas.feeTiers? limit price = some fees ↔
      ∃ base rounded, (gas.floorPrice price).mul? (.ofUInt64 limit) = some base ∧
        Forall₂ (fun multiplier fee => ∃ product, base.mul? multiplier = some product ∧
          product.roundTo .halfAway 0 = fee) gas.multipliers rounded ∧
        rounded.ordered = fees := by
  simp only [feeTiers?, Option.bind_eq_bind, Option.bind_eq_some_iff, mapM?_eq_some_iff,
    Option.map_eq_some_iff, Option.pure_def, Option.some.injEq, exists_and_left]

theorem scale_of_feeTiers? (made : gas.feeTiers? limit price = some fees) {fee : Decimal}
    (member : fee ∈ fees.toList) : fee.scale = 0 := by
  obtain ⟨base, rounded, _, all, rfl⟩ := feeTiers?_eq_some_iff.mp made
  obtain ⟨multiplier, _, product, _, rfl⟩ := all.of_mem_right (mem_of_mem_ordered member)
  exact Nat.le_zero.mp (Decimal.scale_roundTo_le _ _ _)

theorem ascending_of_feeTiers? (made : gas.feeTiers? limit price = some fees) :
    fees.values.Ascending := by
  obtain ⟨base, rounded, _, _, rfl⟩ := feeTiers?_eq_some_iff.mp made
  exact ascending_ordered rounded

theorem le_floorPrice {minimal : Decimal} (least : gas.minimalPrice = some minimal)
    (price : Decimal) : minimal.toRat ≤ (gas.floorPrice price).toRat := by
  simp [floorPrice, least]

-- the minimum is the price times the limit, and all others are raised to it
theorem one_le_of_feeTiers? (made : gas.feeTiers? limit price = some fees)
    (priced : 1 ≤ (gas.floorPrice price).toRat) (some : 1 ≤ limit.toNat) {fee : Decimal}
    (member : fee ∈ fees.toList) : 1 ≤ fee.toRat := by
  obtain ⟨base, rounded, product, all, rfl⟩ := feeTiers?_eq_some_iff.mp made
  have least : ((1 : Nat) : Rat) ≤ base.toRat := by
    refine Decimal.le_of_mul? product ?_
    rw [Decimal.toRat_ofUInt64, Nat.cast_one]
    exact one_le_mul_of_one_le_of_one_le priced (by exact_mod_cast some)
  obtain ⟨single, times, fee_eq⟩ := all.minimum
  have minimum : ((1 : Nat) : Rat) ≤ rounded.minimum.toRat := by
    rw [← fee_eq]
    refine Decimal.le_toRat_roundTo (Decimal.le_of_mul? times ?_)
    rwa [multipliers, Decimal.toRat_one, mul_one]
  rw [Nat.cast_one] at minimum
  exact minimum.trans
    (minimum_le_of_ascending (ascending_ordered rounded) (List.mem_map_of_mem member))

-- a price times each of the multipliers is whole
def Prices (gas : GasPolicy) (price : Decimal) (prices : Tiers Int) : Prop :=
  Forall₂ (fun (whole : Int) (multiplier : Decimal) => price.toRat * multiplier.toRat = whole)
    prices gas.multipliers

variable {prices : Tiers Int}

theorem Prices.priceTiers? (whole : gas.Prices (gas.floorPrice price) prices)
    {tiers : Tiers Decimal} (made : gas.priceTiers? price = some tiers) :
    (tiers.map fun tier => (tier.roundTo .halfAway 0).toRat) =
      prices.map fun whole : Int => (whole : Rat) := by
  refine map_eq_map_iff.mpr (whole.trans (mapM?_eq_some_iff.mp made) fun _ _ _ equal product => ?_)
  have value := Decimal.toRat_mul?_of_whole product equal
  rw [Decimal.toRat_roundTo_of_onGrid _ ⟨_, by rw [value, pow_zero, mul_one]⟩, value]

-- the price itself is whole, being multiplied by one for the minimum
theorem Prices.toRat_base (whole : gas.Prices price prices) {base : Decimal}
    (product : price.mul? (.ofUInt64 limit) = some base) :
    base.toRat = limit.toNat * price.toRat := by
  have single := whole.minimum
  rw [multipliers, Decimal.toRat_one, mul_one] at single
  have value : base.toRat = (limit.toNat * prices.minimum : Int) := by
    refine Decimal.toRat_mul?_of_whole product ?_
    rw [single, Decimal.toRat_ofUInt64]
    push_cast
    ring
  rw [value, single]
  push_cast
  rfl

theorem Prices.feeTiers? (whole : gas.Prices (gas.floorPrice price) prices)
    (ascending : (prices.map fun whole : Int => (whole : Rat)).Ascending)
    (made : gas.feeTiers? limit price = some fees) :
    fees.values = prices.map fun whole : Int => limit.toNat * (whole : Rat) := by
  obtain ⟨base, rounded, product, all, rfl⟩ := feeTiers?_eq_some_iff.mp made
  have base_eq := whole.toRat_base product
  have exact : rounded.values = prices.map fun whole : Int => limit.toNat * (whole : Rat) := by
    refine map_eq_map_iff.mpr (whole.trans all fun price multiplier fee equal made => ?_)
    obtain ⟨product, times, rfl⟩ := made
    have value : product.toRat = (limit.toNat * price : Int) := by
      refine Decimal.toRat_mul?_of_whole times ?_
      rw [base_eq, mul_assoc, equal]
      push_cast
      rfl
    rw [Decimal.toRat_roundTo_of_onGrid _ ⟨_, by rw [value, pow_zero, mul_one]⟩, value]
    push_cast
    rfl
  rw [values_ordered, exact]
  rw [exact]
  exact ⟨mul_le_mul_of_nonneg_left ascending.1 (Nat.cast_nonneg _),
    mul_le_mul_of_nonneg_left ascending.2 (Nat.cast_nonneg _)⟩

end GasPolicy

end CoinWallet
