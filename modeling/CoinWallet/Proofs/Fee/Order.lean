import CoinWallet.Proofs.Decimal.Nearest
import CoinWallet.Proofs.Fee.Size

set_option autoImplicit false

namespace CoinWallet

-- powers and sums are those of the core library
attribute [local instance (high)] instPowNat Zero.ofOfNat0

open Decimal Tiers

namespace SizeFee

variable {rate rate' minRate minRate' minFee minFee' perByte perByte' fee fee' : Decimal}
variable {size size' : UInt64}

theorem exists_perByte (rate : Decimal) : ∃ perByte, rate.div? kilobyte = some perByte := by
  rw [← Option.ne_none_iff_exists', ne_eq, div?_eq_none_iff, toRat_kilobyte, abs_div]
  have most := rate.abs_toRat_le
  norm_num
  linarith

theorem perByte_mono (divided : rate.div? kilobyte = some perByte)
    (divided' : rate'.div? kilobyte = some perByte') (le : rate.toRat ≤ rate'.toRat) :
    perByte.toRat ≤ perByte'.toRat := by
  refine (nearest_div? divided).mono (nearest_div? divided') ?_
  rw [toRat_kilobyte]
  exact div_le_div_of_nonneg_right le (by norm_num)

theorem perByte_nonneg (divided : rate.div? kilobyte = some perByte) (nonneg : 0 ≤ rate.toRat) :
    0 ≤ perByte.toRat := by
  rw [← toRat_zero]
  refine (Nearest.self zero).mono (nearest_div? divided) ?_
  rw [toRat_zero, toRat_kilobyte]
  positivity

theorem toRat_max_le (rates : rate ≤ rate') (minRates : minRate ≤ minRate') :
    (rate.max minRate).toRat ≤ (rate'.max minRate').toRat := by
  rw [toRat_max, toRat_max]
  exact max_le_max (le_iff.mp rates) (le_iff.mp minRates)

theorem fee?_eq (divided : (rate.max minRate).div? kilobyte = some perByte) :
    fee? rate minRate minFee size = (perByte.mul? (.ofUInt64 size)).map fun product =>
      (product.roundTo .toZero places).max minFee := by
  simp [fee?, divided, Option.map_eq_bind]

theorem fee_le_fee (divided : (rate.max minRate).div? kilobyte = some perByte)
    (divided' : (rate'.max minRate').div? kilobyte = some perByte')
    (made : fee? rate minRate minFee size = some fee)
    (made' : fee? rate' minRate' minFee' size' = some fee')
    (le : perByte.toRat * size.toNat ≤ perByte'.toRat * size'.toNat) (minFees : minFee ≤ minFee') :
    fee ≤ fee' := by
  rw [fee?_eq divided, Option.map_eq_some_iff] at made
  rw [fee?_eq divided', Option.map_eq_some_iff] at made'
  obtain ⟨product, times, rfl⟩ := made
  obtain ⟨product', times', rfl⟩ := made'
  have products : product.toRat ≤ product'.toRat :=
    (nearest_mul? times).mono (nearest_mul? times') (by rwa [toRat_ofUInt64, toRat_ofUInt64])
  rw [le_iff, toRat_max, toRat_max]
  exact max_le_max (toRat_roundTo_toZero_mono products places) (le_iff.mp minFees)

theorem fee_mono (rates : rate ≤ rate') (minRates : minRate ≤ minRate') (minFees : minFee ≤ minFee')
    (made : fee? rate minRate minFee size = some fee)
    (made' : fee? rate' minRate' minFee' size = some fee') : fee ≤ fee' := by
  obtain ⟨perByte, divided⟩ := exists_perByte (rate.max minRate)
  obtain ⟨perByte', divided'⟩ := exists_perByte (rate'.max minRate')
  have bytes := perByte_mono divided divided' (toRat_max_le rates minRates)
  exact fee_le_fee divided divided' made made'
    (mul_le_mul_of_nonneg_right bytes (Nat.cast_nonneg _)) minFees

theorem exists_fee_le (nonneg : zero ≤ rate.max minRate) (rates : rate ≤ rate')
    (minRates : minRate ≤ minRate') (minFees : minFee ≤ minFee') (sizes : size ≤ size')
    (made' : fee? rate' minRate' minFee' size' = some fee') :
    ∃ fee, fee? rate minRate minFee size = some fee ∧ fee ≤ fee' := by
  obtain ⟨perByte, divided⟩ := exists_perByte (rate.max minRate)
  obtain ⟨perByte', divided'⟩ := exists_perByte (rate'.max minRate')
  have least := perByte_nonneg divided (toRat_zero ▸ le_iff.mp nonneg)
  have bytes := perByte_mono divided divided' (toRat_max_le rates minRates)
  have least' := least.trans bytes
  have lengths : (size.toNat : Rat) ≤ size'.toNat := Nat.cast_le.mpr (UInt64.le_iff_toNat_le.mp sizes)
  have le : perByte.toRat * size.toNat ≤ perByte'.toRat * size'.toNat :=
    mul_le_mul bytes lengths (Nat.cast_nonneg _) least'
  -- the larger product has room, and so has the smaller one
  have room : perByte.mul? (.ofUInt64 size) ≠ none := by
    have more : perByte'.mul? (.ofUInt64 size') ≠ none := by
      intro none
      rw [fee?_eq divided', none] at made'
      cases made'
    rw [ne_eq, mul?_eq_none_iff, toRat_ofUInt64, abs_of_nonneg, not_le] at more ⊢
    · exact le.trans_lt more
    · positivity
    · positivity
  obtain ⟨product, times⟩ := Option.ne_none_iff_exists'.mp room
  have made : fee? rate minRate minFee size =
      some ((product.roundTo .toZero places).max minFee) := by
    rw [fee?_eq divided, times, Option.map_some]
  exact ⟨_, made, fee_le_fee divided divided' made made' le minFees⟩

theorem ascending_of_mapM? {rates fees : Tiers Decimal} (ascending : rates.values.Ascending)
    (made : (rates.mapM? fun rate => fee? rate minRate minFee size) = some fees) :
    fees.values.Ascending := by
  have all := mapM?_eq_some_iff.mp made
  have same (d : Decimal) : d ≤ d := le_iff.mpr le_rfl
  constructor
  · exact le_iff.mp (fee_mono (le_iff.mpr ascending.1) (same _) (same _) all.minimum all.normal)
  · exact le_iff.mp (fee_mono (le_iff.mpr ascending.2) (same _) (same _) all.normal all.priority)

/-- No fee is below the one at a lower rate, lower floors and, for rates not below zero, a lower
size, which has a fee if the higher one has; and the fees of rates in order keep their values when
they are put in order. -/
theorem fees_in_order (rates : rate ≤ rate') (minRates : minRate ≤ minRate')
    (minFees : minFee ≤ minFee') :
    (∀ size fee fee', fee? rate minRate minFee size = some fee →
      fee? rate' minRate' minFee' size = some fee' → fee ≤ fee') ∧
    (zero ≤ rate.max minRate → ∀ size size' fee', size ≤ size' →
      fee? rate' minRate' minFee' size' = some fee' →
        ∃ fee, fee? rate minRate minFee size = some fee ∧ fee ≤ fee') ∧
    ∀ (network : Tiers Decimal) (size : UInt64), network.values.Ascending →
      (tiers? network minRate minFee size).map Tiers.values =
        (network.mapM? fun rate => fee? rate minRate minFee size).map Tiers.values := by
  refine ⟨fun _ _ _ made made' => fee_mono rates minRates minFees made made',
    fun nonneg _ _ _ sizes made' => exists_fee_le nonneg rates minRates minFees sizes made',
    fun network size ascending => ?_⟩
  rw [tiers?]
  cases made : network.mapM? fun rate => fee? rate minRate minFee size with
  | none => rfl
  | some fees => exact congrArg some (values_ordered (ascending_of_mapM? ascending made))

namespace Sample

-- so high that its fee has no places
def high : Decimal where
  mantissa := 7 * 10 ^ (28 : Nat)
  scale := 0
  scale_le := zero.scale_le

theorem fees_in_order_apart :
    (∃ fee fee', fee? (.unit 3) (.unit 4) (.unit 5) 333 = some fee ∧
      fee? high (.unit 4) (.unit 5) 1000 = some fee' ∧ fee.scale = 8 ∧ fee'.scale = 0 ∧ fee ≤ fee') ∧
    (tiers? ⟨.unit 3, .unit 3, high⟩ (.unit 4) (.unit 5) 333).map Tiers.values =
      ((⟨.unit 3, .unit 3, high⟩ : Tiers Decimal).mapM? fun rate =>
        fee? rate (.unit 4) (.unit 5) 333).map Tiers.values := by
  have rates : Decimal.unit 3 ≤ high := by decide +kernel
  have minRates : Decimal.unit 4 ≤ .unit 4 := le_iff.mpr le_rfl
  have minFees : Decimal.unit 5 ≤ .unit 5 := le_iff.mpr le_rfl
  obtain ⟨_, rising, kept⟩ := fees_in_order rates minRates minFees
  have dear : fee? high (.unit 4) (.unit 5) 1000 =
      some { mantissa := 68359375000000000000000000000, scale := 0 } := by decide +kernel
  obtain ⟨fee, made, le⟩ := rising (by decide +kernel) 333 1000 _ (by decide) dear
  have cheap : fee? (.unit 3) (.unit 4) (.unit 5) 333 = some { mantissa := 32519, scale := 8 } := by
    decide +kernel
  cases made.symm.trans cheap
  exact ⟨⟨_, _, made, dear, rfl, rfl, le⟩, kept _ 333 (by decide +kernel)⟩

end Sample

end SizeFee

end CoinWallet
