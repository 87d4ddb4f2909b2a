import CoinWallet.Proofs.Fee.Size
import CoinWallet.Utxo.Esplora

set_option autoImplicit false

namespace CoinWallet

-- powers and sums are those of the core library
attribute [local instance (high)] instPowNat Zero.ofOfNat0

open Decimal Tiers

namespace Esplora

def targets : Tiers String :=
  ⟨day, hour, nextBlock⟩

def Estimates.Tells (estimates : Estimates) (target : String) (perByte : Rat) : Prop :=
  ∃ d, (estimates.find? target).bind ofNumber? = some d ∧ d.toRat = perByte

structure Plain (perByte : Rat) : Prop where
  nonneg : 0 ≤ perByte
  le : perByte ≤ 10 ^ 15
  significant : ∃ (m : Nat) (z : Int), m < 10 ^ 15 ∧ perByte = m * 10 ^ z
  fraction : OnGrid 20 perByte

theorem Plain.fits {perByte : Rat} (plain : Plain perByte) : Fits 20 (10 ^ 15) perByte := by
  obtain ⟨m, z, few, significant⟩ := plain.significant
  refine .of_significant significant few.le plain.fraction ?_
  have le := plain.le
  push_cast
  exact le

variable {chain : Blockchain} {estimates : Estimates}

theorem rate_exact (places : chain.decimals.toNat = 8) {target : String} {perByte : Rat}
    (told : estimates.Tells target perByte) (plain : Plain perByte) :
    ∃ rate, Esplora.rate chain estimates target = .ok rate ∧
      rate.toRat / 1024 = perByte / 10 ^ 8 := by
  obtain ⟨d, known, rfl⟩ := told
  obtain ⟨n, found, shown⟩ := Option.bind_eq_some_iff.mp known
  have kilobyte : d.toRat * SizeFee.kilobyte.toRat = d.toRat * (1024 : Nat) := by
    rw [SizeFee.toRat_kilobyte, Nat.cast_ofNat]
  have fits := plain.fits.mul_natCast (Nat.le_refl 1024)
  obtain ⟨product, times, value⟩ := mul?_fits (a := d) (b := SizeFee.kilobyte)
    (kilobyte ▸ fits.mono (by decide) (Nat.le_refl _)) (by norm_num)
  have shiftedFits := fits.div_pow 8
  rw [← kilobyte, ← value] at shiftedFits
  obtain ⟨rate, shifted, price⟩ := shiftLeft?_fits shiftedFits (by norm_num) (by decide)
  refine ⟨rate, by simp [Esplora.rate, found, shown, times, places, shifted, Outcome.ofOption], ?_⟩
  rw [price, value, SizeFee.toRat_kilobyte]
  field_simp

end Esplora

namespace UtxoParams

def cost (params : UtxoParams) (size : Nat) (perByte : Rat) : Rat :=
  SizeFee.cost params.minimalFee.toRat
    (Max.max (perByte / 10 ^ 8) (params.minimalFeePerKb.toRat / 1024)) size

theorem fits_unit {places : Nat} (few : places ≤ 18) :
    Fits 28 (10 ^ 15) ((Decimal.unit places (few.trans (by decide))).toRat / 1024) := by
  have kilobyte : Fits 10 9765625 (1 / 1024) := ⟨10, Nat.le_refl _, 9765625, Nat.le_refl _, by norm_num⟩
  rw [toRat_unit, div_right_comm]
  exact (kilobyte.div_pow places).mono (by omega) (by norm_num)

variable {chain : Blockchain} {params : UtxoParams}

theorem fits_of_preset? (preset : preset? chain = some params) :
    Fits 28 (10 ^ 15) (params.minimalFeePerKb.toRat / 1024) ∧ 0 ≤ params.minimalFeePerKb.toRat ∧
      OnGrid 8 params.minimalFee.toRat ∧ chain.decimals.toNat = 8 := by
  cases chain <;> cases preset
  all_goals
    refine ⟨fits_unit (by decide), ?_, .of_scale_le (by decide), rfl⟩
    rw [toRat_unit]
    positivity

theorem cost_of_le {perByte : Rat} {size : Nat} (grid : OnGrid 8 params.minimalFee.toRat)
    (rate : params.minimalFeePerKb.toRat / 1024 ≤ perByte / 10 ^ 8)
    (least : params.minimalFee.toRat ≤ perByte * size / 10 ^ 8) :
    params.cost size perByte * 10 ^ 8 = ⌊perByte * size⌋ := by
  obtain ⟨n, units⟩ := grid
  have reached : n ≤ ⌊perByte * size⌋ := by
    rw [Int.le_floor, ← units]
    exact (le_div_iff₀ (by norm_num)).mp least
  have price : perByte / 10 ^ 8 * size * 10 ^ 8 = perByte * size := by field_simp
  have floor : params.minimalFee.toRat ≤ ⌊perByte * size⌋ / 10 ^ 8 := by
    rw [le_div_iff₀ (by norm_num), units]
    exact_mod_cast reached
  rw [cost, max_eq_left rate, SizeFee.cost, SizeFee.places, price, max_eq_left floor]
  field_simp

end UtxoParams

/-- On a chain of outputs with the limits that it comes with: the fee of a size at an estimate is
the estimate times the size, cut off to whole smallest units, or what the limits ask for. -/
theorem Utxo.prices_of_estimates {chain : Blockchain} {params : UtxoParams}
    {estimates : Esplora.Estimates} {perByte : Tiers Rat} {size : UInt64}
    (preset : UtxoParams.preset? chain = some params)
    (told : Forall₂ estimates.Tells Esplora.targets perByte)
    (plain : ∀ e ∈ perByte.toList, Esplora.Plain e) (small : size.toNat ≤ 10 ^ 13) :
    ∃ rates prices, Esplora.rates chain estimates = .ok rates ∧
      rates.mapM? (fun rate =>
        SizeFee.fee? rate params.minimalFeePerKb params.minimalFee size) = some prices ∧
      feeOffer chain params rates size =
        .ok (.choosable (prices.ordered.map fun price => .common (.coin chain price))) ∧
      prices.values = perByte.map (params.cost size.toNat) ∧
      ∀ e ∈ perByte.toList, params.minimalFeePerKb.toRat / 1024 ≤ e / 10 ^ 8 →
        params.minimalFee.toRat ≤ e * size.toNat / 10 ^ 8 →
        params.cost size.toNat e * 10 ^ 8 = ⌊e * size.toNat⌋ := by
  obtain ⟨minimal, nonneg, grid, places⟩ := UtxoParams.fits_of_preset? preset
  have level (target : String) (e : Rat) (told : estimates.Tells target e)
      (plain : Esplora.Plain e) : ∃ rate price, Esplora.rate chain estimates target = .ok rate ∧
        SizeFee.fee? rate params.minimalFeePerKb params.minimalFee size = some price ∧
        price.toRat = params.cost size.toNat e := by
    obtain ⟨rate, rated, value⟩ := Esplora.rate_exact places told plain
    have fits := (plain.fits.div_pow 8).max minimal
    rw [← value] at fits
    obtain ⟨price, priced, equal⟩ := SizeFee.fee?_exact fits small nonneg
    exact ⟨rate, price, rated, priced, by rw [equal, value, UtxoParams.cost]⟩
  obtain ⟨low, least, lowRated, leastPriced, minimum⟩ :=
    level Esplora.day _ told.minimum (plain _ (by simp [toList]))
  obtain ⟨middle, usual, middleRated, usualPriced, normal⟩ :=
    level Esplora.hour _ told.normal (plain _ (by simp [toList]))
  obtain ⟨high, most, highRated, mostPriced, priority⟩ :=
    level Esplora.nextBlock _ told.priority (plain _ (by simp [toList]))
  have priced : Tiers.mapM? (fun rate =>
      SizeFee.fee? rate params.minimalFeePerKb params.minimalFee size) ⟨low, middle, high⟩ =
        some ⟨least, usual, most⟩ :=
    mapM?_eq_some_iff.mpr ⟨leastPriced, usualPriced, mostPriced⟩
  refine ⟨⟨low, middle, high⟩, ⟨least, usual, most⟩, ?_, priced, ?_, ?_, ?_⟩
  next => simp [Esplora.rates, lowRated, middleRated, highRated, bind, Except.bind, pure, Except.pure]
  next => rw [feeOffer, SizeFee.tiers?, priced]; rfl
  next => exact map_eq_map_iff.mpr ⟨minimum, normal, priority⟩
  next => exact fun e _ rate least => UtxoParams.cost_of_le grid rate least

namespace Sample

-- an estimate below the least rate, one of as many digits as there may be, and the largest one
def estimates : Esplora.Estimates :=
  (Http.decode Esplora.readEstimates
    ("\x7b\"1\":1000000000000000,\"6\":12.3456789012345," ++
      "\"144\":0.00000123456789012345\x7d")).toOption.getD []

def limits : UtxoParams :=
  (UtxoParams.preset? .bitcoin).get rfl

theorem prices_of_estimates_largest :
    ∃ rates prices, Esplora.rates .bitcoin estimates = .ok rates ∧
      rates.mapM? (fun rate =>
        SizeFee.fee? rate limits.minimalFeePerKb limits.minimalFee 9999999999999) = some prices ∧
      prices.values =
        ⟨97656249999990 / 10 ^ 8, 123456789012332 / 10 ^ 8, 9999999999999 * 10 ^ 15 / 10 ^ 8⟩ := by
  have told : Forall₂ estimates.Tells Esplora.targets
      ⟨123456789012345 / 10 ^ 20, 123456789012345 / 10 ^ 13, 10 ^ 15⟩ :=
    ⟨⟨⟨123456789012345, 20, by decide, by decide⟩, by decide +kernel, by decide +kernel⟩,
      ⟨⟨123456789012345, 13, by decide, by decide⟩, by decide +kernel, by decide +kernel⟩,
      ⟨⟨10 ^ 15, 0, by decide, by decide⟩, by decide +kernel, by decide +kernel⟩⟩
  have plain : ∀ e ∈ [(123456789012345 / 10 ^ 20 : Rat), 123456789012345 / 10 ^ 13, 10 ^ 15],
      Esplora.Plain e := by
    simp only [List.mem_cons, List.not_mem_nil, or_false, forall_eq_or_imp, forall_eq]
    refine ⟨⟨by norm_num, by norm_num, ⟨123456789012345, -20, by norm_num, by norm_num⟩, ?_⟩,
      ⟨by norm_num, by norm_num, ⟨123456789012345, -13, by norm_num, by norm_num⟩, ?_⟩,
      ⟨by norm_num, by norm_num, ⟨1, 15, by norm_num, by norm_num⟩, ?_⟩⟩
    · exact ⟨123456789012345, by norm_num⟩
    · exact ⟨123456789012345 * 10 ^ 7, by norm_num⟩
    · exact ⟨10 ^ 35, by norm_num⟩
  obtain ⟨rates, prices, rated, priced, _, values, _⟩ :=
    Utxo.prices_of_estimates (rfl : UtxoParams.preset? .bitcoin = some limits) told plain
      (by decide : (9999999999999 : UInt64).toNat ≤ 10 ^ 13)
  exact ⟨rates, prices, rated, priced, values.trans (by decide +kernel)⟩

end Sample

end CoinWallet
