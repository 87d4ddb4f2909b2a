import CoinWallet.Proofs.Decimal.Product
import CoinWallet.Proofs.Fee.Tiers
import CoinWallet.Utxo.Pricing

set_option autoImplicit false

namespace CoinWallet

-- powers and sums are those of the core library
attribute [local instance (high)] instPowNat Zero.ofOfNat0

open Decimal Tiers

namespace SizeFee

variable {rate minRate minFee fee : Decimal} {size : UInt64}

theorem toRat_kilobyte : kilobyte.toRat = 1024 := by
  rw [kilobyte, toRat_ofUInt64]
  exact Nat.cast_ofNat

theorem le_of_fee? (made : fee? rate minRate minFee size = some fee) : minFee.toRat ≤ fee.toRat := by
  simp only [fee?, Option.bind_eq_bind, Option.bind_eq_some_iff, Option.pure_def,
    Option.some.injEq] at made
  obtain ⟨perByte, _, product, _, rfl⟩ := made
  rw [toRat_max]
  exact le_max_right _ _

def cost (minFee perByte : Rat) (size : Nat) : Rat :=
  Max.max (⌊perByte * size * 10 ^ places⌋ / 10 ^ places) minFee

-- a price of a byte with at most fifteen digits, and a size of at most thirteen, leave room for no
-- rounding
theorem fee?_exact (fits : Fits 28 (10 ^ 15) (Max.max (rate.toRat / 1024) (minRate.toRat / 1024)))
    (small : size.toNat ≤ 10 ^ 13) (nonneg : 0 ≤ minRate.toRat) :
    ∃ fee, fee? rate minRate minFee size = some fee ∧ fee.toRat =
      cost minFee.toRat (Max.max (rate.toRat / 1024) (minRate.toRat / 1024)) size.toNat := by
  have least : 0 ≤ Max.max (rate.toRat / 1024) (minRate.toRat / 1024) :=
    le_max_of_le_right (by positivity)
  have larger : (rate.max minRate).toRat / kilobyte.toRat =
      Max.max (rate.toRat / 1024) (minRate.toRat / 1024) := by
    rw [toRat_max, toRat_kilobyte, max_div_div_right (by norm_num)]
  generalize Max.max (rate.toRat / 1024) (minRate.toRat / 1024) = price at fits least larger ⊢
  obtain ⟨perByte, divided, byte⟩ := div?_fits (a := rate.max minRate) (b := kilobyte)
    (by rw [toRat_kilobyte]; norm_num) (larger ▸ fits) (by norm_num)
  rw [larger] at byte
  obtain ⟨product, times, value⟩ := mul?_fits (a := perByte) (b := .ofUInt64 size)
    (by rw [byte, toRat_ofUInt64]; exact fits.mul_natCast small) (by norm_num)
  rw [byte, toRat_ofUInt64] at value
  refine ⟨(product.roundTo .toZero places).max minFee, by simp [fee?, divided, times], ?_⟩
  rw [toRat_max, toRat_roundTo_toZero (value ▸ by positivity), value, cost]

end SizeFee

namespace Utxo

variable {chain : Blockchain} {params : UtxoParams} {rates : FeeRates} {size : UInt64}

theorem feeOffer_ok {offer : FeeOffer} (offered : feeOffer chain params rates size = .ok offer) :
    ∃ prices, rates.mapM? (fun rate =>
        SizeFee.fee? rate params.minimalFeePerKb params.minimalFee size) = some prices ∧
      offer = .choosable (prices.ordered.map fun price => .common (.coin chain price)) := by
  unfold feeOffer SizeFee.tiers? at offered
  split at offered <;> cases offered
  next fees made =>
    obtain ⟨prices, priced, rfl⟩ := Option.map_eq_some_iff.mp made
    exact ⟨prices, priced, rfl⟩

end Utxo

end CoinWallet
