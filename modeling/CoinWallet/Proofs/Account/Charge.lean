import CoinWallet.Account.Pricing
import CoinWallet.Chain
import CoinWallet.Proofs.Fee.Gas

set_option autoImplicit false

namespace CoinWallet

-- powers and sums are those of the core library
attribute [local instance (high)] instPowNat Zero.ofOfNat0

open Tiers

theorem Blockchain.decimals_of_usesAccounts {chain : Blockchain} (accounts : chain.usesOutputs = false) :
    chain.decimals.toNat = 18 := by
  cases chain <;> first | rfl | cases accounts

namespace Account

variable {chain : Blockchain} {gas : GasPolicy} {estimate : UInt64} {rawPrice : Nat}

def Shows (chain : Blockchain) (limit : UInt64) (unitsAndPrice : Decimal × Decimal) (fee : Fee) :
    Prop :=
  ∃ value, value.toRat * 10 ^ chain.decimals.toNat = unitsAndPrice.1.toRat ∧
    fee = .gas (.coin chain value) limit (unitsAndPrice.2.roundTo .halfAway 0)

theorem shows_of_gasFee? {limit : UInt64} {units price : Decimal} {fee : Fee}
    (whole : units.scale = 0) (made : gasFee? chain limit units price = some fee) :
    Shows chain limit (units, price) fee := by
  obtain ⟨value, shifted, units⟩ := Decimal.shiftLeft?_of_scale_eq_zero whole chain.decimals_le
  simp only [gasFee?, shifted, Option.bind_eq_bind, Option.bind_some, Option.pure_def,
    Option.some.injEq] at made
  exact ⟨value, units, made.symm⟩

theorem Shows.units {limit : UInt64} {pair : Decimal × Decimal} {fee : Fee}
    (shows : Shows chain limit pair fee) :
    fee.amount.value.toRat * 10 ^ chain.decimals.toNat = pair.1.toRat := by
  obtain ⟨value, units, rfl⟩ := shows
  exact units

theorem ascending_of_shows {limit : UInt64} {units prices : Tiers Decimal} {fees : Tiers Fee}
    (shown : Forall₂ (Shows chain limit) (units.zip prices) fees)
    (ascending : units.values.Ascending) :
    (fees.map fun fee => fee.amount.value.toRat).Ascending := by
  refine ascending.of_mul (by positivity : (0 : Rat) < 10 ^ chain.decimals.toNat) ?_
  exact ⟨shown.minimum.units, shown.normal.units, shown.priority.units⟩

theorem feeOffer_ok {offer : FeeOffer} (offered : feeOffer chain gas estimate rawPrice = .ok offer) :
    ∃ price units prices fees, Decimal.ofBaseUnits? rawPrice 0 = some price ∧
      gas.feeTiers? (gas.adjustLimit estimate) price = some units ∧
      gas.priceTiers? price = some prices ∧
      Forall₂ (Shows chain (gas.adjustLimit estimate)) (units.zip prices) fees ∧
      offer = .choosable fees := by
  simp only [feeOffer] at offered
  split at offered
  next => cases offered
  next price told =>
    split at offered
    next units prices made priced =>
      obtain ⟨fees, tiers, rfl⟩ := Option.map_eq_some_iff.mp (Outcome.ofOption_eq_ok_iff.mp offered)
      refine ⟨price, units, prices, fees, told, made, priced, ?_, rfl⟩
      refine (mapM?_eq_some_iff.mp tiers).imp_of_mem fun pair member fee single => ?_
      exact shows_of_gasFee? (gas.scale_of_feeTiers? made (fst_mem_of_mem_zip member)) single
    next => cases offered

end Account

def Fee.Charged : Fee → Prop
  | gas amount limit price => amount.value.toRat * 10 ^ 18 = limit.toNat * price.toRat
  | common _ => False

instance : DecidablePred Fee.Charged
  | .gas amount limit price =>
    inferInstanceAs (Decidable (amount.value.toRat * 10 ^ 18 = limit.toNat * price.toRat))
  | .common _ => isFalse id

def Fee.gasPrice : Fee → Rat
  | gas _ _ price => price.toRat
  | common _ => 0

/-- Fees on a chain of accounts whose price is whole, times each multiplier too, and where no
multiplier is below another that is less urgent: each is what its limit costs at its price, and
prices ascend as fees do. -/
theorem Account.charged_of_feeOffer {chain : Blockchain} (accounts : chain.usesOutputs = false)
    {gas : GasPolicy} {estimate : UInt64} {rawPrice : Nat} {offer : FeeOffer}
    (offered : feeOffer chain gas estimate rawPrice = .ok offer)
    {price : Decimal} (told : Decimal.ofBaseUnits? rawPrice 0 = some price) {prices : Tiers Int}
    (whole : gas.Prices (gas.floorPrice price) prices)
    (ascending : (prices.map fun whole : Int => (whole : Rat)).Ascending) :
    ∃ fees, offer = .choosable fees ∧ (∀ fee ∈ fees.toList, fee.Charged) ∧
      (fees.map fun fee => fee.amount.value.toRat).Ascending ∧ (fees.map Fee.gasPrice).Ascending := by
  obtain ⟨_, units, tiers, fees, same, made, priced, shown, rfl⟩ := feeOffer_ok offered
  cases same.symm.trans told
  have unit_eq := map_eq_map_iff.mp (whole.feeTiers? ascending made)
  have price_eq := map_eq_map_iff.mp (whole.priceTiers? priced)
  have exact := (unit_eq.zip price_eq).trans shown (T := fun (whole : Int) (fee : Fee) =>
    fee.Charged ∧ fee.gasPrice = whole) ?_
  next =>
    refine ⟨fees, rfl, fun fee member => ?_, ?_, ?_⟩
    next =>
      obtain ⟨_, _, charged, _⟩ := exact.of_mem_right member
      exact charged
    next => exact ascending_of_shows shown (gas.ascending_of_feeTiers? made)
    next =>
      have priced : fees.map Fee.gasPrice = prices.map fun whole : Int => (whole : Rat) :=
        map_eq_map_iff.mpr (exact.imp fun _ _ => And.right)
      rwa [priced]
  rintro whole pair fee ⟨units, price⟩ ⟨value, shifted, rfl⟩
  rw [Blockchain.decimals_of_usesAccounts accounts, units] at shifted
  exact ⟨by rw [Fee.Charged, price, ← shifted]; rfl, price⟩

namespace Sample

-- gas is more than estimated, and never as cheap as the node tells
def cautious : GasPolicy where
  limitMultiplier := some GasPolicy.usualNormal
  minimalPrice := some (.ofUInt64 30000000000)

-- the most urgent level pays less than the one below
def inverted : GasPolicy where
  normalMultiplier := GasPolicy.usualPriority
  priorityMultiplier := .one

def gasFees (gas : GasPolicy) (estimate : UInt64) (rawPrice : Nat) : Option (Tiers Fee) :=
  match Account.feeOffer .ethereum gas estimate rawPrice with
  | .ok (.choosable fees) => some fees
  | _ => none

theorem offered_of_any (gas : GasPolicy) (estimate : UInt64) (rawPrice : Nat)
    (holds : Tiers Fee → Prop) [DecidablePred holds]
    (any : (gasFees gas estimate rawPrice).any (holds ·) = true) :
    ∃ fees, Account.feeOffer .ethereum gas estimate rawPrice = .ok (.choosable fees) ∧
      holds fees := by
  obtain ⟨fees, made, held⟩ := (Option.any_eq_true _ _).mp any
  unfold gasFees at made
  split at made <;> cases made
  exact ⟨fees, by assumption, of_decide_eq_true held⟩

theorem charged_of_feeOffer_cautious :
    ∃ fees, Account.feeOffer .ethereum cautious 21000 20000000000 = .ok (.choosable fees) ∧
      fees.map Fee.gasPrice = ⟨30000000000, 36000000000, 45000000000⟩ ∧
      ∀ fee ∈ fees.toList, fee.Charged := by
  obtain ⟨fees, offered, prices⟩ := offered_of_any cautious 21000 20000000000
    (fun fees => fees.map Fee.gasPrice = ⟨30000000000, 36000000000, 45000000000⟩)
    (by decide +kernel)
  have whole : cautious.Prices (cautious.floorPrice (.ofUInt64 20000000000))
      ⟨30000000000, 36000000000, 45000000000⟩ :=
    ⟨by decide +kernel, by decide +kernel, by decide +kernel⟩
  obtain ⟨same, equal, charged, _⟩ :=
    Account.charged_of_feeOffer rfl offered rfl whole (by decide +kernel)
  cases equal
  exact ⟨fees, offered, prices, charged⟩

theorem uneven_price_not_charged :
    (∃ fees, Account.feeOffer .ethereum {} 21000 20000000001 = .ok (.choosable fees) ∧
      fees.map Fee.gasPrice = ⟨20000000001, 24000000001, 30000000002⟩ ∧
      ¬ fees.normal.Charged ∧ ¬ fees.priority.Charged) ∧
    ∃ fees, Account.feeOffer .ethereum inverted 21000 20000000000 = .ok (.choosable fees) ∧
      fees.map Fee.gasPrice = ⟨20000000000, 30000000000, 20000000000⟩ ∧
      ¬ fees.priority.Charged ∧ ¬ (fees.map Fee.gasPrice).Ascending :=
  ⟨offered_of_any {} 21000 20000000001 _ (by decide +kernel),
    offered_of_any inverted 21000 20000000000 _ (by decide +kernel)⟩

end Sample

end CoinWallet
