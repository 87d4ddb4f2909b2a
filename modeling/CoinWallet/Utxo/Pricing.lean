import CoinWallet.Builder
import CoinWallet.Fee.Pricing
import CoinWallet.Provider.Fetch
import CoinWallet.Utxo.Params

set_option autoImplicit false

namespace CoinWallet.Utxo

def sizeDraft? (chain : Blockchain) (w : Wallet) (amount : Amount) (destination : String)
    (now : Timestamp) : Option Transaction := do
  let unit ← amount.baseUnit?
  let rest ← amount.value.sub? unit
  return {
    amount := amount.withValue rest
    fee := some (.common (.coin chain unit))
    source := w.primaryAddress
    destination := destination
    contract := none
    status := .unconfirmed
    hash := none
    date := now }

def feeOffer (chain : Blockchain) (params : UtxoParams) (rates : FeeRates) (size : UInt64) :
    Except NetworkError FeeOffer :=
  match SizeFee.tiers? rates params.minimalFeePerKb params.minimalFee size with
  | some fees => .ok (.choosable (fees.map fun fee => .common (.coin chain fee)))
  | none => .error (.outOfRange s!"fee for {size.toNat} bytes overflows")

def offerAt (chain : Blockchain) (params : UtxoParams) (builder : Builder) (w : Wallet)
    (amount : Amount) (destination : String) (now : Timestamp) (rates : FeeRates) :
    Outcome ManagerError FeeOffer := do
  let draft ← Outcome.ofOption (sizeDraft? chain w amount destination now)
  let size ← Outcome.ofExcept .build (builder.estimateSize draft w)
  Outcome.ofExcept .network (feeOffer chain params rates size)

def feePlan (chain : Blockchain) (params : UtxoParams) (builder : Builder) (w : Wallet)
    (amount : Amount) (destination : String) (now : Timestamp) : Plan FeeOffer where
  queries := [.feeRates]
  conclude
    | .cons rates .nil => offerAt chain params builder w amount destination now rates

end CoinWallet.Utxo
