import CoinWallet.Account.CallData
import CoinWallet.Fee.Pricing
import CoinWallet.Provider.Fetch
import CoinWallet.Wallet

set_option autoImplicit false

namespace CoinWallet.Account

def gasRequest (w : Wallet) (amount : Amount) (destination : String) :
    Except DomainError GasRequest :=
  match amount.baseUnits? with
  | none => .error (.unsupported ("amount not representable: " ++ amount.toText))
  | some value =>
    match amount.kind.token? with
    | some t =>
      .ok
        { source := w.primaryAddress, target := t.contract, value := 0
          data := some (CallData.transfer destination value) }
    | none => .ok { source := w.primaryAddress, target := destination, value := value }

def overflowError (limit : UInt64) (price : Decimal) : NetworkError :=
  .outOfRange (s!"fee for {limit.toNat} gas at " ++ price.toText ++ " overflows")

def gasFee? (chain : Blockchain) (limit : UInt64) (fee price : Decimal) : Option Fee := do
  let value ← fee.shiftLeft? chain.decimals.toNat
  return .gas (.coin chain value) limit (price.roundTo .halfAway 0)

def feeOffer (chain : Blockchain) (gas : GasPolicy) (estimate : UInt64) (rawPrice : Nat) :
    Outcome ManagerError FeeOffer :=
  let limit := gas.adjustLimit estimate
  match Decimal.ofBaseUnits? rawPrice 0 with
  | none => .fail (.network (.outOfRange s!"gas price out of range: {rawPrice}"))
  | some price =>
    match gas.feeTiers? limit price, gas.priceTiers? price with
    | some fees, some prices =>
      .ofOption <|
        ((fees.zip prices).mapM? fun (fee, price) => gasFee? chain limit fee price).map .choosable
    | _, _ => .fail (.network (overflowError limit price))

def feePlan (chain : Blockchain) (gas : GasPolicy) (w : Wallet) (amount : Amount)
    (destination : String) : Except ManagerError (Plan FeeOffer) :=
  match gasRequest w amount destination with
  | .error cause => .error (.domain cause)
  | .ok request =>
    .ok
      { queries := [.gasLimit request, .gasPrice]
        conclude := fun
          | .cons estimate (.cons price .nil) => feeOffer chain gas estimate price }

end CoinWallet.Account
