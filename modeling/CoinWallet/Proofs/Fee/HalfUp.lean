import CoinWallet.Proofs.Fee.Gas

set_option autoImplicit false

namespace CoinWallet

-- powers and sums are those of the core library
attribute [local instance (high)] instPowNat Zero.ofOfNat0

open Decimal Tiers

namespace GasPolicy

variable {gas : GasPolicy} {limit : UInt64} {price : Decimal}

def dearer (gas : GasPolicy) (price : Decimal) : Rat :=
  match gas.minimalPrice with
  | some minimal => Max.max price.toRat minimal.toRat
  | none => price.toRat

def cost (gas : GasPolicy) (limit : UInt64) (price multiplier : Decimal) : Rat :=
  gas.dearer price * limit.toNat * multiplier.toRat

namespace Sample

end Sample

end GasPolicy

end CoinWallet
