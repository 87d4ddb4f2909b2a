import CoinWallet.Blockchain
import CoinWallet.Decimal.Basic

set_option autoImplicit false

namespace CoinWallet

structure UtxoParams where
  minimalFeePerKb : Decimal
  minimalFee : Decimal
  dustValue : Option Decimal
deriving DecidableEq

def UtxoParams.preset? : Blockchain → Option UtxoParams
  | .bitcoin | .bitcoinTestnet | .litecoin =>
    some
      { minimalFeePerKb := .unit 4
        minimalFee := .unit 5
        dustValue := none }
  | .dogecoin =>
    some
      { minimalFeePerKb := .unit 2
        minimalFee := .unit 2
        dustValue := some (.unit 2) }
  | .ethereum | .ethereumTestnet => none

end CoinWallet
