import CoinWallet.Text.Hex

set_option autoImplicit false

namespace CoinWallet

structure PublicKey where
  key : Bytes
  derivationPath : Option String := none
deriving DecidableEq, Repr

def PublicKey.toText (k : PublicKey) : String :=
  "PublicKey(" ++ Hex.encode k.key ++ ")"

end CoinWallet
