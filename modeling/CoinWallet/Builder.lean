import CoinWallet.Error.Manager
import CoinWallet.Wallet

set_option autoImplicit false

namespace CoinWallet

structure Builder where
  -- one hash for each signature that is needed, in the order in which they are handed back
  buildForSign : Transaction → Wallet → Except BuildError (List Bytes)
  buildForSend : Transaction → Wallet → List Bytes → Except BuildError Bytes
  estimateSize : Transaction → Wallet → Except BuildError UInt64 :=
    fun _ _ => .error (.unsupported "size estimation")

end CoinWallet
