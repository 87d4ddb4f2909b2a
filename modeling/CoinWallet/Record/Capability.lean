import CoinWallet.Document.Fields
import CoinWallet.Error.Manager

set_option autoImplicit false

namespace CoinWallet.Capability

def read (n : Node) : Option Capability := do
  let name ← n.choice? .loose
  all.find? fun c => c.name == name

def write (c : Capability) : Node := .text c.name

end CoinWallet.Capability
