import CoinWallet.Amount
import CoinWallet.Document.Fields
import CoinWallet.PublicKey
import CoinWallet.WalletId

set_option autoImplicit false

namespace CoinWallet

open Node (record)

namespace Decimal

def write (d : Decimal) : Node := .text d.toText

end Decimal

namespace Blockchain

def read (form : Form) (n : Node) : Option Blockchain :=
  (n.choice? form).bind ofName?

def write (chain : Blockchain) : Node := .text chain.name

end Blockchain

namespace Token

def fieldNames : List String := ["symbol", "contract_address", "decimals"]

def read (form : Form) (n : Node) : Option Token := do
  match ← n.fields? form fieldNames with
  | [symbol, contract, decimals] =>
    let symbol ← symbol.required Node.readText?
    let contract ← contract.required Node.readText?
    let decimals ← decimals.required Node.readUInt32?
    some { symbol := symbol, contract := contract, decimals := decimals }
  | _ => none

def fields (t : Token) : List (String × Node) :=
  [("symbol", .text t.symbol), ("contract_address", .text t.contract),
    ("decimals", .ofNat t.decimals.toNat)]

def write (t : Token) : Node := record t.fields

end Token

namespace AmountType

def read (form : Form) (n : Node) : Option AmountType := do
  match ← n.variant? form ["coin", "token", "reserve"] with
  | ("coin", rest) => if rest.noFields then some .coin else none
  | ("token", rest) => (Token.read .held rest).map .token
  | ("reserve", rest) => if rest.noFields then some .reserve else none
  | _ => none

def write : AmountType → Node
  | coin => record [("type", .text "coin")]
  | token t => record (("type", .text "token") :: t.fields)
  | reserve => record [("type", .text "reserve")]

end AmountType

namespace Amount

def fieldNames : List String := ["amount_type", "value", "decimals", "currency_symbol"]

def read (form : Form) (n : Node) : Option Amount := do
  match ← n.fields? form fieldNames with
  | [kind, value, decimals, symbol] =>
    let kind ← kind.required (AmountType.read form)
    let value ← value.required Node.readDecimal?
    let decimals ← decimals.required Node.readUInt32?
    let symbol ← symbol.required Node.readText?
    some { kind := kind, value := value, decimals := decimals, symbol := symbol }
  | _ => none

def fields (a : Amount) : List (String × Node) :=
  [("amount_type", a.kind.write), ("value", a.value.write), ("decimals", .ofNat a.decimals.toNat),
    ("currency_symbol", .text a.symbol)]

def write (a : Amount) : Node := record a.fields

end Amount

namespace PublicKey

def read (n : Node) : Option PublicKey := do
  match ← n.fields? .loose ["blockchain_key", "derivation_path"] with
  | [key, path] =>
    let key ← key.required fun n => n.readText?.bind Hex.decode?
    let path ← path.optionalOrNull Node.readText?
    some { key := key, derivationPath := path }
  | _ => none

def write (k : PublicKey) : Node :=
  record [("blockchain_key", .text (Hex.encode k.key)),
    ("derivation_path", Node.ofOption .text k.derivationPath)]

end PublicKey

namespace WalletId

def read (n : Node) : Option WalletId :=
  n.readText?.bind parse?

def write (id : WalletId) : Node := .text id.toText

end WalletId

end CoinWallet
