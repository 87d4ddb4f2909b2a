import CoinWallet.Number.Binary64

set_option autoImplicit false

namespace CoinWallet

inductive Number
  | whole (n : Int)
  | real (x : Binary64)
  | unbounded
deriving DecidableEq, Repr

inductive Node
  | null
  | bool (b : Bool)
  | number (n : Number)
  | text (s : String)
  | plain (s : String)
  | tagged (tag : String) (n : Node)
  | broken
  | list (items : List Node)
  | map (entries : List (Node × Node))

namespace Node

def record (fields : List (String × Node)) : Node :=
  .map (fields.map fun (name, value) => (.text name, value))

def ofOption {α : Type} (write : α → Node) : Option α → Node
  | some a => write a
  | none => .null

def ofNat (n : Nat) : Node :=
  .number (.whole n)

end Node

end CoinWallet
