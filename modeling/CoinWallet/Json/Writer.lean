import CoinWallet.Document.Node

set_option autoImplicit false

namespace CoinWallet.Json

def escape (c : Char) : List Char :=
  match c with
  | '"' => ['\\', '"']
  | '\\' => ['\\', '\\']
  | '\x08' => ['\\', 'b']
  | '\x0c' => ['\\', 'f']
  | '\n' => ['\\', 'n']
  | '\r' => ['\\', 'r']
  | '\t' => ['\\', 't']
  | c =>
    if c.toNat < 0x20 then
      "\\u00".toList ++ [Nat.digitChar (c.toNat / 16), Nat.digitChar (c.toNat % 16)]
    else [c]

def quote (s : String) : List Char :=
  '"' :: s.toList.flatMap escape ++ ['"']

def numberChars : Number → List Char
  | .whole n => (toString n).toList
  | .real x => x.toText.toList
  | .unbounded => "null".toList

mutual

def toChars : Node → List Char
  | .null | .broken => "null".toList
  | .bool true => "true".toList
  | .bool false => "false".toList
  | .number n => numberChars n
  | .text s | .plain s => quote s
  | .tagged _ n => toChars n
  | .list items => '[' :: itemChars items ++ [']']
  | .map entries => '\x7b' :: entryChars entries ++ ['\x7d']

def itemChars : List Node → List Char
  | [] => []
  | [item] => toChars item
  | item :: rest => toChars item ++ ',' :: itemChars rest

def entryChars : List (Node × Node) → List Char
  | [] => []
  | [(key, value)] => toChars key ++ ':' :: toChars value
  | (key, value) :: rest => toChars key ++ ':' :: toChars value ++ ',' :: entryChars rest

end

def write (node : Node) : String :=
  String.ofList (toChars node)

end CoinWallet.Json
