set_option autoImplicit false

namespace CoinWallet

abbrev Bytes := List UInt8

namespace Hex

def digitValue? (c : Char) : Option Nat :=
  if '0' ≤ c ∧ c ≤ '9' then some (c.toNat - '0'.toNat)
  else if 'a' ≤ c ∧ c ≤ 'f' then some (c.toNat - 'a'.toNat + 10)
  else if 'A' ≤ c ∧ c ≤ 'F' then some (c.toNat - 'A'.toNat + 10)
  else none

def ofByte (b : UInt8) : List Char :=
  [Nat.digitChar (b.toNat / 16), Nat.digitChar (b.toNat % 16)]

def encode (bytes : Bytes) : String :=
  String.ofList (bytes.flatMap ofByte)

def decodeChars? : List Char → Option Bytes
  | [] => some []
  | [_] => none
  | high :: low :: rest => do
    let h ← digitValue? high
    let l ← digitValue? low
    let bytes ← decodeChars? rest
    some (UInt8.ofNat (16 * h + l) :: bytes)

def decode? (s : String) : Option Bytes :=
  decodeChars? s.toList

def ofNat (n : Nat) : String :=
  String.ofList (Nat.toDigits 16 n)

end Hex

end CoinWallet
