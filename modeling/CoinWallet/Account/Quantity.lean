import CoinWallet.Error.Network
import CoinWallet.Text.Case
import CoinWallet.Text.Hex

set_option autoImplicit false

namespace CoinWallet.Quantity

-- powers are those of the core library
attribute [local instance (high)] instPowNat

inductive ReadError
  | invalidDigit
  | tooLarge
deriving DecidableEq, Repr

def dropMarks : List Char → List Char
  | '0' :: 'x' :: rest => dropMarks rest
  | cs => cs

def readDigits (value : Nat) : List Char → Except ReadError Nat
  | [] => .ok value
  | c :: rest =>
    match Hex.digitValue? c with
    | none => .error .invalidDigit
    | some d =>
      if 16 * value + d < 2 ^ (128 : Nat) then readDigits (16 * value + d) rest
      else .error .tooLarge

def read (text : List Char) : Except ReadError Nat :=
  match (dropMarks text).dropWhile (· == '0') with
  | [] => .ok 0
  | ['+'] => .error .invalidDigit
  | '+' :: digits => readDigits 0 digits
  | digits => readDigits 0 digits

def parse (text : String) : Except NetworkError Nat :=
  match read text.toList with
  | .ok value => .ok value
  | .error .tooLarge => .error (.outOfRange (text ++ " exceeds u128"))
  | .error .invalidDigit => .error (.undecodable (text ++ ": invalid digit found in string"))

def encode (value : Nat) : String :=
  "0x" ++ Hex.ofNat value

end CoinWallet.Quantity
