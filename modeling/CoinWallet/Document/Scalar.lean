import CoinWallet.Document.Node
import CoinWallet.Text.Hex

set_option autoImplicit false

namespace CoinWallet.Scalar

-- powers are those of the core library
attribute [local instance (high)] instPowNat

def isNull (s : String) : Bool :=
  s == "" || s == "~" || s == "null" || s == "Null" || s == "NULL"

def readBool? (s : String) : Option Bool :=
  if s == "true" || s == "True" || s == "TRUE" then some true
  else if s == "false" || s == "False" || s == "FALSE" then some false
  else none

-- digits of a base; at least one
def readInBase (base : Nat) (cs : List Char) : Option Nat :=
  if cs.isEmpty then none
  else
    cs.foldlM
      (fun n c => do
        let d ← Hex.digitValue? c
        if d < base then some (n * base + d) else none) 0

def startsWithSign : List Char → Bool
  | '+' :: _ | '-' :: _ => true
  | _ => false

def isPaddedDigits (cs : List Char) : Bool :=
  let digits := match cs with
    | '-' :: rest | '+' :: rest => rest
    | _ => cs
  match digits with
  | '0' :: rest@(_ :: _) => rest.all Char.isDigit
  | _ => false

-- a marked base, or ten; a sign after the mark is refused
def readMarked? (cs : List Char) : Option Nat :=
  match cs with
  | '0' :: 'x' :: digits => readInBase 16 digits
  | '0' :: 'o' :: digits => readInBase 8 digits
  | '0' :: 'b' :: digits => readInBase 2 digits
  | _ => none

def readUnsigned? (s : String) : Option Nat :=
  let cs := s.toList
  let body := match cs with
    | '+' :: rest => rest
    | _ => cs
  match readMarked? body with
  | some n => some n
  | none =>
    if startsWithSign body || isPaddedDigits cs then none else readInBase 10 body

def readNegative? (s : String) : Option Int :=
  match s.toList with
  | '-' :: body =>
    match readMarked? body with
    | some n => some (-(n : Int))
    | none => if isPaddedDigits s.toList then none else (readInBase 10 body).map fun n => -(n : Int)
  | _ => none

-- digits, and how many of them stand after the point
def readFloatDigits (cs : List Char) : Option (Nat × Nat × List Char) :=
  let whole := cs.takeWhile Char.isDigit
  let rest := cs.dropWhile Char.isDigit
  let (fraction, rest) := match rest with
    | '.' :: rest => (rest.takeWhile Char.isDigit, rest.dropWhile Char.isDigit)
    | _ => ([], rest)
  (readInBase 10 (whole ++ fraction)).map fun n => (n, fraction.length, rest)

def readExponent? : List Char → Option Int
  | [] => some 0
  | c :: rest =>
    if c = 'e' ∨ c = 'E' then
      match rest with
      | '-' :: digits => (readInBase 10 digits).map fun n => -(n : Int)
      | '+' :: digits => (readInBase 10 digits).map fun n => (n : Int)
      | digits => (readInBase 10 digits).map fun n => (n : Int)
    else none

def readReal? (s : String) : Option Binary64 := do
  let cs := s.toList
  let (negative, body) := match cs with
    | '-' :: rest => (true, rest)
    | '+' :: rest => (false, rest)
    | _ => (false, cs)
  let (n, places, rest) ← readFloatDigits body
  let exponent ← readExponent? rest
  let e := exponent - places
  if n = 0 then some ⟨negative, 0, 0⟩
  else if 400 < e then none
  else if e < -5000 then some ⟨negative, 0, 0⟩
  else
    let (m, q) ← Binary64.nearestSize? (n * 10 ^ e.toNat) (10 ^ (-e).toNat)
    some ⟨negative, m, q⟩

def isUnbounded (s : String) : Bool :=
  [".inf", ".Inf", ".INF", "+.inf", "+.Inf", "+.INF", "-.inf", "-.Inf", "-.INF", ".nan", ".NaN",
    ".NAN"].contains s

-- a whole number within the 128 bits of the widest words
def readWhole? (s : String) : Option Int :=
  match readUnsigned? s with
  | some n => if n < 2 ^ (128 : Nat) then some n else none
  | none => (readNegative? s).filter fun n => -2 ^ (127 : Nat) ≤ n

def real? (s : String) : Option Number :=
  if isUnbounded s then some .unbounded else (readReal? s).map .real

def resolve (s : String) : Node :=
  if isNull s then .null
  else
    match readBool? s, readWhole? s with
    | some b, _ => .bool b
    | none, some n => .number (.whole n)
    | none, none =>
      if isPaddedDigits s.toList then .text s
      else
        match real? s with
        | some x => .number x
        | none => .text s

def commonTag (kind : String) : String := "tag:yaml.org,2002:" ++ kind

def nullTag : String := commonTag "null"

def isNullWord (s : String) : Bool := !s.isEmpty && isNull s

-- what a scalar stands for under the tag of a common kind: that kind or nothing; under any other
-- tag it is a text
def resolveAs (tag s : String) : Node :=
  let orBroken (n : Option Node) : Node := n.getD .broken
  if tag == commonTag "bool" then orBroken ((readBool? s).map .bool)
  else if tag == commonTag "int" then orBroken ((readWhole? s).map fun n => .number (.whole n))
  else if tag == commonTag "float" then orBroken ((real? s).map .number)
  else if tag == nullTag then if isNullWord s then .null else .broken
  else .text s

end CoinWallet.Scalar
