import CoinWallet.Decimal.Arithmetic

set_option autoImplicit false

namespace CoinWallet.Decimal

-- powers are those of the core library
attribute [local instance (high)] instPowNat

-- the digits of a natural, padded with zeros on the left
def paddedDigits (n width : Nat) : List Char :=
  let digits := Nat.toDigits 10 n
  List.replicate (width - digits.length) '0' ++ digits

def toChars (d : Decimal) : List Char :=
  let digits := paddedDigits d.mantissa.natAbs (d.scale + 1)
  let whole := digits.take (digits.length - d.scale)
  let places := digits.drop (digits.length - d.scale)
  let sign := if d.mantissa < 0 then ['-'] else []
  sign ++ whole ++ (if d.scale = 0 then [] else '.' :: places)

def toText (d : Decimal) : String :=
  String.ofList d.toChars

def toShortText (d : Decimal) : String :=
  d.normalize.toText

def digit? (c : Char) : Option Nat :=
  if '0' ≤ c ∧ c ≤ '9' then some (c.toNat - '0'.toNat) else none

-- what may follow a digit that had no room
def isTail (c : Char) : Bool :=
  (digit? c).isSome || c == '_'

-- What ends a number whose next digit has no room: it counts for rounding, half up, and the digits
-- after it do not. A mantissa that rounding makes too large gives up one more place.
def roundOff (next mantissa places : Nat) (tail : List Char) : Option (Nat × Nat) :=
  if !tail.all isTail then none
  else if next < 5 then some (mantissa, places)
  else if mantissa + 1 < 2 ^ (96 : Nat) then some (mantissa + 1, places)
  else if places = 0 then none
  else some ((mantissa + 5) / 10, places - 1)

-- a mark in the place of a digit that has no room counts as a zero
def roundOffAt (mantissa places : Nat) : List Char → Option (Nat × Nat)
  | [] => some (mantissa, places)
  | c :: tail =>
    match digit? c with
    | some next => roundOff next mantissa places tail
    | none => if c = '_' ∨ c = '.' then roundOff 0 mantissa places tail else none

def wideMantissa : Nat := 18446744073709549060

-- digits with at most one point among them. `seen` tells whether a digit stood before; from then on
-- underscores may stand between digits; the answer is a mantissa and its places
def scan (mantissa places : Nat) (seen pointed : Bool) : List Char → Option (Nat × Nat)
  | [] => if seen then some (mantissa, places) else none
  | c :: rest =>
    if pointed && maxScale ≤ places then
      if c = '_' ∧ wideMantissa ≤ mantissa then roundOffAt mantissa places rest
      else roundOffAt mantissa places (c :: rest)
    else
      match digit? c with
      | some next =>
        if mantissa * 10 + next < 2 ^ (96 : Nat) then
          scan (mantissa * 10 + next) (if pointed then places + 1 else places) true pointed rest
        else if pointed then roundOff next mantissa places rest
        else none
      | none =>
        if c = '.' ∧ !pointed then scan mantissa places seen true rest
        else if c = '_' ∧ seen then scan mantissa places seen pointed rest
        else none

def readPlain? (text : List Char) : Option Decimal :=
  match text with
  | '-' :: rest => do
    let (mantissa, places) ← scan 0 0 false false rest
    ofScaled? (-(mantissa : Int)) places
  | '+' :: rest => do
    let (mantissa, places) ← scan 0 0 false false rest
    ofScaled? mantissa places
  | _ => do
    let (mantissa, places) ← scan 0 0 false false text
    ofScaled? mantissa places

-- an exponent: digits after an optional plus sign, below 2^32
def readExponent? (text : List Char) : Option Nat := do
  let digits := match text with
    | '+' :: rest => rest
    | _ => text
  if digits.isEmpty then none
  else
    let n ← digits.foldlM (fun n c => (digit? c).map (n * 10 + ·)) 0
    if n < 2 ^ (32 : Nat) then some n else none

-- the number times `10 ^ e`: places are used up first, and only whole numbers grow
def shiftUp? (d : Decimal) (e : Nat) : Option Decimal :=
  if e ≤ d.scale then ofScaled? d.mantissa (d.scale - e)
  else if maxScale < e then none
  else ofScaled? (d.mantissa * 10 ^ (e - d.scale)) 0

-- the number over `10 ^ e`, rounded half away from zero to the places a decimal has
def shiftDown? (d : Decimal) (e : Nat) : Option Decimal :=
  if maxScale < e then none
  else
    let kept := d.roundTo .halfAway (maxScale - e)
    ofScaled? kept.mantissa (kept.scale + e)

def readScientific? (text : List Char) : Option Decimal := do
  let isMark (c : Char) : Bool := c == 'e' || c == 'E'
  let base := text.takeWhile fun c => !isMark c
  match text.dropWhile fun c => !isMark c with
  | [] => none
  | _ :: '-' :: digits =>
    let d ← readPlain? base
    let e ← readExponent? digits
    shiftDown? d e
  | _ :: digits =>
    let d ← readPlain? base
    let e ← readExponent? digits
    shiftUp? d e

def parse? (text : String) : Option Decimal :=
  match readPlain? text.toList with
  | some d => some d
  | none => readScientific? text.toList

end CoinWallet.Decimal
