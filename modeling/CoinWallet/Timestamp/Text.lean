import CoinWallet.Text.Blank
import CoinWallet.Timestamp.Calendar

set_option autoImplicit false

namespace CoinWallet.Timestamp

-- powers are those of the core library
attribute [local instance (high)] instPowNat

def padded (width n : Nat) : List Char :=
  let digits := Nat.toDigits 10 n
  List.replicate (width - digits.length) '0' ++ digits

-- four digits, or a sign and at least four
def yearChars (year : Int) : List Char :=
  if 0 ≤ year ∧ year ≤ 9999 then padded 4 year.toNat
  else (if year < 0 then '-' else '+') :: padded 4 year.natAbs

-- three, six or nine places, as few as show all
def fractionChars (nanos : Nat) : List Char :=
  if nanos = 0 then []
  else if nanos % 1000000 = 0 then '.' :: padded 3 (nanos / 1000000)
  else if nanos % 1000 = 0 then '.' :: padded 6 (nanos / 1000)
  else '.' :: padded 9 nanos

def toText (t : Timestamp) : String :=
  let date := CivilDate.ofDays (t.seconds / 86400)
  let ofDay := (t.seconds % 86400).toNat
  let leap := 1000000000 ≤ t.nanos
  let second := ofDay % 60 + (if leap then 1 else 0)
  String.ofList <|
    yearChars date.year ++ '-' :: padded 2 date.month ++ '-' :: padded 2 date.day ++
      'T' :: padded 2 (ofDay / 3600) ++ ':' :: padded 2 (ofDay / 60 % 60) ++
      ':' :: padded 2 second ++ fractionChars (t.nanos % 1000000000) ++ ['Z']

def digitOf (c : Char) : Nat := c.toNat - '0'.toNat

def scanNumber (width : Nat) (cs : List Char) : Option (Nat × List Char) :=
  let cs := Text.trimLeft cs
  let digits := (cs.take width).takeWhile Char.isDigit
  if digits.isEmpty then none
  else some (digits.foldl (fun n c => 10 * n + digitOf c) 0, cs.drop digits.length)

def scanLiteral (c : Char) (cs : List Char) : Option (List Char) :=
  match Text.trimLeft cs with
  | d :: rest => if c = d then some rest else none
  | [] => none

-- four digits, or any number of them after a sign
def scanYear (cs : List Char) : Option (Int × List Char) :=
  match Text.trimLeft cs with
  | '-' :: rest =>
    if (rest.head?.map Char.isDigit).getD false then
      (scanNumber rest.length rest).map fun (n, rest) => (-(n : Int), rest)
    else none
  | '+' :: rest =>
    if (rest.head?.map Char.isDigit).getD false then
      (scanNumber rest.length rest).map fun (n, rest) => ((n : Int), rest)
    else none
  | cs => (scanNumber 4 cs).map fun (n, rest) => ((n : Int), rest)

-- nanoseconds after a point; digits past the ninth do not count
def scanFraction (cs : List Char) : Option (Nat × List Char) :=
  match cs with
  | '.' :: rest =>
    let digits := (rest.take 9).takeWhile Char.isDigit
    if digits.isEmpty then none
    else
      let n := digits.foldl (fun n c => 10 * n + digitOf c) 0
      some (n * 10 ^ (9 - digits.length), rest.dropWhile Char.isDigit)
  | _ => some (0, cs)

-- seconds east of UTC: Z, UTC, or a sign, two digits of hours and two of minutes
def scanOffset (cs : List Char) : Option (Int × List Char) :=
  let clock (sign : Int) (cs : List Char) : Option (Int × List Char) :=
    match cs with
    | h1 :: h2 :: rest =>
      if h1.isDigit && h2.isDigit then
        match rest.dropWhile fun c => c == ':' || Text.isBlank c with
        | m1 :: m2 :: rest =>
          if m1.isDigit && m2.isDigit && m1 ≤ '5' then
            let hours := 10 * digitOf h1 + digitOf h2
            let minutes := 10 * digitOf m1 + digitOf m2
            if hours < 24 then some (sign * (hours * 3600 + minutes * 60 : Nat), rest) else none
          else none
        | _ => none
      else none
    | _ => none
  if (cs.take 3).map Char.toLower = ['u', 't', 'c'] then some (0, cs.drop 3)
  else
    match cs with
    | 'Z' :: rest | 'z' :: rest => some (0, rest)
    | '+' :: rest => clock 1 rest
    | '-' :: rest => clock (-1) rest
    | c :: rest => if c.toNat = 0x2212 then clock (-1) rest else none
    | [] => none

def parse? (text : String) : Option Timestamp := do
  let (year, cs) ← scanYear text.toList
  let cs ← scanLiteral '-' cs
  let (month, cs) ← scanNumber 2 cs
  let cs ← scanLiteral '-' cs
  let (day, cs) ← scanNumber 2 cs
  let cs ← match cs with
    | 'T' :: rest | 't' :: rest | ' ' :: rest => some rest
    | _ => none
  let (hour, cs) ← scanNumber 2 cs
  let cs ← scanLiteral ':' cs
  let (minute, cs) ← scanNumber 2 cs
  let cs ← scanLiteral ':' cs
  let (second, cs) ← scanNumber 2 cs
  let (nanos, cs) ← scanFraction cs
  let (offset, cs) ← scanOffset (Text.trimLeft cs)
  let date : CivilDate := ⟨year, month, day⟩
  if !(Text.trimLeft cs).isEmpty || !date.isValid || 23 < hour || 59 < minute || 60 < second then
    none
  else
    let leap := second == 60
    let ofDay := hour * 3600 + minute * 60 + (if leap then 59 else second)
    let t ← ofSeconds? (date.toDays * 86400 + ofDay - offset)
    some { t with nanos := if leap then 1000000000 + nanos else nanos }

end CoinWallet.Timestamp
