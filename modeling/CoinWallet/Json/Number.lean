import CoinWallet.Document.Node

set_option autoImplicit false

/-!
Numbers in JSON texts. Whole numbers of 64 bits are exact. All others are a significand of 64 bits,
past which digits are dropped, times a power of ten, with a rounding at each step.
-/

namespace CoinWallet.Json

-- powers are those of the core library
attribute [local instance (high)] instPowNat

structure NumberText where
  negative : Bool
  whole : List Nat
  fraction : List Nat
  hasFraction : Bool
  exponent : Option (Bool × List Nat)

def digit? (c : Char) : Option Nat :=
  if c.isDigit then some (c.toNat - '0'.toNat) else none

-- the digits at the start of a text
def takeDigits (cs : List Char) : List Nat × List Char :=
  ((cs.takeWhile Char.isDigit).filterMap digit?, cs.dropWhile Char.isDigit)

def scanFraction (cs : List Char) : Option (List Nat × Bool × List Char) :=
  match cs with
  | '.' :: rest =>
    let (digits, rest) := takeDigits rest
    if digits.isEmpty then none else some (digits, true, rest)
  | _ => some ([], false, cs)

def scanExponent (cs : List Char) : Option (Option (Bool × List Nat) × List Char) :=
  match cs with
  | c :: rest =>
    if c = 'e' ∨ c = 'E' then
      let (negative, rest) := match rest with
        | '-' :: rest => (true, rest)
        | '+' :: rest => (false, rest)
        | _ => (false, rest)
      let (digits, rest) := takeDigits rest
      if digits.isEmpty then none else some (some (negative, digits), rest)
    else some (none, cs)
  | [] => some (none, [])

def scanNumber (cs : List Char) : Option (NumberText × List Char) := do
  let (negative, cs) := match cs with
    | '-' :: rest => (true, rest)
    | _ => (false, cs)
  let (whole, rest) := takeDigits cs
  match whole with
  | [] => none
  | 0 :: _ :: _ => none
  | _ =>
    let (fraction, hasFraction, rest) ← scanFraction rest
    let (exponent, rest) ← scanExponent rest
    some (⟨negative, whole, fraction, hasFraction, exponent⟩, rest)

def ofDigits (digits : List Nat) : Nat :=
  digits.foldl (fun n d => 10 * n + d) 0

-- digits before the point: those that have no room in 64 bits only count for the exponent
def gatherWhole : List Nat → (significand exponent : Nat) → Nat × Nat
  | [], significand, exponent => (significand, exponent)
  | d :: rest, significand, exponent =>
    if exponent = 0 ∧ 10 * significand + d < 2 ^ (64 : Nat) then
      gatherWhole rest (10 * significand + d) 0
    else (significand, exponent + rest.length + 1)

-- digits after the point: from the first that has no room on, none counts
def gatherFraction : List Nat → (significand places : Nat) → Nat × Nat
  | [], significand, places => (significand, places)
  | d :: rest, significand, places =>
    if 10 * significand + d < 2 ^ (64 : Nat) then
      gatherFraction rest (10 * significand + d) (places + 1)
    else (significand, places)

-- exponents are kept to 32 bits with a sign
def clampExponent (e : Int) : Int :=
  max (-2 ^ (31 : Nat)) (min e (2 ^ (31 : Nat) - 1))

def scaled? (significand : Nat) (exponent : Int) : Option (Nat × Int) := do
  let start ← Binary64.ofNat? significand
  if 308 < exponent then
    if significand = 0 then some start else none
  else if 0 ≤ exponent then
    let power ← Binary64.ofNat? (10 ^ exponent.toNat)
    Binary64.mul? start power
  else if -308 ≤ exponent then
    let power ← Binary64.ofNat? (10 ^ (-exponent).toNat)
    Binary64.div? start power
  else
    let power ← Binary64.ofNat? (10 ^ (308 : Nat))
    let reduced ← Binary64.div? start power
    if exponent < -616 then some (0, 0)
    else
      let power ← Binary64.ofNat? (10 ^ (-exponent - 308).toNat)
      Binary64.div? reduced power

def NumberText.real? (t : NumberText) : Option Binary64 := do
  let (significand, extra) := gatherWhole t.whole 0 0
  let (significand, places) := gatherFraction t.fraction significand 0
  let base : Int := extra - places
  let size ← match t.exponent with
    | none => scaled? significand base
    | some (negative, digits) =>
      let e := ofDigits digits
      if 2 ^ (31 : Nat) ≤ e then
        if significand ≠ 0 ∧ !negative then none else some (0, 0)
      else scaled? significand (clampExponent (if negative then base - e else base + e))
  some ⟨t.negative, size.1, size.2⟩

def NumberText.toNode (t : NumberText) : Node :=
  let n := ofDigits t.whole
  let isWhole := !t.hasFraction && t.exponent.isNone
  if isWhole && !t.negative && n < 2 ^ (64 : Nat) then .number (.whole n)
  else if isWhole && t.negative && 0 < n && n ≤ 2 ^ (63 : Nat) then .number (.whole (-n))
  else
    match t.real? with
    | some x => .number (.real x)
    | none => .broken

end CoinWallet.Json
