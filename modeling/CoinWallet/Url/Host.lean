import CoinWallet.Url.Domain
import CoinWallet.Url.Percent

set_option autoImplicit false

namespace CoinWallet.Url

-- powers are those of the core library
attribute [local instance (high)] instPowNat

inductive ParseError
  | relativeWithoutBase
  | emptyHost
  | invalidPort
  | invalidDomain
  | invalidDomainCharacter
  | invalidIpv4
  | invalidIpv6
deriving DecidableEq, Repr

def ParseError.message : ParseError → String
  | relativeWithoutBase => "relative URL without a base"
  | emptyHost => "empty host"
  | invalidPort => "invalid port number"
  | invalidDomain => "invalid international domain name"
  | invalidDomainCharacter => "invalid domain character"
  | invalidIpv4 => "invalid IPv4 address"
  | invalidIpv6 => "invalid IPv6 address"

-- a number in the given base; none for no digits
def readInBase (base : Nat) (cs : List Char) : Option Nat :=
  if cs.isEmpty then none
  else
    cs.foldlM
      (fun n c => do
        let d ← Hex.digitValue? c
        if d < base then some (n * base + d) else none) 0

-- `0x` marks base 16, a leading zero base 8
def readIpv4Part (cs : List Char) : Option Nat :=
  match cs with
  | [] => none
  | ['0', 'x'] | ['0', 'X'] => some 0
  | '0' :: 'x' :: digits | '0' :: 'X' :: digits => readInBase 16 digits
  | ['0'] => some 0
  | '0' :: digits => readInBase 8 digits
  | digits => readInBase 10 digits

-- the labels of a domain; a point at its end makes no label
def ipv4Labels (domain : List Char) : List (List Char) :=
  let labels := Text.splitAt (· == '.') domain
  match labels.reverse with
  | [] :: rest@(_ :: _) => rest.reverse
  | _ => labels

def endsInNumber (domain : List Char) : Bool :=
  match (ipv4Labels domain).getLast? with
  | none => false
  | some last =>
    (!last.isEmpty && last.all Char.isDigit) ||
      (match last with
        | '0' :: 'x' :: digits | '0' :: 'X' :: digits =>
          digits.all fun c => (Hex.digitValue? c).isSome
        | _ => false)

def readIpv4 (domain : List Char) : Except ParseError Nat := do
  let labels := ipv4Labels domain
  if 4 < labels.length then throw .invalidIpv4
  match labels.mapM readIpv4Part with
  | none => throw .invalidIpv4
  | some numbers =>
    match numbers.reverse with
    | [] => throw .invalidIpv4
    | last :: rest =>
      if rest.any (255 < ·) || 256 ^ (4 - rest.length) ≤ last then throw .invalidIpv4
      else
        return rest.reverse.zipIdx.foldl (fun sum (n, i) => sum + n * 256 ^ (3 - i)) last

def ipv4Chars (address : Nat) : List Char :=
  let part (i : Nat) : List Char := Nat.toDigits 10 (address / 256 ^ i % 256)
  part 3 ++ '.' :: part 2 ++ '.' :: part 1 ++ '.' :: part 0

-- two pieces from four decimal numbers of one byte each
def embeddedIpv4? (cs : List Char) : Option (List Nat) := do
  let parts := Text.splitAt (· == '.') cs
  if parts.length ≠ 4 then none
  else
    let bytes ← parts.mapM fun part =>
      if part.length ≤ 3 && part.all Char.isDigit &&
          (part.length = 1 || part.head? != some '0') then
        readInBase 10 part
      else none
    match bytes with
    | [a, b, c, d] =>
      if bytes.all (· ≤ 255) then some [256 * a + b, 256 * c + d] else none
    | _ => none

def readPiece? (piece : List Char) : Option Nat :=
  if piece.length ≤ 4 then readInBase 16 piece else none

-- pieces between colons up to the end of the address, which may be an address of 32 bits
def readPieces? : List (List Char) → Option (List Nat)
  | [] => some []
  | [last] => if last.contains '.' then embeddedIpv4? last else (readPiece? last).map ([·])
  | piece :: rest => do
    let n ← readPiece? piece
    let ns ← readPieces? rest
    some (n :: ns)

-- the text around the first double colon
def splitCompressed : List Char → List Char × Option (List Char)
  | ':' :: ':' :: rest => ([], some rest)
  | c :: rest =>
    let (before, after) := splitCompressed rest
    (c :: before, after)
  | [] => ([], none)

-- what stands on one side of a double colon, which may be nothing
def readSide? (read? : List (List Char) → Option (List Nat)) (cs : List Char) :
    Option (List Nat) :=
  if cs.isEmpty then some [] else read? (Text.splitAt (· == ':') cs)

def readIpv6 (cs : List Char) : Except ParseError (List Nat) :=
  match splitCompressed cs with
  | (before, some after) =>
    match readSide? (·.mapM readPiece?) before, readSide? readPieces? after with
    | some a, some b =>
      if a.length + b.length ≤ 7 then .ok (a ++ List.replicate (8 - a.length - b.length) 0 ++ b)
      else .error .invalidIpv6
    | _, _ => .error .invalidIpv6
  | (whole, none) =>
    match readPieces? (Text.splitAt (· == ':') whole) with
    | some pieces => if pieces.length = 8 then .ok pieces else .error .invalidIpv6
    | none => .error .invalidIpv6

-- start and length of the first of the longest runs of zeros
def longestZeros (pieces : List Nat) : Nat × Nat :=
  let runs := (List.range pieces.length).map fun i =>
    (i, ((pieces.drop i).takeWhile (· == 0)).length)
  runs.foldl (fun best run => if best.2 < run.2 then run else best) (0, 0)

def joinPieces (pieces : List Nat) : List Char :=
  [':'].intercalate (pieces.map fun n => Nat.toDigits 16 n)

def ipv6Chars (pieces : List Nat) : List Char :=
  let (start, length) := longestZeros pieces
  if length < 2 then joinPieces pieces
  else joinPieces (pieces.take start) ++ ':' :: ':' :: joinPieces (pieces.drop (start + length))

def isForbiddenInHost (c : Char) : Bool :=
  c.toNat = 0 || ['\t', '\n', '\r', ' ', '#', '/', ':', '<', '>', '?', '@', '[', '\\', ']', '^',
    '|'].contains c

def isForbiddenInDomain (c : Char) : Bool :=
  isForbiddenInHost c || c.toNat ≤ 0x1f || c == '%' || c.toNat = 0x7f

def readHost (cs : List Char) : Except ParseError (List Char) := do
  match cs with
  | '[' :: rest =>
    if rest.getLast? = some ']' then
      let pieces ← readIpv6 rest.dropLast
      return '[' :: ipv6Chars pieces ++ [']']
    else throw .invalidIpv6
  | _ =>
    let some text := String.fromUTF8? ⟨(percentDecode cs).toArray⟩ | throw .invalidDomain
    let some domain := asciiDomain? text.toList | throw .invalidDomain
    if domain.isEmpty then throw .emptyHost
    if domain.any isForbiddenInDomain then throw .invalidDomain
    if endsInNumber domain then
      let address ← readIpv4 domain
      return ipv4Chars address
    return domain

def readPlainHost (cs : List Char) : Except ParseError (List Char) := do
  match cs with
  | '[' :: rest =>
    if rest.getLast? = some ']' then
      let pieces ← readIpv6 rest.dropLast
      return '[' :: ipv6Chars pieces ++ [']']
    else throw .invalidIpv6
  | _ =>
    if cs.any isForbiddenInHost then throw .invalidDomainCharacter
    return percentEncode isControl cs

end CoinWallet.Url
