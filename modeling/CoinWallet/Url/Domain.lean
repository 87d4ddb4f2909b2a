import CoinWallet.Text.Composed
import CoinWallet.Url.DomainMapping
import CoinWallet.Url.DomainTable
import CoinWallet.Url.Punycode

set_option autoImplicit false

namespace CoinWallet.Url

def isAscii (cs : List Char) : Bool :=
  cs.all fun c => c.toNat < 128

def domainForm? (c : Char) : Option (List Char) :=
  if c.toNat < 128 then some [c.toLower]
  else
    match Text.mapped? domainMappings c with
    | some form => some form
    | none =>
      match statuses.value? c with
      | some .kept => some [c]
      | some .leftOut => some []
      | _ => none

def isMark (c : Char) : Bool :=
  128 ≤ c.toNat && (marks.value? c).getD false

def direction (c : Char) : Direction :=
  (directions.value? c).getD .neutral

def joining (c : Char) : Joining :=
  (joinings.value? c).getD .alone

-- the combining class of signs that take the vowel from a letter
def vowelKiller : Nat := 9

def nonJoiner : Char := Char.ofNat 0x200c
def joiner : Char := Char.ofNat 0x200d

def isTransparent (c : Char) : Bool :=
  joining c == .transparent

-- whether every joiner and non-joiner has its place: behind a sign that takes the vowel, and a
-- non-joiner also between two letters that would join. `before` is read backwards
def joinersHold (before : List Char) : List Char → Bool
  | [] => true
  | c :: rest =>
    let afterKiller := (before.head?.map Text.combiningClass) == some vowelKiller
    let joins (sides : List Joining) (cs : List Char) : Bool :=
      match cs.dropWhile isTransparent with
      | d :: _ => sides.contains (joining d)
      | [] => false
    (if c == joiner then afterKiller
      else if c == nonJoiner then
        afterKiller || (joins [.left, .both] before && joins [.right, .both] rest)
      else true) &&
    joinersHold (c :: before) rest

def labelHolds (label : List Char) : Bool :=
  isAscii label ||
    !((label.head?.map isMark).getD false) && joinersHold [] label

-- how much of a label Punycode is given
def encodeLimit : Nat := 1000
def decodeLimit : Nat := 2000

def asciiMark : List Char := "xn--".toList

def readLabel? (label : List Char) : Option (List Char) := do
  let meant ←
    if asciiMark.isPrefixOf label then do
      let code := label.drop asciiMark.length
      if !isAscii label || decodeLimit < code.length then none
      else
        let meant ← Punycode.decode? code
        if isAscii meant then none
        else if meant.all (fun c => domainForm? c == some [c]) && Text.composed meant == meant then
          some meant
        else none
    else some label
  if labelHolds meant then some meant else none

def writeLabel? (label : List Char) : Option (List Char) :=
  if isAscii label then some label
  else if encodeLimit < label.length then none
  else some (asciiMark ++ Punycode.encode label)

-- the direction that ends a label, marks aside
def lastDirection? (label : List Char) : Option Direction :=
  (label.map direction).reverse.find? (· != .mark)

def directionsHold (label : List Char) : Bool :=
  match label with
  | [] => true
  | first :: _ =>
    let all (allowed : List Direction) : Bool := label.all fun c => allowed.contains (direction c)
    let ends (allowed : List Direction) : Bool :=
      ((lastDirection? label).map allowed.contains).getD false
    let has (d : Direction) : Bool := label.any fun c => direction c == d
    match direction first with
    | .rightward =>
      all [.rightward, .europeanNumber, .neutral, .mark] && ends [.rightward, .europeanNumber]
    | .leftward =>
      all [.leftward, .arabicNumber, .europeanNumber, .neutral, .mark] &&
        ends [.leftward, .europeanNumber, .arabicNumber] &&
        !(has .europeanNumber && has .arabicNumber)
    | _ => false

-- whether anything in the domain is written from right to left
def isTwoWay (labels : List (List Char)) : Bool :=
  labels.any fun label => label.any fun c =>
    direction c == .leftward || direction c == .arabicNumber

def asciiDomain? (cs : List Char) : Option (List Char) := do
  let forms ← cs.mapM domainForm?
  let labels := Text.splitAt (· == '.') (Text.composed forms.flatten)
  let meant ← labels.mapM readLabel?
  if isTwoWay meant && !meant.all directionsHold then none
  else
    let written ← labels.mapM writeLabel?
    some (['.'].intercalate written)

end CoinWallet.Url
