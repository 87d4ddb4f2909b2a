import CoinWallet.Text.ComposedTable

set_option autoImplicit false

namespace CoinWallet.Text

def combiningClass (c : Char) : Nat :=
  if c.toNat < 128 then 0 else (combiningClasses.value? c).getD 0

def leadBase : Nat := 0x1100
def vowelBase : Nat := 0x1161
def tailBase : Nat := 0x11a7
def syllableBase : Nat := 0xac00
def leadCount : Nat := 19
def vowelCount : Nat := 21
def tailCount : Nat := 28

-- the number of a Korean syllable
def syllable? (c : Char) : Option Nat :=
  if syllableBase ≤ c.toNat && c.toNat < syllableBase + leadCount * vowelCount * tailCount then
    some (c.toNat - syllableBase)
  else none

-- lead, vowel and, where there is one, tail
def syllableParts (n : Nat) : List Char :=
  let tail := n % tailCount
  Char.ofNat (leadBase + n / (vowelCount * tailCount)) ::
    Char.ofNat (vowelBase + n / tailCount % vowelCount) ::
    (if tail = 0 then [] else [Char.ofNat (tailBase + tail)])

def takeApart : (depth : Nat) → Char → List Char
  | 0, c => [c]
  | depth + 1, c =>
    if c.toNat < 128 then [c]
    else
      match syllable? c with
      | some n => syllableParts n
      | none =>
        match mapped? compositions c with
        | some parts => parts.flatMap (takeApart depth)
        | none => [c]

-- no character has more marks
def markLimit : Nat := 4

-- a mark goes behind those of a smaller class
def place (c : Char) : List Char → List Char
  | [] => [c]
  | d :: rest =>
    if 0 < combiningClass d && combiningClass d < combiningClass c then d :: place c rest
    else c :: d :: rest

def inOrder (cs : List Char) : List Char :=
  cs.foldr place []

-- the one character for two
def together? (a b : Char) : Option Char :=
  if leadBase ≤ a.toNat && a.toNat < leadBase + leadCount &&
      vowelBase ≤ b.toNat && b.toNat < vowelBase + vowelCount then
    some (Char.ofNat (syllableBase +
      ((a.toNat - leadBase) * vowelCount + (b.toNat - vowelBase)) * tailCount))
  else
    match syllable? a with
    | some n =>
      if n % tailCount = 0 && tailBase < b.toNat && b.toNat < tailBase + tailCount then
        some (Char.ofNat (a.toNat + (b.toNat - tailBase)))
      else none
    | none =>
      (compositions.find? fun m => m.target == [a.toNat, b.toNat]).map fun m => Char.ofNat m.first

-- puts marks into the base before them. `marks` are those that stay beside it, in reverse; one of
-- the same or a greater class hides the base from a later mark
def putTogether (base : Char) (marks : List Char) : List Char → List Char
  | [] => base :: marks.reverse
  | c :: rest =>
    let seen := match marks with
      | mark :: _ => decide (combiningClass mark < combiningClass c)
      | [] => true
    match if seen then together? base c else none with
    | some whole => putTogether whole marks rest
    | none =>
      if combiningClass c = 0 then base :: marks.reverse ++ putTogether c [] rest
      else putTogether base (c :: marks) rest

def composed (cs : List Char) : List Char :=
  if cs.all fun c => c.toNat < 128 then cs
  else
    let parts := inOrder (cs.flatMap (takeApart markLimit))
    let free := parts.takeWhile fun c => combiningClass c ≠ 0
    match parts.drop free.length with
    | [] => free
    | base :: rest => free ++ putTogether base [] rest

end CoinWallet.Text
