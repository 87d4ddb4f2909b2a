import CoinWallet.Json.Number

set_option autoImplicit false

namespace CoinWallet.Json

def isBlank (c : Char) : Bool :=
  c == ' ' || c == '\n' || c == '\t' || c == '\r'

def skipBlanks (cs : List Char) : List Char :=
  cs.dropWhile isBlank

inductive Piece
  | char (c : Char)
  | unit (n : Nat)

def hexUnit? (a b c d : Char) : Option Nat := do
  let digit (c : Char) : Option Nat :=
    if c.isDigit then some (c.toNat - '0'.toNat)
    else if 'a' ≤ c ∧ c ≤ 'f' then some (c.toNat - 'a'.toNat + 10)
    else if 'A' ≤ c ∧ c ≤ 'F' then some (c.toNat - 'A'.toNat + 10)
    else none
  let w ← digit a
  let x ← digit b
  let y ← digit c
  let z ← digit d
  some (((w * 16 + x) * 16 + y) * 16 + z)

def unescape? : Char → Option Char
  | '"' => some '"'
  | '\\' => some '\\'
  | '/' => some '/'
  | 'b' => some '\x08'
  | 'f' => some '\x0c'
  | 'n' => some '\n'
  | 'r' => some '\r'
  | 't' => some '\t'
  | _ => none

def scanText : List Char → Option (List Piece × List Char)
  | [] => none
  | '"' :: rest => some ([], rest)
  | '\\' :: 'u' :: a :: b :: c :: d :: rest => do
    let n ← hexUnit? a b c d
    let (pieces, rest) ← scanText rest
    some (.unit n :: pieces, rest)
  | '\\' :: c :: rest => do
    let c ← unescape? c
    let (pieces, rest) ← scanText rest
    some (.char c :: pieces, rest)
  | c :: rest =>
    if c.toNat < 0x20 then none
    else do
      let (pieces, rest) ← scanText rest
      some (.char c :: pieces, rest)

def joinPieces : List Piece → Option (List Char)
  | [] => some []
  | .char c :: rest => (joinPieces rest).map (c :: ·)
  | .unit high :: .unit low :: rest =>
    if 0xd800 ≤ high ∧ high < 0xdc00 ∧ 0xdc00 ≤ low ∧ low < 0xe000 then
      (joinPieces rest).map
        (Char.ofNat (0x10000 + (high - 0xd800) * 0x400 + (low - 0xdc00)) :: ·)
    else if 0xd800 ≤ high ∧ high < 0xe000 then none
    else (joinPieces (.unit low :: rest)).map (Char.ofNat high :: ·)
  | .unit n :: rest =>
    if 0xd800 ≤ n ∧ n < 0xe000 then none else (joinPieces rest).map (Char.ofNat n :: ·)

def textNode (pieces : List Piece) : Node :=
  match joinPieces pieces with
  | some cs => .text (String.ofList cs)
  | none => .broken

def stripWord (word : String) (cs : List Char) : Option (List Char) :=
  if word.toList.isPrefixOf cs then some (cs.drop word.length) else none

-- a list or map, if there is a level for it
def within (levels : Nat) (n : Node) : Node :=
  if levels = 0 then .broken else n

mutual

-- the value at the start of a text, and the rest; lists and maps are nested at most `levels` deep;
-- what is further in is broken
def scanValue : (fuel levels : Nat) → List Char → Option (Node × List Char)
  | 0, _, _ => none
  | fuel + 1, levels, cs =>
    match skipBlanks cs with
    | 'n' :: rest => (stripWord "ull" rest).map (.null, ·)
    | 't' :: rest => (stripWord "rue" rest).map (.bool true, ·)
    | 'f' :: rest => (stripWord "alse" rest).map (.bool false, ·)
    | '"' :: rest => do
      let (pieces, rest) ← scanText rest
      some (textNode pieces, rest)
    | '[' :: rest =>
      match skipBlanks rest with
      | ']' :: rest => some (within levels (.list []), rest)
      | rest => do
        let (items, rest) ← scanItems fuel (levels - 1) rest
        some (within levels (.list items), rest)
    | '\x7b' :: rest =>
      match skipBlanks rest with
      | '\x7d' :: rest => some (within levels (.map []), rest)
      | rest => do
        let (entries, rest) ← scanEntries fuel (levels - 1) rest
        some (within levels (.map entries), rest)
    | cs => do
      let (number, rest) ← scanNumber cs
      some (number.toNode, rest)

-- items up to the closing bracket
def scanItems : (fuel levels : Nat) → List Char → Option (List Node × List Char)
  | 0, _, _ => none
  | fuel + 1, levels, cs => do
    let (item, rest) ← scanValue fuel levels cs
    match skipBlanks rest with
    | ']' :: rest => some ([item], rest)
    | ',' :: rest =>
      let (items, rest) ← scanItems fuel levels rest
      some (item :: items, rest)
    | _ => none

-- entries up to the closing brace
def scanEntries : (fuel levels : Nat) → List Char → Option (List (Node × Node) × List Char)
  | 0, _, _ => none
  | fuel + 1, levels, cs =>
    match skipBlanks cs with
    | '"' :: rest => do
      let (pieces, rest) ← scanText rest
      match skipBlanks rest with
      | ':' :: rest =>
        let (value, rest) ← scanValue fuel levels rest
        match skipBlanks rest with
        | '\x7d' :: rest => some ([(textNode pieces, value)], rest)
        | ',' :: rest =>
          let (entries, rest) ← scanEntries fuel levels rest
          some ((textNode pieces, value) :: entries, rest)
        | _ => none
      | _ => none
    | _ => none

end

def levelLimit : Nat := 127

def read (text : String) : Option Node :=
  let cs := text.toList
  match scanValue (2 * cs.length + 2) levelLimit cs with
  | some (node, rest) => if (skipBlanks rest).isEmpty then some node else none
  | none => none

end CoinWallet.Json
