import CoinWallet.Text.Hex
import CoinWallet.Text.Part

set_option autoImplicit false

namespace CoinWallet.Text

-- every `step`-th character from `first` to `last`; a target of one character belongs to the first
-- of them and moves along with the others; a longer one belongs to them all
structure Mapping where
  first : Nat
  last : Nat
  step : Nat
  target : List Nat

def Mapping.covers (m : Mapping) (code : Nat) : Bool :=
  m.first ≤ code && code ≤ m.last && (code - m.first) % m.step == 0

def Mapping.image (m : Mapping) (code : Nat) : List Char :=
  match m.target with
  | [start] => [Char.ofNat (start + (code - m.first))]
  | target => target.map Char.ofNat

def mapped? (table : List Mapping) (c : Char) : Option (List Char) :=
  (table.find? (·.covers c.toNat)).map (·.image c.toNat)

def words (lines : List String) : List (List Char) :=
  lines.flatMap fun line => splitAt (· == ' ') line.toList

def hexNumber (digits : List Char) : Nat :=
  digits.foldl (fun n c => 16 * n + (Hex.digitValue? c).getD 0) 0

-- one word of a list of mappings: `@` with the next character, `~` with a number of pairs whose
-- first is mapped to their second, a target with `*` and the length of its run, or the target of
-- one character with points between its parts
def readMapping (state : Nat × List Mapping) (word : List Char) : Nat × List Mapping :=
  let (next, table) := state
  match word with
  | '@' :: position => (hexNumber position, table)
  | '~' :: pairs =>
    let length := 2 * hexNumber pairs
    (next + length, ⟨next, next + length - 1, 2, [next + 1]⟩ :: table)
  | _ =>
    match splitAt (· == '*') word with
    | [target, length] =>
      (next + hexNumber length, ⟨next, next + hexNumber length - 1, 1, [hexNumber target]⟩ :: table)
    | _ => (next + 1, ⟨next, next, 1, (splitAt (· == '.') word).map hexNumber⟩ :: table)

def readMappings (lines : List String) : List Mapping :=
  ((words lines).foldl readMapping (0, [])).2.reverse

abbrev Runs (α : Type) := List (Nat × α)

def Runs.value? {α : Type} (runs : Runs α) (c : Char) : Option α :=
  (runs.takeWhile (·.1 ≤ c.toNat)).getLast?.map (·.2)

def readRuns {α : Type} (value : List Char → α) (lines : List String) : Runs α :=
  (words lines).map fun word =>
    (hexNumber (word.takeWhile (· != ':')), value ((word.dropWhile (· != ':')).drop 1))

end CoinWallet.Text
