import CoinWallet.Text.Hex
import CoinWallet.Yaml.Cursor

set_option autoImplicit false

namespace CoinWallet.Yaml

structure Gap where
  blanks : List Char := []
  first : List Char := []
  more : List Char := []
  broken : Bool := false

def Gap.fold (g : Gap) : List Char :=
  if g.broken then
    if g.first.head? = some '\n' then if g.more.isEmpty then [' '] else g.more
    else g.first ++ g.more
  else g.blanks

-- moves over blanks and line ends; with a margin, a tab before it in a fresh line is refused
def takeGap (margin : Option Int) : (fuel : Nat) → Gap → Cursor → Option (Gap × Cursor)
  | 0, _, _ => none
  | fuel + 1, g, c =>
    match c.peek with
    | none => some (g, c)
    | some ch =>
      if isBlank ch then
        let tooEarly := match margin with
          | some m => g.broken && (c.column : Int) < m && ch == '\t'
          | none => false
        if tooEarly then none
        else
          takeGap margin fuel (if g.broken then g else { g with blanks := g.blanks ++ [ch] }) c.skip
      else if isBreak ch then
        let (text, next) := c.takeBreak
        let g := if g.broken then { g with more := g.more ++ text }
          else { g with blanks := [], first := text, broken := true }
        takeGap margin fuel g next
      else some (g, c)

def isFlowMark (c : Char) : Bool :=
  [',', '[', ']', '\x7b', '\x7d'].contains c

-- the characters up to a blank or a mark that ends the text; a colon before a mark of a flow
-- collection is refused
def takePlainWord (inFlow : Bool) : (fuel : Nat) → Cursor → Option (List Char × Cursor)
  | 0, _ => none
  | fuel + 1, c =>
    match c.peek with
    | none => some ([], c)
    | some ch =>
      if isBlank ch || isBreak ch then some ([], c)
      else if inFlow && ch == ':' &&
          (match c.peekAt 1 with
            | some next => isFlowMark next || next == '?'
            | none => false) then none
      else if (ch == ':' && c.endsWordAt 1) || (inFlow && isFlowMark ch) then some ([], c)
      else do
        let (word, next) ← takePlainWord inFlow fuel c.skip
        some (ch :: word, next)

def takePlain (inFlow : Bool) (indent : Int) :
    (fuel : Nat) → Gap → Cursor → Option (List Char × Bool × Cursor)
  | 0, _, _ => none
  | fuel + 1, gap, c =>
    if c.atDocumentMarker || c.peek == some '#' then some ([], gap.broken, c)
    else do
      let (word, next) ← takePlainWord inFlow (c.rest.length + 1) c
      let written := if word.isEmpty then [] else gap.fold ++ word
      let carried := if word.isEmpty then gap else {}
      if !(next.atBlank || next.atBreak) then some (written, carried.broken, next)
      else
        let (gap, next) ← takeGap (some (indent + 1)) (next.rest.length + 1) carried next
        if !inFlow && (next.column : Int) < indent + 1 then some (written, gap.broken, next)
        else
          let (text, broken, next) ← takePlain inFlow indent fuel gap next
          some (written ++ text, broken, next)

def hexValue? (cs : List Char) : Option Nat :=
  cs.foldlM (fun n c => (Hex.digitValue? c).map (16 * n + ·)) 0

-- what a backslash and the next character stand for, and how many digits follow
def escapeOf? : Char → Option (Option Char × Nat)
  | '0' => some (some '\x00', 0)
  | 'a' => some (some '\x07', 0)
  | 'b' => some (some '\x08', 0)
  | 't' | '\t' => some (some '\t', 0)
  | 'n' => some (some '\n', 0)
  | 'v' => some (some '\x0b', 0)
  | 'f' => some (some '\x0c', 0)
  | 'r' => some (some '\r', 0)
  | 'e' => some (some '\x1b', 0)
  | ' ' => some (some ' ', 0)
  | '"' => some (some '"', 0)
  | '/' => some (some '/', 0)
  | '\\' => some (some '\\', 0)
  | 'N' => some (some (Char.ofNat 0x85), 0)
  | '_' => some (some (Char.ofNat 0xa0), 0)
  | 'L' => some (some (Char.ofNat 0x2028), 0)
  | 'P' => some (some (Char.ofNat 0x2029), 0)
  | 'x' => some (none, 2)
  | 'u' => some (none, 4)
  | 'U' => some (none, 8)
  | _ => none

def takeEscape (c : Cursor) : Option (Char × Cursor) := do
  let mark ← c.peekAt 1
  let (direct, digits) ← escapeOf? mark
  match direct with
  | some ch => some (ch, c.skipMany 2)
  | none =>
    let text := (c.rest.drop 2).take digits
    if text.length < digits then none
    else
      let n ← hexValue? text
      if (0xd800 ≤ n ∧ n < 0xe000) ∨ 0x10ffff < n then none
      else some (Char.ofNat n, c.skipMany (2 + digits))

def takeQuoted (quote : Char) :
    (fuel : Nat) → Cursor → Option (List Char × Cursor)
  | 0, _ => none
  | fuel + 1, c =>
    if c.atDocumentMarker then none
    else
      match c.peek with
      | none => none
      | some ch =>
        if quote == '\x27' && ch == '\x27' && c.peekAt 1 == some '\x27' then do
          let (text, next) ← takeQuoted quote fuel (c.skipMany 2)
          some ('\x27' :: text, next)
        else if ch == quote then some ([], c.skip)
        else if isBlank ch || isBreak ch then do
          let (gap, next) ← takeGap none (c.rest.length + 1) {} c
          let (text, next) ← takeQuoted quote fuel next
          some (gap.fold ++ text, next)
        else if quote == '"' && ch == '\\' then
          match c.peekAt 1 with
          | none => none
          | some after =>
            if isBreak after then do
              let (_, next) := c.skip.takeBreak
              let (gap, next) ← takeGap none (next.rest.length + 1) { broken := true } next
              let (text, next) ← takeQuoted quote fuel next
              some (gap.fold ++ text, next)
            else do
              let (value, next) ← takeEscape c
              let (text, next) ← takeQuoted quote fuel next
              some (value :: text, next)
        else do
          let (text, next) ← takeQuoted quote fuel c.skip
          some (ch :: text, next)

inductive Chomp
  | strip
  | clip
  | keep
deriving DecidableEq

-- the marks after the sign of a block: what to do at its end, and its indentation
def takeBlockMarks (c : Cursor) : Option (Chomp × Option Nat × Cursor) :=
  let chomp? (ch : Option Char) : Option Chomp :=
    if ch = some '+' then some .keep else if ch = some '-' then some .strip else none
  let digit? (ch : Option Char) : Option Nat :=
    match ch with
    | some ch => if ch.isDigit then some (ch.toNat - '0'.toNat) else none
    | none => none
  match chomp? c.peek with
  | some chomp =>
    let c := c.skip
    match digit? c.peek with
    | some 0 => none
    | some n => some (chomp, some n, c.skip)
    | none => some (chomp, none, c)
  | none =>
    match digit? c.peek with
    | some 0 => none
    | some n =>
      let c := c.skip
      match chomp? c.peek with
      | some chomp => some (chomp, some n, c.skip)
      | none => some (.clip, some n, c)
    | none => some (.clip, none, c)

-- empty lines of a block, and the widest indentation among them
def takeEmptyLines (indent : Option Nat) :
    (fuel widest : Nat) → List Char → Cursor → Option (List Char × Nat × Cursor)
  | 0, _, _, _ => none
  | fuel + 1, widest, text, c =>
    let early (column : Nat) : Bool := match indent with
      | some n => column < n
      | none => true
    let room := match indent with
      | some n => n - c.column
      | none => c.rest.length
    let c := c.skipMany ((c.rest.take room).takeWhile (· == ' ')).length
    let widest := Nat.max widest c.column
    if early c.column && c.peek == some '\t' then none
    else if c.atBreak then
      let (line, next) := c.takeBreak
      takeEmptyLines indent fuel widest (text ++ line) next
    else some (text, widest, c)

structure Block where
  text : List Char := []
  lineEnd : List Char := []
  emptyLines : List Char := []
  -- the line before began with a blank
  afterBlank : Bool := false

def takeBlockLines (literal : Bool) (indent : Nat) :
    (fuel : Nat) → Block → Cursor → Option (Block × Cursor)
  | 0, _, _ => none
  | fuel + 1, b, c =>
    if c.column == indent && !c.atEnd then do
      let blank := c.atBlank
      let joint :=
        if !literal && b.lineEnd.head? = some '\n' && !b.afterBlank && !blank then
          if b.emptyLines.isEmpty then [' '] else []
        else b.lineEnd
      let line := c.rest.takeWhile fun ch => !isBreak ch
      let (lineEnd, next) := (c.skipMany line.length).takeBreak
      let (emptyLines, _, next) ← takeEmptyLines (some indent) (next.rest.length + 1) 0 [] next
      takeBlockLines literal indent fuel
        { text := b.text ++ joint ++ b.emptyLines ++ line
          lineEnd := lineEnd
          emptyLines := emptyLines
          afterBlank := blank } next
    else some (b, c)

def takeBlock (literal : Bool) (around : Int) (c : Cursor) : Option (List Char × Cursor) := do
  let (chomp, increment, c) ← takeBlockMarks c
  let c ← c.endLine?
  let (_, c) := c.takeBreak
  let fixed := increment.map fun (n : Nat) => if 0 ≤ around then (around + n).toNat else n
  let (emptyLines, widest, c) ← takeEmptyLines fixed (c.rest.length + 1) 0 [] c
  let indent := fixed.getD (Nat.max 1 (Nat.max widest (around + 1).toNat))
  let (b, c) ← takeBlockLines literal indent (c.rest.length + 1) { emptyLines := emptyLines } c
  let tail := match chomp with
    | .strip => []
    | .clip => b.lineEnd
    | .keep => b.lineEnd ++ b.emptyLines
  some (b.text ++ tail, c)

end CoinWallet.Yaml
