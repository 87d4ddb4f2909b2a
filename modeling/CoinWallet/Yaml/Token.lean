import CoinWallet.Yaml.Tag
import CoinWallet.Yaml.Text

set_option autoImplicit false

namespace CoinWallet.Yaml

inductive Token
  | directive (d : Directive)
  | documentStart
  | documentEnd
  | blockSequence
  | blockMap
  | blockEnd
  | flowSequence
  | flowSequenceEnd
  | flowMap
  | flowMapEnd
  | entry
  | flowEntry
  | key
  | value
  | anchor (name : String)
  | alias (name : String)
  | tag (mark : TagMark)
  | scalar (text : String) (quoted : Bool)
deriving DecidableEq, Repr

structure KeyStart where
  required : Bool
  token : Nat
  cursor : Cursor

structure Scanner where
  cursor : Cursor
  tokens : Array Token := #[]
  indent : Int := -1
  indents : List Int := []
  flow : Nat := 0
  keyAllowed : Bool := true
  -- the place for each level of flow, the innermost first
  keys : List (Option KeyStart) := [none]

namespace Scanner

def push (s : Scanner) (t : Token) : Scanner :=
  { s with tokens := s.tokens.push t }

def insertAt (tokens : Array Token) (i : Nat) (t : Token) : Array Token :=
  ((tokens.toList.take i) ++ t :: tokens.toList.drop i).toArray

def indentTo (s : Scanner) (column : Nat) (at? : Option Nat) (t : Token) : Scanner :=
  if s.flow = 0 ∧ s.indent < column then
    { s with
      indents := s.indent :: s.indents
      indent := column
      tokens := insertAt s.tokens (at?.getD s.tokens.size) t }
  else s

-- closes the blocks further in than a column
def closeBlocks (column : Int) : List Int → Int → Array Token → List Int × Int × Array Token
  | outer :: rest, indent, tokens =>
    if column < indent then closeBlocks column rest outer (tokens.push .blockEnd)
    else (outer :: rest, indent, tokens)
  | [], indent, tokens => ([], indent, tokens)

def unindentTo (s : Scanner) (column : Int) : Scanner :=
  if s.flow = 0 then
    let (indents, indent, tokens) := closeBlocks column s.indents s.indent s.tokens
    { s with indents := indents, indent := indent, tokens := tokens }
  else s

def dropKey (s : Scanner) : Option Scanner :=
  match s.keys with
  | some k :: rest => if k.required then none else some { s with keys := none :: rest }
  | _ => some s

def saveKey (s : Scanner) : Option Scanner :=
  if s.keyAllowed then do
    let s ← s.dropKey
    let k : KeyStart :=
      { required := s.flow == 0 && s.indent == (s.cursor.column : Int)
        token := s.tokens.size
        cursor := s.cursor }
    some { s with keys := some k :: s.keys.drop 1 }
  else some s

-- a key stands on one line and has at most 1024 bytes
def dropStale (c : Cursor) : List (Option KeyStart) → Option (List (Option KeyStart))
  | [] => some []
  | some k :: rest => do
    let rest ← dropStale c rest
    if k.cursor.line < c.line || k.cursor.index + 1024 < c.index then
      if k.required then none else some (none :: rest)
    else some (some k :: rest)
  | none :: rest => (dropStale c rest).map (none :: ·)

def skipSpace : (fuel : Nat) → Scanner → Option Scanner
  | 0, _ => none
  | fuel + 1, s =>
    let tabs := s.flow != 0 || !s.keyAllowed
    let c := s.cursor.skipWhile fun ch => ch == ' ' || (tabs && ch == '\t')
    let c := if c.peek == some '#' then c.skipWhile fun ch => !isBreak ch else c
    if c.atBreak then
      skipSpace fuel
        { s with cursor := c.takeBreak.2, keyAllowed := if s.flow = 0 then true else s.keyAllowed }
    else some { s with cursor := c }

def advance (s : Scanner) (n : Nat) : Scanner :=
  { s with cursor := s.cursor.skipMany n }

def openFlow (s : Scanner) (t : Token) : Option Scanner := do
  let s ← s.saveKey
  some { (s.advance 1).push t with keys := none :: s.keys, flow := s.flow + 1, keyAllowed := true }

def closeFlow (s : Scanner) (t : Token) : Option Scanner := do
  let s ← s.dropKey
  let keys := if s.flow = 0 then s.keys else s.keys.drop 1
  some { (s.advance 1).push t with keys := keys, flow := s.flow - 1, keyAllowed := false }

def takeEntry (s : Scanner) : Option Scanner :=
  if s.flow = 0 ∧ !s.keyAllowed then none
  else do
    let s := s.indentTo s.cursor.column none .blockSequence
    let s ← s.dropKey
    some { (s.advance 1).push .entry with keyAllowed := true }

def takeKeyMark (s : Scanner) : Option Scanner :=
  if s.flow = 0 ∧ !s.keyAllowed then none
  else do
    let s := s.indentTo s.cursor.column none .blockMap
    let s ← s.dropKey
    some { (s.advance 1).push .key with keyAllowed := s.flow == 0 }

def takeValueMark (s : Scanner) : Option Scanner :=
  match s.keys with
  | some k :: rest =>
    let s := { s with tokens := insertAt s.tokens k.token .key, keys := none :: rest }
    let s := s.indentTo k.cursor.column (some k.token) .blockMap
    some { (s.advance 1).push .value with keyAllowed := false }
  | _ =>
    if s.flow = 0 ∧ !s.keyAllowed then none
    else
      let s := s.indentTo s.cursor.column none .blockMap
      some { (s.advance 1).push .value with keyAllowed := s.flow == 0 }

-- the name after the sign of an anchor or alias
def takeName (s : Scanner) (make : String → Token) : Option Scanner := do
  let s ← s.saveKey
  let name := (s.cursor.rest.drop 1).takeWhile isNameChar
  let next := s.cursor.skipMany (1 + name.length)
  let ends := next.endsWordAt 0 ||
    (match next.peek with
      | some ch => ['?', ':', ',', ']', '\x7d', '%', '@', '\x60'].contains ch
      | none => true)
  if name.isEmpty || !ends then none
  else
    some { s.push (make (String.ofList name)) with cursor := next, keyAllowed := false }

def takeTag (s : Scanner) : Option Scanner := do
  let s ← s.saveKey
  let (mark, next) ← Yaml.takeTag (s.flow != 0) s.cursor
  some { s.push (.tag mark) with cursor := next, keyAllowed := false }

def takeBlockScalar (s : Scanner) (literal : Bool) : Option Scanner := do
  let s ← s.dropKey
  let (text, next) ← takeBlock literal s.indent s.cursor.skip
  some { s.push (.scalar (String.ofList text) true) with cursor := next, keyAllowed := true }

def takeQuotedScalar (s : Scanner) (quote : Char) : Option Scanner := do
  let s ← s.saveKey
  let (text, next) ← takeQuoted quote (s.cursor.rest.length + 1) s.cursor.skip
  some { s.push (.scalar (String.ofList text) true) with cursor := next, keyAllowed := false }

def takePlainScalar (s : Scanner) : Option Scanner := do
  let s ← s.saveKey
  let (text, broken, next) ←
    takePlain (s.flow != 0) s.indent (s.cursor.rest.length + 1) {} s.cursor
  some { s.push (.scalar (String.ofList text) false) with cursor := next, keyAllowed := broken }

-- closes all blocks where a document starts or ends
def endDocument (s : Scanner) : Option Scanner := do
  let s ← (s.unindentTo (-1)).dropKey
  some { s with keyAllowed := false }

def startsPlain (s : Scanner) (ch : Char) : Bool :=
  let c := s.cursor
  !(isBlank ch || isBreak ch || ['-', '?', ':', ',', '[', ']', '\x7b', '\x7d', '#', '&', '*', '!',
      '|', '>', '\x27', '"', '%', '@', '\x60'].contains ch) ||
    (ch == '-' && (match c.peekAt 1 with
      | some next => !isBlank next
      | none => true)) ||
    (s.flow == 0 && (ch == '?' || ch == ':') && !c.endsWordAt 1)

def step (s : Scanner) (ch : Char) : Option Scanner :=
  let c := s.cursor
  let marked := s.flow != 0 || c.endsWordAt 1
  if c.column == 0 && ch == '%' then do
    let s ← s.endDocument
    let (directive, next) ← takeDirective s.cursor
    some { s.push (.directive directive) with cursor := next }
  else if c.atMarker '-' then (s.endDocument).map fun s => (s.advance 3).push .documentStart
  else if c.atMarker '.' then (s.endDocument).map fun s => (s.advance 3).push .documentEnd
  else if ch == '[' then s.openFlow .flowSequence
  else if ch == '\x7b' then s.openFlow .flowMap
  else if ch == ']' then s.closeFlow .flowSequenceEnd
  else if ch == '\x7d' then s.closeFlow .flowMapEnd
  else if ch == ',' then
    s.dropKey.map fun s => { (s.advance 1).push .flowEntry with keyAllowed := true }
  else if ch == '-' && c.endsWordAt 1 then s.takeEntry
  else if ch == '?' && marked then s.takeKeyMark
  else if ch == ':' && marked then s.takeValueMark
  else if ch == '*' then s.takeName .alias
  else if ch == '&' then s.takeName .anchor
  else if ch == '!' then s.takeTag
  else if ch == '|' && s.flow == 0 then s.takeBlockScalar true
  else if ch == '>' && s.flow == 0 then s.takeBlockScalar false
  else if ch == '\x27' || ch == '"' then s.takeQuotedScalar ch
  else if s.startsPlain ch then s.takePlainScalar
  else none

def run : (fuel : Nat) → Scanner → Option (Array Token)
  | 0, _ => none
  | fuel + 1, s => do
    let s ← skipSpace (s.cursor.rest.length + 1) s
    let keys ← dropStale s.cursor s.keys
    let s := { s with keys := keys }
    let s := s.unindentTo s.cursor.column
    match s.cursor.peek with
    | none => do
      -- the end counts as the start of a new line
      let keys ← dropStale { s.cursor with line := s.cursor.line + 1 } s.keys
      let s ← ({ s with keys := keys }.unindentTo (-1)).dropKey
      some s.tokens
    | some ch => do
      let s ← s.step ch
      run fuel s

end Scanner

-- characters a text may hold
def isAllowed (c : Char) : Bool :=
  let n := c.toNat
  n == 0x9 || n == 0xa || n == 0xd || (0x20 ≤ n && n ≤ 0x7e) || n == 0x85 ||
    (0xa0 ≤ n && n ≤ 0xfffd) || 0x10000 ≤ n

def tokens? (text : String) : Option (List Token) :=
  let cs := text.toList
  let start : Cursor := { rest := cs }
  let start := if start.peek == some (Char.ofNat 0xfeff) then start.skip else start
  if cs.all isAllowed then
    (Scanner.run (2 * cs.length + 2) { cursor := start }).map Array.toList
  else none

end CoinWallet.Yaml
