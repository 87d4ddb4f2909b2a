set_option autoImplicit false

namespace CoinWallet.Yaml

structure Cursor where
  rest : List Char
  index : Nat := 0
  line : Nat := 0
  column : Nat := 0

def isBlank (c : Char) : Bool :=
  c == ' ' || c == '\t'

def isBreak (c : Char) : Bool :=
  c == '\n' || c == '\r' || c.toNat == 0x85 || c.toNat == 0x2028 || c.toNat == 0x2029

def isNameChar (c : Char) : Bool :=
  c.isAlphanum || c == '_' || c == '-'

namespace Cursor

def peek (c : Cursor) : Option Char :=
  c.rest.head?

def peekAt (c : Cursor) (i : Nat) : Option Char :=
  c.rest[i]?

def atEnd (c : Cursor) : Bool :=
  c.rest.isEmpty

-- a blank, a line end or the end of the text stands `i` characters on
def endsWordAt (c : Cursor) (i : Nat) : Bool :=
  match c.peekAt i with
  | none => true
  | some ch => isBlank ch || isBreak ch

def atBreak (c : Cursor) : Bool :=
  match c.peek with
  | some ch => isBreak ch
  | none => false

def atBlank (c : Cursor) : Bool :=
  match c.peek with
  | some ch => isBlank ch
  | none => false

def skipMany (c : Cursor) (n : Nat) : Cursor :=
  { rest := c.rest.drop n
    index := (c.rest.take n).foldl (fun index ch => index + ch.utf8Size) c.index
    line := c.line
    column := c.column + n }

def skip (c : Cursor) : Cursor :=
  c.skipMany 1

def takeBreak (c : Cursor) : List Char × Cursor :=
  match c.rest with
  | '\r' :: '\n' :: rest =>
    (['\n'], { rest := rest, index := c.index + 2, line := c.line + 1, column := 0 })
  | ch :: rest =>
    let text := if ch.toNat = 0x2028 ∨ ch.toNat = 0x2029 then ch else '\n'
    ([text], { rest := rest, index := c.index + ch.utf8Size, line := c.line + 1, column := 0 })
  | [] => ([], c)

def skipWhile (c : Cursor) (p : Char → Bool) : Cursor :=
  c.skipMany (c.rest.takeWhile p).length

def skipBlanks (c : Cursor) : Cursor :=
  c.skipWhile isBlank

-- over blanks and a comment to the end of the line, where nothing else may stand
def endLine? (c : Cursor) : Option Cursor :=
  let c := c.skipBlanks
  let c := if c.peek == some '#' then c.skipWhile fun ch => !isBreak ch else c
  if c.atEnd || c.atBreak then some c else none

def atMarker (c : Cursor) (ch : Char) : Bool :=
  c.column == 0 && c.rest.take 3 == [ch, ch, ch] && c.endsWordAt 3

def atDocumentMarker (c : Cursor) : Bool :=
  c.atMarker '-' || c.atMarker '.'

end Cursor

end CoinWallet.Yaml
