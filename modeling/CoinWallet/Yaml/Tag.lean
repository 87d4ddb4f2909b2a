import CoinWallet.Url.Percent
import CoinWallet.Yaml.Cursor

set_option autoImplicit false

namespace CoinWallet.Yaml

structure TagMark where
  handle : String
  suffix : String
deriving DecidableEq, Repr

inductive Directive
  | version (major minor : Nat)
  | handle (name stands : String)
deriving DecidableEq, Repr

def isTagChar (complete : Bool) (c : Char) : Bool :=
  isNameChar c ||
    [';', '/', '?', ':', '@', '&', '=', '+', '$', '.', '%', '!', '~', '*', '\x27', '(',
      ')'].contains c ||
    (complete && [',', '[', ']'].contains c)

-- every percent sign begins a byte of two digits
def hasWholeBytes : List Char → Bool
  | '%' :: high :: low :: rest =>
    (Hex.digitValue? high).isSome && (Hex.digitValue? low).isSome && hasWholeBytes rest
  | '%' :: _ => false
  | _ :: rest => hasWholeBytes rest
  | [] => true

-- a part of a name, with encoded bytes put back
def takeTagText (complete : Bool) (c : Cursor) : Option (String × Cursor) :=
  let cs := c.rest.takeWhile (isTagChar complete)
  if hasWholeBytes cs then
    (String.fromUTF8? ⟨(Url.percentDecode cs).toArray⟩).map (·, c.skipMany cs.length)
  else none

def nonempty (part : String × Cursor) : Option (String × Cursor) :=
  if part.1.isEmpty then none else some part

-- a name in angle brackets, a handle between exclamation marks and a name, or a name on its own
def takeTagMark (c : Cursor) : Option (TagMark × Cursor) :=
  if c.peekAt 1 == some '<' then do
    let (name, next) ← (takeTagText true (c.skipMany 2)).bind nonempty
    if next.peek == some '>' then some (⟨"", name⟩, next.skip) else none
  else
    let name := (c.rest.drop 1).takeWhile isNameChar
    let next := c.skipMany (1 + name.length)
    if next.peek == some '!' then do
      let (suffix, next) ← (takeTagText false next.skip).bind nonempty
      some (⟨String.ofList ('!' :: name ++ ['!']), suffix⟩, next)
    else do
      let (rest, next) ← takeTagText false next
      let suffix := String.ofList name ++ rest
      some (if suffix.isEmpty then ⟨"", "!"⟩ else ⟨"!", suffix⟩, next)

def takeTag (inFlow : Bool) (c : Cursor) : Option (TagMark × Cursor) := do
  let (tag, next) ← takeTagMark c
  if next.endsWordAt 0 || (inFlow && next.peek == some ',') then some (tag, next) else none

-- a number of at most nine digits
def takeVersionNumber (c : Cursor) : Option (Nat × Cursor) :=
  let digits := c.rest.takeWhile Char.isDigit
  if digits.isEmpty || 9 < digits.length then none
  else
    some (digits.foldl (fun n d => 10 * n + (d.toNat - '0'.toNat)) 0, c.skipMany digits.length)

def takeVersion (c : Cursor) : Option (Directive × Cursor) := do
  let (major, c) ← takeVersionNumber c
  if c.peek == some '.' then
    let (minor, c) ← takeVersionNumber c.skip
    some (.version major minor, c)
  else none

-- the mark of a handle: an exclamation mark, or a name between two
def takeHandle (c : Cursor) : Option (String × Cursor) :=
  if c.peek == some '!' then
    let name := (c.rest.drop 1).takeWhile isNameChar
    let next := c.skipMany (1 + name.length)
    if next.peek == some '!' then some (String.ofList ('!' :: name ++ ['!']), next.skip)
    else if name.isEmpty then some ("!", next)
    else none
  else none

def takeHandleMeaning (c : Cursor) : Option (Directive × Cursor) := do
  let (name, c) ← takeHandle c
  if c.atBlank then
    let (stands, c) ← (takeTagText true c.skipBlanks).bind nonempty
    if c.endsWordAt 0 then some (.handle name stands, c) else none
  else none

def takeDirective (c : Cursor) : Option (Directive × Cursor) := do
  let name := (c.rest.drop 1).takeWhile isNameChar
  let next := c.skipMany (1 + name.length)
  if next.endsWordAt 0 then
    let (directive, next) ← match String.ofList name with
      | "YAML" => takeVersion next.skipBlanks
      | "TAG" => takeHandleMeaning next.skipBlanks
      | _ => none
    (next.endLine?).map (directive, ·)
  else none

structure Handles where
  meanings : List (String × String) := []
  hasVersion : Bool := false

namespace Handles

-- one version at most, of the first major, and each handle once
def declare (h : Handles) : Directive → Option Handles
  | .version major minor =>
    if h.hasVersion || major ≠ 1 || (minor ≠ 1 && minor ≠ 2) then none
    else some { h with hasVersion := true }
  | .handle name stands =>
    if (h.meanings.lookup name).isSome then none
    else some { h with meanings := (name, stands) :: h.meanings }

def resolve (h : Handles) (tag : TagMark) : Option String :=
  if tag.handle.isEmpty then some tag.suffix
  else
    ((h.meanings ++ [("!", "!"), ("!!", "tag:yaml.org,2002:")]).lookup tag.handle).map
      (· ++ tag.suffix)

end Handles

end CoinWallet.Yaml
