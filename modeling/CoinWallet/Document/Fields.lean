import CoinWallet.Decimal.Text
import CoinWallet.Document.Scalar

set_option autoImplicit false

namespace CoinWallet

-- powers are those of the core library
attribute [local instance (high)] instPowNat

/-- Which forms a document may use. In a strict one a record is a map, one that is left empty among
them, and a choice a name. A loose one also takes a record as the list of its fields in order, and a
choice as a map from its name to null. In a held one, which is what a choice with contents is read
from, the place of a name counts as the name. -/
inductive Form
  | loose
  | strict
  | held
deriving DecidableEq, Repr

namespace Node

def body : Node → Node
  | tagged _ n => n
  | n => n

def plain? : Node → Option String
  | plain s => some s
  | _ => none

def isChoiceTag (tag : String) : Bool :=
  tag.toList.head? == some '!'

def isNull : Node → Bool
  | null => true
  | plain s => Scalar.isNull s
  | tagged tag (plain s) => tag == Scalar.nullTag && Scalar.isNullWord s
  | _ => false

def readText? (n : Node) : Option String :=
  match n.body with
  | text s => some s
  | plain s => some s
  | _ => none

def readBool? (n : Node) : Option Bool :=
  match n.body with
  | bool b => some b
  | plain s => Scalar.readBool? s
  | _ => none

def readNat? (limit : Nat) (n : Node) : Option Nat :=
  match n.body with
  | number (.whole n) => if 0 ≤ n ∧ n ≤ limit then some n.toNat else none
  | plain s => (Scalar.readUnsigned? s).bind fun n => if n ≤ limit then some n else none
  | _ => none

def readUInt32? (n : Node) : Option UInt32 :=
  (n.readNat? (2 ^ (32 : Nat) - 1)).map UInt32.ofNat

def readUInt64? (n : Node) : Option UInt64 :=
  (n.readNat? (2 ^ (64 : Nat) - 1)).map UInt64.ofNat

def readInt64? : Node → Option Int
  | number (.whole n) => if -2 ^ (63 : Nat) ≤ n ∧ n < 2 ^ (63 : Nat) then some n else none
  | _ => none

-- a scalar as what it stands for; nothing else has a choice tag
def resolved : Node → Node
  | plain s => Scalar.resolve s
  | tagged tag n =>
    if isChoiceTag tag then .broken
    else
      match n with
      | plain s => Scalar.resolveAs tag s
      | text s => Scalar.resolveAs tag s
      | n => n
  | n => n

def fitsWord (n : Int) : Bool :=
  -2 ^ (63 : Nat) ≤ n && n < 2 ^ (64 : Nat)

def readDecimal? (n : Node) : Option Decimal :=
  match n.resolved with
  | number (.whole n) => if fitsWord n then Decimal.ofScaled? n 0 else none
  | number (.real x) => Decimal.parse? x.toText
  | text s => Decimal.parse? s
  | _ => none

mutual

-- the document as it is held to be read later: every scalar is what it stands for, and has a value
def held? : Node → Option Node
  | plain s => heldScalar? (Scalar.resolve s)
  | tagged tag n =>
    if isChoiceTag tag then none
    else
      match n with
      | plain s => heldScalar? (Scalar.resolveAs tag s)
      | text s => heldScalar? (Scalar.resolveAs tag s)
      | n => n.held?
  | list items => (heldItems? items).map .list
  | map entries => (heldEntries? entries).map .map
  | n => heldScalar? n

def heldItems? : List Node → Option (List Node)
  | [] => some []
  | item :: rest => do
    let item ← item.held?
    let rest ← heldItems? rest
    some (item :: rest)

def heldEntries? : List (Node × Node) → Option (List (Node × Node))
  | [] => some []
  | (key, value) :: rest => do
    let key ← key.held?
    let value ← value.held?
    let rest ← heldEntries? rest
    some ((key, value) :: rest)

def heldScalar? : Node → Option Node
  | broken => none
  | number (.whole n) => if fitsWord n then some (.number (.whole n)) else none
  | n => some n

end

inductive Field
  | given (n : Node)
  | missing
  | absent

namespace Field

variable {α : Type}

def required (read : Node → Option α) : Field → Option α
  | given n => read n
  | _ => none

def optional (read : Node → Option α) : Field → Option (Option α)
  | given n => if n.isNull then some none else (read n).map some
  | missing => some none
  | absent => none

def withDefault (default : α) (read : Node → Option α) : Field → Option α
  | given n => read n
  | _ => some default

def optionalOrNull (read : Node → Option α) : Field → Option (Option α)
  | given n => if n.isNull then some none else (read n).map some
  | _ => some none

end Field

-- the name that a key stands for, if it is one of those wanted; none for what is no key
def keyName? (form : Form) (names : List String) (key : Node) : Option (Option String) :=
  match key with
  | number (.whole n) => if form = .held ∧ 0 ≤ n then some names[n.toNat]? else none
  | key => key.readText?.map some

-- the value of a key; none if the key occurs twice
def lookup? (name : String) (entries : List (Option String × Node)) : Option Field :=
  match entries.filter fun entry => entry.1 == some name with
  | [] => some .missing
  | [entry] => some (.given entry.2)
  | _ => none

def fields? (form : Form) (names : List String) (n : Node) : Option (List Field) :=
  match n.body with
  | map entries => do
    let entries ← entries.mapM fun (key, value) => (keyName? form names key).map (·, value)
    names.mapM fun name => lookup? name entries
  | list items =>
    if form ≠ .strict ∧ items.length ≤ names.length then
      some (items.map Field.given ++ List.replicate (names.length - items.length) Field.absent)
    else none
  | plain s => if s.isEmpty then some (names.map fun _ => Field.missing) else none
  | _ => none

def choice? (form : Form) : Node → Option String
  | tagged tag n =>
    if isChoiceTag tag then
      if (n.plain?.map Scalar.isNull).getD false then
        some (if tag.length = 1 then tag else (tag.drop 1).toString)
      else none
    else n.readText?
  | map [(key, value)] => if form = .loose ∧ value.isNull then key.readText? else none
  | n => n.readText?

-- one of the names, or its place
def variantName? (form : Form) (names : List String) (n : Node) : Option String :=
  match n with
  | number (.whole i) => if form = .held ∧ 0 ≤ i then names[i.toNat]? else none
  | n => n.readText?.filter names.contains

-- a choice with contents, one of those named: its name stands among the fields under `type`, or
-- first in a list; the answer is the name and the rest, which is held
def variant? (form : Form) (names : List String) (n : Node) : Option (String × Node) :=
  match n.resolved with
  | map entries => do
    let entries ← entries.mapM fun (key, value) => key.held?.map (·, value)
    match entries.partition fun entry => entry.1.readText? == some "type" with
    | ([(_, name)], rest) =>
      let name ← variantName? form names name
      let rest ← rest.mapM fun (key, value) => value.held?.map (key, ·)
      some (name, .map rest)
    | _ => none
  | list (name :: rest) => do
    let name ← variantName? form names name
    let rest ← rest.mapM held?
    some (name, .list rest)
  | _ => none

def noFields : Node → Bool
  | map _ => true
  | list [] => true
  | _ => false

def readList? {α : Type} (read : Node → Option α) (n : Node) : Option (List α) :=
  match n.body with
  | list items => items.mapM read
  | plain s => if s.isEmpty then some [] else none
  | _ => none

end Node

end CoinWallet
