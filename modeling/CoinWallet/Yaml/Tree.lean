import CoinWallet.Yaml.Token

set_option autoImplicit false

namespace CoinWallet.Yaml

inductive Tree
  | link (id : Nat)
  | scalar (tag : Option String) (isPlain : Bool) (text : String)
  | list (tag : Option String) (items : List Tree)
  | map (tag : Option String) (entries : List (Tree × Tree))
  | named (id : Nat) (t : Tree)

abbrev Names := List (String × Nat)

-- gives a node a name; its number is the count of names before; a name that is given again stands
-- for the new number only
def Names.define (name : String) (names : Names) : Nat × Names :=
  (names.length, (name, names.length) :: names.filter fun entry => entry.1 != name)

structure Reading where
  tokens : List Token
  names : Names := []

abbrev Parse := StateT Reading Option

namespace Parse

def peek : Parse (Option Token) := do
  return (← get).tokens.head?

def skip : Parse Unit :=
  modify fun r => { r with tokens := r.tokens.drop 1 }

def fail {α : Type} : Parse α := fun _ => none

def takeIf (t : Token) : Parse Bool := do
  if (← peek) == some t then
    skip
    return true
  else return false

def expect (t : Token) : Parse Unit := do
  if !(← takeIf t) then fail

def meets (ts : List Token) : Parse Bool := do
  match ← peek with
  | some t => return ts.contains t
  | none => return false

def takeName : Parse (Option Nat) := do
  match ← peek with
  | some (.anchor name) =>
    skip
    let r ← get
    let (id, names) := r.names.define name
    set { r with names := names }
    return some id
  | _ => return none

def takeTag (handles : Handles) : Parse (Option String) := do
  match ← peek with
  | some (.tag mark) =>
    skip
    match handles.resolve mark with
    | some tag => return some tag
    | none => fail
  | _ => return none

-- a name and a tag, in either order
def takeProperties (handles : Handles) : Parse (Option Nat × Option String) := do
  match ← takeName with
  | some id => return (some id, ← takeTag handles)
  | none =>
    match ← takeTag handles with
    | some tag => return (← takeName, some tag)
    | none => return (none, none)

end Parse

open Parse

def emptyScalar : Tree := .scalar none true ""

mutual

-- a node. `block` admits collections by indentation, `flush` a list whose dashes stand no further
-- in than the key before it
def node (handles : Handles) : (fuel : Nat) → (block flush : Bool) → Parse Tree
  | 0, _, _ => fail
  | fuel + 1, block, flush => do
    match ← peek with
    | some (.alias name) =>
      skip
      match (← get).names.lookup name with
      | some id => return .link id
      | none => fail
    | _ =>
      let (id, tag) ← takeProperties handles
      let t ← content handles fuel block flush (id.isSome || tag.isSome) tag
      return match id with
        | some id => .named id t
        | none => t

-- what stands after the name and the tag of a node; nothing at all if there are any
def content (handles : Handles) :
    (fuel : Nat) → (block flush marked : Bool) → Option String → Parse Tree
  | 0, _, _, _, _ => fail
  | fuel + 1, block, flush, marked, tag => do
    match ← peek with
    | some (.scalar text quoted) =>
      skip
      return .scalar tag (!quoted) text
    | some .flowSequence =>
      skip
      return .list tag (← flowItems handles fuel true)
    | some .flowMap =>
      skip
      return .map tag (← flowEntries handles fuel true)
    | other =>
      if other == some .entry && flush then return .list tag (← flushItems handles fuel)
      else if other == some .blockSequence && block then
        skip
        return .list tag (← blockItems handles fuel)
      else if other == some .blockMap && block then
        skip
        return .map tag (← blockEntries handles fuel)
      else if marked then return .scalar tag true ""
      else fail

-- a node, or nothing in front of one of the given tokens
def nodeOrEmpty (handles : Handles) :
    (fuel : Nat) → (block flush : Bool) → (stops : List Token) → Parse Tree
  | 0, _, _, _ => fail
  | fuel + 1, block, flush, stops => do
    if ← meets stops then return emptyScalar else node handles fuel block flush

def blockItems (handles : Handles) : (fuel : Nat) → Parse (List Tree)
  | 0 => fail
  | fuel + 1 => do
    if ← takeIf .entry then
      let item ← nodeOrEmpty handles fuel true false [.entry, .blockEnd]
      return item :: (← blockItems handles fuel)
    else
      expect .blockEnd
      return []

def flushItems (handles : Handles) : (fuel : Nat) → Parse (List Tree)
  | 0 => fail
  | fuel + 1 => do
    if ← takeIf .entry then
      let item ← nodeOrEmpty handles fuel true false [.entry, .key, .value, .blockEnd]
      return item :: (← flushItems handles fuel)
    else return []

def blockEntries (handles : Handles) : (fuel : Nat) → Parse (List (Tree × Tree))
  | 0 => fail
  | fuel + 1 => do
    if ← takeIf .key then
      let stops : List Token := [.key, .value, .blockEnd]
      let key ← nodeOrEmpty handles fuel true true stops
      let value ←
        if ← takeIf .value then nodeOrEmpty handles fuel true true stops else pure emptyScalar
      return (key, value) :: (← blockEntries handles fuel)
    else
      expect .blockEnd
      return []

-- the value of an entry in a flow collection, if there is one
def flowValue (handles : Handles) : (fuel : Nat) → (close : Token) → Parse Tree
  | 0, _ => fail
  | fuel + 1, close => do
    if ← takeIf .value then nodeOrEmpty handles fuel false false [.flowEntry, close]
    else return emptyScalar

-- an item after the first stands behind a comma, and a comma may stand behind the last
def flowItems (handles : Handles) : (fuel : Nat) → (first : Bool) → Parse (List Tree)
  | 0, _ => fail
  | fuel + 1, first => do
    if ← takeIf .flowSequenceEnd then return []
    if !first then expect .flowEntry
    if ← takeIf .flowSequenceEnd then return []
    let item ← flowItem handles fuel
    return item :: (← flowItems handles fuel false)

-- an item that is a pair is a map of one entry; the token after an empty key is passed over
def flowItem (handles : Handles) : (fuel : Nat) → Parse Tree
  | 0 => fail
  | fuel + 1 => do
    if ← takeIf .key then
      let key ←
        if ← meets [.value, .flowEntry, .flowSequenceEnd] then
          skip
          pure emptyScalar
        else node handles fuel false false
      let value ← flowValue handles fuel .flowSequenceEnd
      return .map none [(key, value)]
    else node handles fuel false false

def flowEntries (handles : Handles) : (fuel : Nat) → (first : Bool) → Parse (List (Tree × Tree))
  | 0, _ => fail
  | fuel + 1, first => do
    if ← takeIf .flowMapEnd then return []
    if !first then expect .flowEntry
    if ← takeIf .flowMapEnd then return []
    let entry ← flowPair handles fuel
    return entry :: (← flowEntries handles fuel false)

def flowPair (handles : Handles) : (fuel : Nat) → Parse (Tree × Tree)
  | 0 => fail
  | fuel + 1 => do
    if ← takeIf .key then
      let key ← nodeOrEmpty handles fuel false false [.value, .flowEntry, .flowMapEnd]
      return (key, ← flowValue handles fuel .flowMapEnd)
    else return (← node handles fuel false false, emptyScalar)

end

def takeHandles : (fuel : Nat) → Handles → Parse Handles
  | 0, _ => fail
  | fuel + 1, handles => do
    match ← peek with
    | some (.directive d) =>
      skip
      match handles.declare d with
      | some handles => takeHandles fuel handles
      | none => fail
    | _ => return handles

-- a document; a start of its own is needed after directives; only behind one may it be empty
def document (fuel : Nat) : Parse Tree := do
  let handles ← takeHandles fuel {}
  let directed := handles.hasVersion || !handles.meanings.isEmpty
  if ← takeIf .documentStart then
    match ← peek with
    | none | some (.directive _) | some .documentStart | some .documentEnd => return emptyScalar
    | _ => node handles fuel true false
  else if directed then fail
  else node handles fuel true false

def Tree.ofText? (text : String) : Option (Option Tree) := do
  let tokens ← tokens? text
  if tokens.isEmpty then some none
  else
    let (t, r) ← document (4 * tokens.length + 8) { tokens := tokens }
    if r.tokens.all (· == .documentEnd) then some (some t) else none

namespace Tree

mutual

def size : Tree → Nat
  | link _ => 1
  | scalar _ _ _ => 1
  | list _ items => 2 + sizes items
  | map _ entries => 2 + entrySizes entries
  | named _ t => t.size

def sizes : List Tree → Nat
  | [] => 0
  | t :: rest => t.size + sizes rest

def entrySizes : List (Tree × Tree) → Nat
  | [] => 0
  | (key, value) :: rest => key.size + value.size + entrySizes rest

end

mutual

def targets : Tree → List (Nat × Tree)
  | link _ => []
  | scalar _ _ _ => []
  | list _ items => itemTargets items
  | map _ entries => entryTargets entries
  | named id t => (id, t) :: t.targets

def itemTargets : List Tree → List (Nat × Tree)
  | [] => []
  | t :: rest => t.targets ++ itemTargets rest

def entryTargets : List (Tree × Tree) → List (Nat × Tree)
  | [] => []
  | (key, value) :: rest => key.targets ++ value.targets ++ entryTargets rest

end

end Tree

end CoinWallet.Yaml
