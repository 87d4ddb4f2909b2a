import CoinWallet.Document.Node
import CoinWallet.Document.Shape
import CoinWallet.Yaml.Tree

set_option autoImplicit false

/-!
Reading YAML documents: links are followed in the parts that are asked for, and only there. How
often links are followed, and how deep what is asked for is nested, is limited.
-/

namespace CoinWallet.Yaml

structure Links where
  targets : List (Nat × Tree)
  limit : Nat

def Links.ofTree (t : Tree) : Links where
  targets := t.targets.reverse
  limit := 100 * t.size

abbrev Expand := StateT Nat Option

def Links.follow (links : Links) : Tree → Expand Tree
  | .link id => fun count =>
    if count + 1 ≤ links.limit then (links.targets.lookup id).map (·, count + 1) else none
  | .named _ t => pure t
  | t => pure t

def withTag (tag : Option String) (n : Node) : Node :=
  match tag with
  | some tag => .tagged tag n
  | none => n

def Links.expand (links : Links) : (levels : Nat) → Shape → Tree → Expand Node
  | levels, shape, t => do
    match ← links.follow t, levels with
    | .scalar tag isPlain text, _ =>
      return withTag tag (if isPlain then .plain text else .text text)
    | .list tag items, levels + 1 =>
      match shape with
      | .whole => return withTag tag (.list (← items.mapM (expand links levels .whole)))
      | .list item => return withTag tag (.list (← items.mapM (expand links levels item)))
      | .record _ => return .broken
    | .map tag entries, levels + 1 =>
      match shape with
      | .whole =>
        let entries ← entries.mapM fun (key, value) => do
          return (← expand links levels .whole key, ← expand links levels .whole value)
        return withTag tag (.map entries)
      | .record fields =>
        let entries ← entries.mapM fun (key, value) => do
          match ← links.follow key with
          | .scalar _ _ name =>
            match fields.lookup name with
            | some shape => return some (.text name, ← expand links levels shape value)
            | none => return none
          | _ => fun _ => none
        return withTag tag (.map (entries.filterMap id))
      | .list _ => return .broken
    | _, _ => fun _ => none

def levelLimit : Nat := 128

def read (shape : Shape) (text : String) : Option Node := do
  match ← Tree.ofText? text with
  | none => some (.map [])
  | some t => ((Links.ofTree t).expand levelLimit shape t 0).map (·.1)

end CoinWallet.Yaml
