import CoinWallet.Document.Fields
import CoinWallet.Proofs.Decimal.Text
import CoinWallet.Proofs.Lists

set_option autoImplicit false

namespace CoinWallet.Node

-- powers are those of the core library
attribute [local instance (high)] instPowNat

inductive Written : Nat → Node → Prop
  | null {levels : Nat} : Written levels null
  | bool {levels : Nat} (b : Bool) : Written levels (bool b)
  | whole {levels : Nat} {n : Int} (fits : fitsWord n = true) : Written levels (number (.whole n))
  | text {levels : Nat} (s : String) : Written levels (text s)
  | list {levels : Nat} {items : List Node} (each : ∀ item ∈ items, Written levels item) :
    Written (levels + 1) (list items)
  | record {levels : Nat} {fields : List (String × Node)}
    (each : ∀ field ∈ fields, Written levels field.2) : Written (levels + 1) (record fields)

theorem heldItems?_self {items : List Node} (each : ∀ item ∈ items, item.held? = some item) :
    heldItems? items = some items := by
  induction items with
  | nil => rfl
  | cons item rest ih =>
    have first := each item List.mem_cons_self
    have later := ih fun item member => each item (List.mem_cons_of_mem _ member)
    simp [heldItems?, first, later]

theorem heldFields?_self {fields : List (String × Node)}
    (each : ∀ field ∈ fields, field.2.held? = some field.2) :
    heldEntries? (fields.map fun (name, value) => (.text name, value)) =
      some (fields.map fun (name, value) => (.text name, value)) := by
  induction fields with
  | nil => rfl
  | cons field rest ih =>
    have name : (text field.1).held? = some (.text field.1) := rfl
    have first := each field List.mem_cons_self
    have later := ih fun field member => each field (List.mem_cons_of_mem _ member)
    simp [heldEntries?, name, first, later]

theorem Written.held? {levels : Nat} {n : Node} (written : Written levels n) :
    n.held? = some n := by
  induction written with
  | null | bool | text => rfl
  | whole fits => simp [Node.held?, heldScalar?, fits]
  | list each ih => simp [Node.held?, heldItems?_self ih]
  | record each ih => simp only [Node.held?, Node.record, heldFields?_self ih, Option.map_some]

theorem filter_name {fields : List (String × Node)} (apart : (fields.map (·.1)).Nodup)
    {field : String × Node} (member : field ∈ fields) :
    (fields.filter fun other => other.1 == field.1) = [field] := by
  induction fields with
  | nil => cases member
  | cons first rest ih =>
    rw [List.map_cons, List.nodup_cons] at apart
    rcases List.mem_cons.mp member with rfl | later
    next =>
      have others : (rest.filter fun other => other.1 == field.1) = [] := by
        rw [List.filter_eq_nil_iff]
        intro other present same
        exact apart.1 (List.mem_map.mpr ⟨other, present, by simpa using same⟩)
      simp [others]
    next =>
      have other : (first.1 == field.1) = false := by
        rw [beq_eq_false_iff_ne]
        intro same
        exact apart.1 (same ▸ List.mem_map_of_mem later)
      simp [other, ih apart.2 later]

theorem lookup?_of_mem {fields : List (String × Node)} (apart : (fields.map (·.1)).Nodup)
    {field : String × Node} (member : field ∈ fields) :
    lookup? field.1 (fields.map fun other => (some other.1, other.2)) = some (.given field.2) := by
  have single := filter_name apart member
  simp only [lookup?, List.filter_map, Function.comp_def, Option.some_beq_some, single,
    List.map_cons, List.map_nil]

theorem fields?_record (form : Form) {fields : List (String × Node)} {names : List String}
    (named : fields.map (·.1) = names) (apart : names.Nodup) :
    (record fields).fields? form names = some (fields.map fun field => .given field.2) := by
  subst named
  have keys : (fields.map fun field => (text field.1, field.2)).mapM (fun entry =>
      (keyName? form (fields.map (·.1)) entry.1).map (·, entry.2)) =
        some (fields.map fun field => (some field.1, field.2)) :=
    mapM_map_eq_some fun field _ => rfl
  have values := mapM_map_eq_some
    (f := fun name => lookup? name (fields.map fun field => (some field.1, field.2)))
    (g := Prod.fst) (k := fun field => Field.given field.2)
    fun field member => lookup?_of_mem apart member
  simp only [fields?, record, body, keys, Option.bind_eq_bind, Option.bind_some]
  exact values

@[simp] theorem readText?_text (s : String) : (text s).readText? = some s := rfl

@[simp] theorem readBool?_bool (b : Bool) : (bool b).readBool? = some b := rfl

namespace Field

variable {α : Type} {read : Node → Option α} {write : α → Node}

@[simp] theorem required_given (n : Node) : (given n).required read = read n := rfl

theorem optional_given_ofOption {o : Option α}
    (present : ∀ a ∈ o, (write a).isNull = false ∧ read (write a) = some a) :
    (given (ofOption write o)).optional read = some o := by
  cases o with
  | none => rfl
  | some a => simp [optional, ofOption, present a rfl]

theorem optionalOrNull_given (n : Node) :
    (given n).optionalOrNull read = (given n).optional read := rfl

@[simp] theorem optional_given_text (o : Option String) :
    (given (ofOption text o)).optional readText? = some o :=
  optional_given_ofOption fun _ _ => ⟨rfl, rfl⟩

end Field

-- the fields by the name of the type, and the others
theorem variant?_record_eq (form : Form) (names : List String) (fields : List (String × Node)) :
    (record fields).variant? form names =
      match fields.filter (·.1 == "type") with
      | [(_, name)] => do
        let name ← variantName? form names name
        let rest ← ((fields.filter fun field => !(field.1 == "type")).map
          fun field => (text field.1, field.2)).mapM fun (key, value) => value.held?.map (key, ·)
        some (name, .map rest)
      | _ => none := by
  have keys : ((fields.map fun field => (text field.1, field.2)).mapM fun (key, value) =>
      key.held?.map (·, value)) = some (fields.map fun field => (text field.1, field.2)) :=
    mapM_map_eq_some fun _ _ => rfl
  simp only [variant?, record, resolved, keys, Option.bind_eq_bind, Option.bind_some,
    List.partition_eq_filter_filter, List.filter_map, Function.comp_def, readText?, body,
    Option.some_beq_some]
  generalize fields.filter (fun field => field.1 == "type") = typed
  rcases typed with _ | ⟨field, _ | _⟩ <;> rfl

theorem variant?_record (form : Form) {names : List String} {name : String}
    {fields : List (String × Node)} {levels : Nat} (known : name ∈ names)
    (untyped : "type" ∉ fields.map (·.1)) (written : ∀ field ∈ fields, Written levels field.2) :
    (record (("type", text name) :: fields)).variant? form names = some (name, record fields) := by
  have others : ∀ field ∈ fields, field.1 ≠ "type" := by
    rintro field member same
    exact untyped (List.mem_map.mpr ⟨field, member, same⟩)
  have none : (fields.filter fun field => field.1 == "type") = [] := by
    simpa [List.filter_eq_nil_iff] using others
  have all : (fields.filter fun field => !(field.1 == "type")) = fields := by
    simpa [List.filter_eq_self] using others
  have values : ((fields.map fun field => (text field.1, field.2)).mapM fun (key, value) =>
      value.held?.map (key, ·)) = some (fields.map fun field => (text field.1, field.2)) :=
    mapM_map_eq_some fun field member => by simp [(written field member).held?]
  have chosen : variantName? form names (text name) = some name := by
    simp [variantName?, readText?, body, Option.filter, known]
  rw [variant?_record_eq]
  simp [none, all, values, chosen, record]

theorem variant?_record_nil (form : Form) {names : List String} {name : String}
    (known : name ∈ names) :
    (record [("type", text name)]).variant? form names = some (name, record []) := by
  have written : ∀ field ∈ ([] : List (String × Node)), Written 0 field.2 := nofun
  exact variant?_record form known nofun written

theorem variant?_record_of_typed (form : Form) {names : List String} {name : String}
    {fields : List (String × Node)} (typed : "type" ∈ fields.map (·.1)) :
    (record (("type", text name) :: fields)).variant? form names = none := by
  obtain ⟨field, member, same⟩ := List.mem_map.mp typed
  have again : field ∈ fields.filter fun field => field.1 == "type" := by simp [member, same]
  have both : ((("type", text name) :: fields).filter fun field => field.1 == "type") =
      ("type", text name) :: fields.filter fun field => field.1 == "type" :=
    List.filter_cons_of_pos rfl
  rw [variant?_record_eq, both]
  cases more : fields.filter fun field => field.1 == "type" with
  | nil => exact absurd (more ▸ again) List.not_mem_nil
  | cons => rfl

end CoinWallet.Node
