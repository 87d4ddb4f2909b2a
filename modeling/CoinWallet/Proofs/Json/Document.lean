import CoinWallet.Proofs.Document.Record
import CoinWallet.Proofs.Json.Scalar

set_option autoImplicit false

namespace CoinWallet.Json

open Node (Written record)

theorem skipBlanks_cons {c : Char} {rest : List Char} (solid : isBlank c = false) :
    skipBlanks (c :: rest) = c :: rest := by
  simp [skipBlanks, solid]

theorem isBlank_of_isDigit {c : Char} (digit : c.isDigit = true) : isBlank c = false := by
  rw [Bool.eq_false_iff]
  intro blank
  simp only [isBlank, Bool.or_eq_true, beq_iff_eq] at blank
  rcases blank with ((rfl | rfl) | rfl) | rfl <;> cases digit

theorem stripWord_append (word : String) (rest : List Char) :
    stripWord word (word.toList ++ rest) = some rest := by
  have found : word.toList.isPrefixOf (word.toList ++ rest) = true :=
    List.isPrefixOf_iff_prefix.mpr (List.prefix_append _ _)
  rw [stripWord, if_pos found, ← String.length_toList, List.drop_left]

theorem toChars_whole (n : Int) : toChars (.number (.whole n)) = numberChars (.whole n) := rfl

theorem toChars_text (s : String) : toChars (.text s) = '"' :: (s.toList.flatMap escape ++ ['"']) := rfl

theorem toChars_list (items : List Node) :
    toChars (.list items) = '[' :: (itemChars items ++ [']']) := rfl

theorem toChars_record (fields : List (String × Node)) :
    toChars (record fields) =
      '\x7b' :: (entryChars (fields.map fun (name, value) => (.text name, value)) ++ ['\x7d']) := rfl

theorem itemChars_cons_cons (item next : Node) (more : List Node) :
    itemChars (item :: next :: more) = toChars item ++ ',' :: itemChars (next :: more) := rfl

theorem exists_numberChars (n : Int) :
    ∃ c rest, numberChars (.whole n) = c :: rest ∧ (c.isDigit = true ∨ c = '-') := by
  rw [numberChars_whole]
  split
  next => exact ⟨'-', _, rfl, .inr rfl⟩
  next =>
    cases digits : Nat.toDigits 10 n.natAbs with
    | nil => exact absurd digits Nat.toDigits_ne_nil
    | cons c rest =>
      exact ⟨c, rest, rfl, .inl (isDigit_of_mem_digits n.natAbs c (digits ▸ List.mem_cons_self))⟩

theorem isBlank_of_number {c : Char} (start : c.isDigit = true ∨ c = '-') : isBlank c = false := by
  rcases start with digit | rfl
  · exact isBlank_of_isDigit digit
  · rfl

theorem scanValue_of_number {c : Char} (start : c.isDigit = true ∨ c = '-') (cs : List Char)
    (fuel levels : Nat) :
    scanValue (fuel + 1) levels (c :: cs) =
      (scanNumber (c :: cs)).map fun (number, rest) => (number.toNode, rest) := by
  rw [scanValue, skipBlanks_cons (isBlank_of_number start)]
  split
  case h_7 => cases scanNumber (c :: cs) <;> rfl
  all_goals
    rename_i same
    cases same
    rcases start with digit | minus
    · cases digit
    · cases minus

theorem exists_toChars {levels : Nat} {n : Node} (written : Written levels n) :
    ∃ c rest, toChars n = c :: rest ∧ isBlank c = false ∧ c ≠ ']' := by
  cases written with
  | null => exact ⟨'n', _, rfl, rfl, by decide⟩
  | bool b => cases b <;> exact ⟨_, _, rfl, rfl, by decide⟩
  | @whole _ n fits =>
    obtain ⟨c, rest, chars, start⟩ := exists_numberChars n
    refine ⟨c, rest, by rw [toChars_whole, chars], isBlank_of_number start, ?_⟩
    rintro rfl
    rcases start with digit | minus
    · cases digit
    · cases minus
  | text s => exact ⟨'"', _, rfl, rfl, by decide⟩
  | list each => exact ⟨'[', _, toChars_list _, rfl, by decide⟩
  | record each => exact ⟨'\x7b', _, toChars_record _, rfl, by decide⟩

def Scans (levels : Nat) (n : Node) : Prop :=
  ∀ fuel rest, 2 * (toChars n).length ≤ fuel → EndsNumber rest →
    scanValue fuel levels (toChars n ++ rest) = some (n, rest)

theorem scans_of_succ {levels : Nat} {n : Node} (some : toChars n ≠ [])
    (found : ∀ fuel rest, 2 * (toChars n).length ≤ fuel + 1 → EndsNumber rest →
      scanValue (fuel + 1) levels (toChars n ++ rest) = Option.some (n, rest)) : Scans levels n := by
  intro fuel rest enough ends
  have length := List.length_pos_iff.mpr some
  obtain ⟨fuel, rfl⟩ : ∃ less, fuel = less + 1 := ⟨fuel - 1, by omega⟩
  exact found fuel rest enough ends

theorem scanValue_null (fuel levels : Nat) (rest : List Char) :
    scanValue (fuel + 1) levels ('n' :: rest) = (stripWord "ull" rest).map (.null, ·) := rfl

theorem scanValue_true (fuel levels : Nat) (rest : List Char) :
    scanValue (fuel + 1) levels ('t' :: rest) = (stripWord "rue" rest).map (.bool true, ·) := rfl

theorem scanValue_false (fuel levels : Nat) (rest : List Char) :
    scanValue (fuel + 1) levels ('f' :: rest) = (stripWord "alse" rest).map (.bool false, ·) := rfl

theorem scans_null (levels : Nat) : Scans levels .null := by
  refine scans_of_succ nofun fun fuel rest enough ends => ?_
  have start : toChars .null ++ rest = 'n' :: ("ull".toList ++ rest) := rfl
  rw [start, scanValue_null, stripWord_append, Option.map_some]

theorem scans_bool (levels : Nat) (b : Bool) : Scans levels (.bool b) := by
  refine scans_of_succ (by cases b <;> nofun) fun fuel rest enough ends => ?_
  cases b with
  | true =>
    have start : toChars (.bool true) ++ rest = 't' :: ("rue".toList ++ rest) := rfl
    rw [start, scanValue_true, stripWord_append, Option.map_some]
  | false =>
    have start : toChars (.bool false) ++ rest = 'f' :: ("alse".toList ++ rest) := rfl
    rw [start, scanValue_false, stripWord_append, Option.map_some]

theorem scans_whole (levels : Nat) {n : Int} (fits : Node.fitsWord n = true) :
    Scans levels (.number (.whole n)) := by
  obtain ⟨c, chars, first, start⟩ := exists_numberChars n
  refine scans_of_succ (by simp [toChars_whole, first]) fun fuel rest enough ends => ?_
  have scanned := scanNumber_numberChars n ends
  rw [first, List.cons_append] at scanned
  rw [toChars_whole, first, List.cons_append, scanValue_of_number start, scanned]
  simp only [Option.map_some, toNode_wholeText fits]

theorem scanValue_quote (fuel levels : Nat) (cs : List Char) :
    scanValue (fuel + 1) levels ('"' :: cs) =
      (scanText cs).map fun (pieces, rest) => (textNode pieces, rest) := by
  change (scanText cs >>= fun found => some (textNode found.1, found.2)) = _
  cases scanText cs <;> rfl

theorem scans_text (levels : Nat) (s : String) : Scans levels (.text s) := by
  refine scans_of_succ (by simp [toChars_text]) fun fuel rest enough ends => ?_
  obtain ⟨pieces, scanned, joined⟩ := exists_scanText s.toList rest
  have start : toChars (.text s) ++ rest = '"' :: (s.toList.flatMap escape ++ '"' :: rest) := by
    simp [toChars_text]
  rw [start, scanValue_quote, scanned]
  simp [textNode, joined]

theorem endsNumber_cons {c : Char} (rest : List Char) (closes : c = ',' ∨ c = ']' ∨ c = '\x7d') :
    EndsNumber (c :: rest) := by
  rintro _ ⟨⟩
  rcases closes with rfl | rfl | rfl <;> decide

theorem scanItems_itemChars {levels : Nat} {items : List Node} (some : items ≠ [])
    (each : ∀ item ∈ items, Scans levels item) (fuel : Nat) (rest : List Char)
    (enough : 2 * (itemChars items).length < fuel) :
    scanItems fuel levels (itemChars items ++ ']' :: rest) = Option.some (items, rest) := by
  induction items generalizing fuel with
  | nil => exact absurd rfl some
  | cons item others ih =>
    obtain ⟨fuel, rfl⟩ : ∃ less, fuel = less + 1 := ⟨fuel - 1, by omega⟩
    have first := each item List.mem_cons_self
    cases others with
    | nil =>
      simp only [itemChars] at enough ⊢
      rw [scanItems, first fuel _ (by omega) (endsNumber_cons rest (by simp))]
      simp [skipBlanks_cons (show isBlank ']' = false from rfl)]
    | cons next more =>
      simp only [itemChars_cons_cons, List.length_append, List.length_cons, List.append_assoc,
        List.cons_append] at enough ⊢
      have later := ih (by simp) (fun item member => each item (List.mem_cons_of_mem _ member)) fuel
        (by omega)
      rw [scanItems, first fuel _ (by omega) (endsNumber_cons _ (by simp))]
      simp [skipBlanks_cons (show isBlank ',' = false from rfl), later]

theorem scanEntries_field {levels : Nat} {value : Node} (found : Scans levels value) (name : String)
    {fuel : Nat} (enough : 2 * (toChars value).length ≤ fuel) {c : Char} (closes : c = ',' ∨ c = '\x7d')
    (rest : List Char) :
    scanEntries (fuel + 1) levels (quote name ++ ':' :: (toChars value ++ c :: rest)) =
      if c = '\x7d' then some ([(.text name, value)], rest)
      else (scanEntries fuel levels rest).map fun (entries, rest) =>
        ((.text name, value) :: entries, rest) := by
  obtain ⟨pieces, scanned, joined⟩ := exists_scanText name.toList (':' :: (toChars value ++ c :: rest))
  have start : quote name ++ ':' :: (toChars value ++ c :: rest) =
      '"' :: (name.toList.flatMap escape ++ '"' :: (':' :: (toChars value ++ c :: rest))) := by
    simp [quote]
  have valued := found fuel (c :: rest) enough
    (endsNumber_cons rest (closes.imp id .inr))
  rw [start, scanEntries, skipBlanks_cons rfl]
  rcases closes with rfl | rfl
  · cases more : scanEntries fuel levels rest <;>
      simp [scanned, textNode, joined, skipBlanks_cons (show isBlank ':' = false from rfl), valued,
        skipBlanks_cons (show isBlank ',' = false from rfl), more]
  · simp [scanned, textNode, joined, skipBlanks_cons (show isBlank ':' = false from rfl), valued,
      skipBlanks_cons (show isBlank '\x7d' = false from rfl)]

theorem scanEntries_entryChars {levels : Nat} {fields : List (String × Node)} (some : fields ≠ [])
    (each : ∀ field ∈ fields, Scans levels field.2) (fuel : Nat) (rest : List Char)
    (enough : 2 * (entryChars (fields.map fun (name, value) => (.text name, value))).length < fuel) :
    scanEntries fuel levels
        (entryChars (fields.map fun (name, value) => (.text name, value)) ++ '\x7d' :: rest) =
      Option.some (fields.map fun (name, value) => (.text name, value), rest) := by
  induction fields generalizing fuel with
  | nil => exact absurd rfl some
  | cons field others ih =>
    obtain ⟨fuel, rfl⟩ : ∃ less, fuel = less + 1 := ⟨fuel - 1, by omega⟩
    obtain ⟨name, value⟩ := field
    have first : Scans levels value := each (name, value) List.mem_cons_self
    cases others with
    | nil =>
      simp only [List.map_cons, List.map_nil, entryChars, toChars, List.length_append,
        List.length_cons, List.append_assoc, List.cons_append] at enough ⊢
      rw [scanEntries_field first name (by omega) (.inr rfl), if_pos rfl]
    | cons next more =>
      have later := ih (by simp) (fun field member => each field (List.mem_cons_of_mem _ member)) fuel
      simp only [List.map_cons, entryChars, toChars, List.length_append, List.length_cons,
        List.append_assoc, List.cons_append] at enough later ⊢
      rw [scanEntries_field first name (by omega) (.inl rfl), if_neg (by decide), later (by omega)]
      rfl

theorem scanValue_items {c : Char} (cs : List Char) (solid : isBlank c = false) (opens : c ≠ ']')
    (fuel levels : Nat) :
    scanValue (fuel + 1) (levels + 1) ('[' :: c :: cs) =
      (scanItems fuel levels (c :: cs)).map fun (items, rest) => (.list items, rest) := by
  rw [scanValue, skipBlanks_cons rfl]
  simp only [skipBlanks_cons solid]
  split
  next same => exact absurd (List.cons_eq_cons.mp same).1 opens
  next =>
    rw [Nat.add_sub_cancel]
    cases scanItems fuel levels (c :: cs) <;> rfl

theorem exists_itemChars {levels : Nat} {items : List Node} (some : items ≠ [])
    (each : ∀ item ∈ items, Written levels item) :
    ∃ c rest, itemChars items = c :: rest ∧ isBlank c = false ∧ c ≠ ']' := by
  cases items with
  | nil => exact absurd rfl some
  | cons item others =>
    obtain ⟨c, rest, chars, solid, opens⟩ := exists_toChars (each item List.mem_cons_self)
    cases others with
    | nil => exact ⟨c, rest, chars, solid, opens⟩
    | cons next more =>
      refine ⟨c, rest ++ ',' :: itemChars (next :: more), ?_, solid, opens⟩
      rw [itemChars_cons_cons, chars, List.cons_append]

theorem scans_list {levels : Nat} {items : List Node} (each : ∀ item ∈ items, Written levels item)
    (found : ∀ item ∈ items, Scans levels item) : Scans (levels + 1) (.list items) := by
  refine scans_of_succ (by simp [toChars_list]) fun fuel rest enough ends => ?_
  have start : toChars (.list items) ++ rest = '[' :: (itemChars items ++ ']' :: rest) := by
    simp [toChars_list]
  simp only [toChars_list, List.length_cons, List.length_append] at enough
  rw [start]
  by_cases empty : items = []
  next =>
    subst empty
    rfl
  next =>
    obtain ⟨c, cs, chars, solid, opens⟩ := exists_itemChars empty each
    have scanned := scanItems_itemChars empty found fuel rest (by omega)
    rw [chars, List.cons_append] at scanned ⊢
    rw [scanValue_items _ solid opens, scanned]
    rfl

theorem scanValue_entries (cs : List Char) (fuel levels : Nat) :
    scanValue (fuel + 1) (levels + 1) ('\x7b' :: '"' :: cs) =
      (scanEntries fuel levels ('"' :: cs)).map fun (entries, rest) => (.map entries, rest) := by
  rw [scanValue, skipBlanks_cons rfl]
  simp only [skipBlanks_cons (show isBlank '"' = false from rfl)]
  split
  next same => cases same
  next =>
    rw [Nat.add_sub_cancel]
    cases scanEntries fuel levels ('"' :: cs) <;> rfl

theorem exists_entryChars {fields : List (String × Node)} (some : fields ≠ []) :
    ∃ cs, entryChars (fields.map fun (name, value) => (.text name, value)) = '"' :: cs := by
  match fields with
  | [] => exact absurd rfl some
  | [_] => exact ⟨_, rfl⟩
  | _ :: _ :: _ => exact ⟨_, rfl⟩

theorem scans_record {levels : Nat} {fields : List (String × Node)}
    (found : ∀ field ∈ fields, Scans levels field.2) : Scans (levels + 1) (record fields) := by
  refine scans_of_succ (by simp [toChars_record]) fun fuel rest enough ends => ?_
  have start : toChars (record fields) ++ rest =
      '\x7b' :: (entryChars (fields.map fun (name, value) => (.text name, value)) ++ '\x7d' :: rest) := by
    simp [toChars_record]
  rw [toChars_record, List.length_cons, List.length_append] at enough
  rw [start]
  by_cases empty : fields = []
  next =>
    subst empty
    rfl
  next =>
    obtain ⟨cs, chars⟩ := exists_entryChars empty
    have scanned := scanEntries_entryChars empty found fuel rest (by omega)
    rw [chars, List.cons_append] at scanned ⊢
    rw [scanValue_entries, scanned]
    rfl

theorem scans_of_written {levels : Nat} {n : Node} (written : Written levels n) : Scans levels n := by
  induction written with
  | null => exact scans_null _
  | bool b => exact scans_bool _ b
  | whole fits => exact scans_whole _ fits
  | text s => exact scans_text _ s
  | list each ih => exact scans_list each ih
  | record each ih => exact scans_record ih

theorem read_write {n : Node} (written : Written levelLimit n) : read (write n) = some n := by
  have found := scans_of_written written (2 * (toChars n).length + 2) [] (by omega) nofun
  rw [List.append_nil] at found
  simp only [read, write, String.toList_ofList, found]
  rfl

theorem bind_read_write {α : Type} {reader : Node → Option α} {n : Node} {a : α}
    (written : Written levelLimit n) (back : reader n = some a) :
    (read (write n)).bind reader = some a := by
  rw [read_write written, Option.bind_some, back]

end CoinWallet.Json
