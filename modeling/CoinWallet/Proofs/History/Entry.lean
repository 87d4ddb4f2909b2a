import CoinWallet.Proofs.History.Growth
import CoinWallet.Proofs.Text.Case

set_option autoImplicit false

namespace CoinWallet.History

theorem knows_congr (h : History) {a b : String} (same : Text.asciiFold a = Text.asciiFold b) :
    h.knows a = h.knows b := by
  simp [knows, Transaction.hasHash, Text.sameIgnoringCase, same]

theorem knows_append (h added : History) (hash : String) :
    knows (h ++ added) hash = (h.knows hash || knows added hash) := by
  simp [knows]

theorem knows_map {f : Transaction → Transaction} (same : ∀ tx, (f tx).hash = tx.hash) (h : History)
    (hash : String) : knows (h.map f) hash = h.knows hash := by
  simp [knows, List.any_map, Function.comp_def, Transaction.hasHash, same]

theorem knows_confirmAll (h : History) (hash : String) : h.confirmAll.knows hash = h.knows hash :=
  knows_map Transaction.hash_confirm h hash

theorem knows_addPlaceholder (h : History) (coin : Amount) (now : Timestamp) (hash : String) :
    (h.addPlaceholder coin now).knows hash = h.knows hash := by
  have nameless : knows [placeholder coin now] hash = false := rfl
  unfold addPlaceholder
  split
  · rfl
  · rw [knows_append, nameless, Bool.or_false]

theorem knows_filter {txs : List Transaction} {hash : String} (unknown : knows txs hash = false)
    (p : Transaction → Bool) : knows (txs.filter p) hash = false := by
  rw [knows, List.any_eq_false] at unknown ⊢
  intro tx member
  exact unknown tx (List.mem_filter.mp member).1

-- what is left out has a hash that is there already
theorem knows_insert (h : History) (tx : Transaction) (hash : String) :
    (h.insert tx).knows hash = knows (h ++ [tx]) hash := by
  cases known : h.knowsHashOf tx with
  | false => rw [insert_of_unknown known]
  | true =>
    rw [insert_of_known known, knows_append]
    cases own : tx.hash with
    | none => simp [knows, Transaction.hasHash, own]
    | some other =>
      by_cases same : Text.asciiFold other = Text.asciiFold hash
      next =>
        simp only [knowsHashOf, own] at known
        rw [← h.knows_congr same, known, Bool.true_or]
      next => simp [knows, Transaction.hasHash, own, same]

theorem knows_insertAll (h : History) (txs : List Transaction) (hash : String) :
    (txs.foldl insert h).knows hash = knows (h ++ txs) hash := by
  induction txs using List.reverseRecOn with
  | nil => simp
  | append_singleton txs tx ih =>
    rw [List.foldl_append, List.foldl_cons, List.foldl_nil, knows_insert, knows_append, ih,
      ← knows_append, List.append_assoc]

theorem knows_reconcile {h : History} {reported : List Transaction} {hash : String}
    (unknown : h.knows hash = false) (unreported : knows reported hash = false) :
    (h.reconcile reported).knows hash = false := by
  rw [reconcile, confirmReported_eq, knows_insertAll, knows_append, knows_map (hash_confirmBy _),
    unknown, knows_filter unreported, Bool.false_or]

theorem mem_addPlaceholder {h : History} {tx : Transaction} (present : tx ∈ h) (coin : Amount)
    (now : Timestamp) : tx ∈ h.addPlaceholder coin now := by
  unfold addPlaceholder
  split
  · exact present
  · exact List.mem_append_left _ present

theorem mem_insertAll {h : History} {tx : Transaction} (present : tx ∈ h)
    (txs : List Transaction) : tx ∈ txs.foldl insert h := by
  induction txs generalizing h with
  | nil => exact present
  | cons other rest ih =>
    apply ih
    cases known : h.knowsHashOf other with
    | true => rwa [insert_of_known known]
    | false =>
      rw [insert_of_unknown known]
      exact List.mem_append_left _ present

theorem mem_reconcile {h : History} {tx : Transaction} {hash : String} (present : tx ∈ h)
    (hashed : tx.hash = some hash) {reported : List Transaction}
    (unreported : knows reported hash = false) : tx ∈ h.reconcile reported := by
  apply mem_insertAll
  rw [confirmReported_eq, List.mem_map]
  exact ⟨tx, present, by simp [confirmBy, hashed, knows_filter unreported]⟩

theorem isConfirmed_of_mem_confirmAll {h : History} {tx : Transaction} (member : tx ∈ h.confirmAll) :
    tx.isConfirmed = true := by
  obtain ⟨old, _, rfl⟩ := List.mem_map.mp member
  exact old.isConfirmed_confirm

theorem recordOutgoing_eq (h : History) {tx : Transaction} {hash : String}
    (hashed : tx.hash = some (Text.lower hash)) :
    h.recordOutgoing tx =
      if h.knows (Text.lower hash) then h else h ++ [{ tx with status := .unconfirmed }] := by
  simp only [recordOutgoing, insert, knowsHashOf, hashed, Option.map_some, Text.lower_lower]

end CoinWallet.History
