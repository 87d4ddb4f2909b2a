import CoinWallet.Proofs.History.Entry

set_option autoImplicit false

namespace CoinWallet

namespace Transaction

theorem hasHash_iff {tx : Transaction} {hash : String} :
    tx.hasHash hash = true ↔ ∃ own, tx.hash = some own ∧ Text.asciiFold own = Text.asciiFold hash := by
  cases held : tx.hash <;> simp [hasHash, held]

def Apart (a b : Transaction) : Prop :=
  ∀ hash, b.hash = some hash → a.hasHash hash = false

theorem Apart.not_both {a b : Transaction} (apart : a.Apart b) {hash : String}
    (first : a.hasHash hash = true) : b.hasHash hash = false := by
  rw [Bool.eq_false_iff, ne_eq, hasHash_iff]
  rintro ⟨own, held, same⟩
  obtain ⟨other, known, equal⟩ := hasHash_iff.mp first
  have both : a.hasHash own = true := hasHash_iff.mpr ⟨other, known, equal.trans same.symm⟩
  rw [apart own held] at both
  cases both

theorem apart_congr {a b c d : Transaction} (left : a.hash = c.hash) (right : b.hash = d.hash) :
    a.Apart b ↔ c.Apart d := by
  simp only [Apart, hasHash, left, right]

end Transaction

namespace History

theorem knowsHashOf_eq_false_iff {h : History} {tx : Transaction} :
    h.knowsHashOf tx = false ↔ ∀ entry ∈ h, entry.Apart tx := by
  cases held : tx.hash <;> simp [knowsHashOf, knows, Transaction.Apart, held]

theorem knowsHashOf_map {f : Transaction → Transaction} (same : ∀ tx, (f tx).hash = tx.hash)
    (h : History) (tx : Transaction) : knowsHashOf (h.map f) tx = h.knowsHashOf tx := by
  simp [knowsHashOf, knows_map same]

theorem countP_hasHash_le_one {h : History} (distinct : h.Pairwise Transaction.Apart)
    (hash : String) : h.countP (fun tx => tx.hasHash hash) ≤ 1 := by
  induction h with
  | nil => simp
  | cons tx rest ih =>
    obtain ⟨here, distinct⟩ := List.pairwise_cons.mp distinct
    by_cases first : tx.hasHash hash = true
    next =>
      have others : rest.countP (fun tx => tx.hasHash hash) = 0 :=
        List.countP_eq_zero.mpr fun other later => by simp [(here other later).not_both first]
      simp [first, others]
    next => simpa [first] using ih distinct

theorem insertAll_eq {h : History} {txs : List Transaction}
    (distinct : txs.Pairwise Transaction.Apart) :
    txs.foldl insert h = h ++ txs.filter fun tx => !h.knowsHashOf tx := by
  induction txs generalizing h with
  | nil => simp
  | cons tx rest ih =>
    obtain ⟨here, distinct⟩ := List.pairwise_cons.mp distinct
    rw [List.foldl_cons]
    by_cases known : h.knowsHashOf tx = true
    next => simp [insert_of_known known, ih distinct, known]
    next =>
      have unknown := Bool.eq_false_iff.mpr known
      have same : ∀ later ∈ rest, (h ++ [tx]).knowsHashOf later = h.knowsHashOf later := by
        intro later member
        have apart := knowsHashOf_eq_false_iff (h := [tx]).mpr (by simpa using here later member)
        cases held : later.hash <;> simp only [knowsHashOf, held] at apart ⊢
        rw [knows_append, apart, Bool.or_false]
      have others : rest.filter (fun later => !(h ++ [tx]).knowsHashOf later) =
          rest.filter fun later => !h.knowsHashOf later :=
        List.filter_congr fun later member => by rw [same later member]
      rw [insert_of_unknown unknown, ih distinct, others]
      simp [unknown]

theorem reconcile_eq {h : History} {reported : List Transaction}
    (distinct : reported.Pairwise Transaction.Apart) :
    h.reconcile reported =
      h.map (confirmBy (reported.filter fun tx => tx.isConfirmed)) ++
        reported.filter fun tx => !tx.isConfirmed && !h.knowsHashOf tx := by
  rw [reconcile, confirmReported_eq, insertAll_eq (distinct.filter _), List.filter_filter]
  simp only [knowsHashOf_map (hash_confirmBy _), Bool.and_comm]

theorem distinct_reconcile {h : History} {reported : List Transaction}
    (own : h.Pairwise Transaction.Apart) (distinct : reported.Pairwise Transaction.Apart) :
    (h.reconcile reported).Pairwise Transaction.Apart := by
  rw [reconcile_eq distinct]
  refine List.pairwise_append.mpr ⟨?_, distinct.filter _, ?_⟩
  next =>
    refine List.pairwise_map.mpr (own.imp fun apart => ?_)
    exact (Transaction.apart_congr (hash_confirmBy _ _) (hash_confirmBy _ _)).mpr apart
  next =>
    intro old member new added
    obtain ⟨entry, present, rfl⟩ := List.mem_map.mp member
    obtain ⟨_, fresh⟩ := List.mem_filter.mp added
    have unknown : h.knowsHashOf new = false := by simp_all
    exact (Transaction.apart_congr (hash_confirmBy _ _) rfl).mpr
      (knowsHashOf_eq_false_iff.mp unknown entry present)

end History

end CoinWallet
