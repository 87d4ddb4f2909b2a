import CoinWallet.History

set_option autoImplicit false

namespace CoinWallet

structure Transaction.Keeps (old new : Transaction) : Prop where
  same : { new with status := old.status } = old
  confirmed : old.isConfirmed = true → new.isConfirmed = true

namespace Transaction

theorem Keeps.refl (tx : Transaction) : tx.Keeps tx := ⟨rfl, id⟩

theorem Keeps.trans {a b c : Transaction} (ab : a.Keeps b) (bc : b.Keeps c) : a.Keeps c where
  same := by
    have first := ab.same
    rw [← bc.same] at first
    exact first
  confirmed := bc.confirmed ∘ ab.confirmed

theorem keeps_confirm (tx : Transaction) : tx.Keeps tx.confirm := ⟨rfl, fun _ => rfl⟩

@[simp] theorem hash_confirm (tx : Transaction) : tx.confirm.hash = tx.hash := rfl

@[simp] theorem isConfirmed_confirm (tx : Transaction) : tx.confirm.isConfirmed = true := rfl

def isPlaceholder (tx : Transaction) : Bool :=
  !tx.isConfirmed && tx.hash.isNone

@[simp] theorem isPlaceholder_confirm (tx : Transaction) : tx.confirm.isPlaceholder = false := rfl

end Transaction

namespace History

inductive Grows : History → History → Prop
  | added (new : History) : Grows [] new
  | kept {a b : Transaction} {old new : History} (entry : a.Keeps b) (rest : Grows old new) :
    Grows (a :: old) (b :: new)

/-- No hash is there twice, up to the case of letters, and at most one pending entry has none. -/
structure Sound (h : History) : Prop where
  distinct : h.Pairwise fun a b => ∀ hash, b.hash = some hash → a.hasHash hash = false
  onePlaceholder : h.countP Transaction.isPlaceholder ≤ 1

theorem sound_nil : Sound [] := ⟨.nil, by simp⟩

theorem Grows.map {f : Transaction → Transaction} (keeps : ∀ tx : Transaction, tx.Keeps (f tx))
    (h : History) :
    h.Grows (h.map f) := by
  induction h with
  | nil => exact .added []
  | cons tx rest ih => exact .kept (keeps tx) ih

theorem Grows.refl (h : History) : h.Grows h := by
  simpa using @Grows.map id Transaction.Keeps.refl h

theorem Grows.trans {a b c : History} (ab : a.Grows b) (bc : b.Grows c) : a.Grows c := by
  induction ab generalizing c with
  | added new => exact .added c
  | kept entry rest ih =>
    cases bc with
    | kept later bc => exact .kept (entry.trans later) (ih bc)

theorem Grows.append (h added : History) : h.Grows (h ++ added) := by
  induction h with
  | nil => exact .added added
  | cons tx rest ih => exact .kept (.refl tx) ih

theorem insert_of_known {h : History} {tx : Transaction} (known : h.knowsHashOf tx = true) :
    h.insert tx = h := by
  simp [insert, known]

theorem insert_of_unknown {h : History} {tx : Transaction} (unknown : h.knowsHashOf tx = false) :
    h.insert tx = h ++ [tx] := by
  simp [insert, unknown]

theorem grows_insert (h : History) (tx : Transaction) : h.Grows (h.insert tx) := by
  cases known : h.knowsHashOf tx with
  | true => simpa [insert_of_known known] using Grows.refl h
  | false => simpa [insert_of_unknown known] using Grows.append h [tx]

theorem grows_insertAll (h : History) (txs : List Transaction) : h.Grows (txs.foldl insert h) := by
  induction txs generalizing h with
  | nil => exact .refl h
  | cons tx rest ih => exact (grows_insert h tx).trans (ih _)

theorem Sound.append {h : History} (sound : h.Sound) {tx : Transaction}
    (unknown : h.knowsHashOf tx = false)
    (single : (h ++ [tx]).countP Transaction.isPlaceholder ≤ 1) : (h ++ [tx]).Sound where
  distinct := by
    refine List.pairwise_append.mpr ⟨sound.distinct, List.pairwise_singleton _ _, ?_⟩
    intro old member new last hash found
    rw [List.mem_singleton] at last
    subst last
    simp only [knowsHashOf, found, knows, List.any_eq_false] at unknown
    simpa using unknown old member
  onePlaceholder := single

theorem Sound.insert {h : History} (sound : h.Sound) {tx : Transaction}
    (hashed : tx.hash.isSome = true) : (h.insert tx).Sound := by
  cases known : h.knowsHashOf tx with
  | true => simpa [insert_of_known known] using sound
  | false =>
    rw [insert_of_unknown known]
    apply sound.append known
    have named : tx.hash.isNone = false := by simpa [Option.isSome_iff_ne_none] using hashed
    simpa [List.countP_append, Transaction.isPlaceholder, named] using sound.onePlaceholder

theorem Sound.insertAll {h : History} (sound : h.Sound) {txs : List Transaction}
    (hashed : ∀ tx ∈ txs, tx.hash.isSome = true) : (txs.foldl History.insert h).Sound := by
  induction txs generalizing h with
  | nil => exact sound
  | cons tx rest ih =>
    exact ih (sound.insert (hashed tx (by simp))) fun later member =>
      hashed later (List.mem_cons_of_mem tx member)

theorem Sound.map {h : History} (sound : h.Sound) {f : Transaction → Transaction}
    (hash : ∀ tx, (f tx).hash = tx.hash)
    (placeholder : ∀ tx, (f tx).isPlaceholder = true → tx.isPlaceholder = true) :
    Sound (h.map f) where
  distinct := by
    refine List.pairwise_map.mpr (sound.distinct.imp ?_)
    intro a b apart x found
    rw [hash] at found
    simpa only [Transaction.hasHash, hash] using apart x found
  onePlaceholder := by
    rw [List.countP_map]
    exact Nat.le_trans (List.countP_mono_left fun tx _ => placeholder tx) sound.onePlaceholder

-- an entry that a report may confirm
def confirmBy (confirmed : List Transaction) (tx : Transaction) : Transaction :=
  match tx.hash with
  | some hash => if knows confirmed hash then tx.confirm else tx
  | none => tx

theorem confirmReported_eq (h : History) (confirmed : List Transaction) :
    h.confirmReported confirmed = h.map (confirmBy confirmed) := rfl

theorem confirmBy_eq (confirmed : List Transaction) (tx : Transaction) :
    confirmBy confirmed tx = tx ∨ confirmBy confirmed tx = tx.confirm := by
  unfold confirmBy
  split
  · split
    · exact .inr rfl
    · exact .inl rfl
  · exact .inl rfl

theorem keeps_confirmBy (confirmed : List Transaction) (tx : Transaction) :
    tx.Keeps (confirmBy confirmed tx) := by
  rcases confirmBy_eq confirmed tx with same | flipped
  · rw [same]
    exact .refl tx
  · rw [flipped]
    exact tx.keeps_confirm

@[simp] theorem hash_confirmBy (confirmed : List Transaction) (tx : Transaction) :
    (confirmBy confirmed tx).hash = tx.hash := by
  rcases confirmBy_eq confirmed tx with same | flipped
  · rw [same]
  · rw [flipped, Transaction.hash_confirm]

theorem Sound.confirmReported {h : History} (sound : h.Sound) (confirmed : List Transaction) :
    (h.confirmReported confirmed).Sound := by
  rw [confirmReported_eq]
  apply sound.map (hash_confirmBy confirmed)
  intro tx pending
  rcases confirmBy_eq confirmed tx with same | flipped
  · rwa [same] at pending
  · rw [flipped, Transaction.isPlaceholder_confirm] at pending
    contradiction

theorem grows_recordOutgoing (h : History) (tx : Transaction) : h.Grows (h.recordOutgoing tx) :=
  grows_insert h _

theorem Sound.recordOutgoing {h : History} (sound : h.Sound) {tx : Transaction}
    (hashed : tx.hash.isSome = true) : (h.recordOutgoing tx).Sound :=
  sound.insert (by simpa using hashed)

theorem grows_addPlaceholder (h : History) (coin : Amount) (now : Timestamp) :
    h.Grows (h.addPlaceholder coin now) := by
  unfold addPlaceholder
  split
  · exact .refl h
  · exact .append h _

theorem Sound.addPlaceholder {h : History} (sound : h.Sound) (coin : Amount) (now : Timestamp) :
    (h.addPlaceholder coin now).Sound := by
  cases pending : h.hasUnconfirmed with
  | true => simpa [History.addPlaceholder, pending] using sound
  | false =>
    have settled : h.countP Transaction.isPlaceholder = 0 := by
      simp only [hasUnconfirmed, List.any_eq_false] at pending
      rw [List.countP_eq_zero]
      intro tx member
      have done := pending tx member
      simp only [Transaction.isPlaceholder]
      simp_all
    simp only [History.addPlaceholder, pending, Bool.false_eq_true, if_false]
    apply sound.append rfl
    rw [List.countP_append, settled]
    simp [placeholder, Transaction.isPlaceholder, Transaction.isConfirmed]

theorem grows_confirmAll (h : History) : h.Grows h.confirmAll :=
  .map Transaction.keeps_confirm h

theorem Sound.confirmAll {h : History} (sound : h.Sound) : h.confirmAll.Sound :=
  sound.map Transaction.hash_confirm (by simp)

theorem grows_reconcile (h : History) (reported : List Transaction) :
    h.Grows (h.reconcile reported) := by
  have confirmed := Grows.map
    (keeps_confirmBy (reported.filter fun tx => tx.isConfirmed)) h
  exact confirmed.trans (grows_insertAll _ _)

theorem Sound.reconcile {h : History} (sound : h.Sound) {reported : List Transaction}
    (hashed : ∀ tx ∈ reported, tx.hash.isSome = true) : (h.reconcile reported).Sound := by
  apply (sound.confirmReported _).insertAll
  intro tx member
  exact hashed tx (List.mem_filter.mp member).1

end History

end CoinWallet
