import CoinWallet.Proofs.History.Reconcile
import CoinWallet.Wallet

set_option autoImplicit false

namespace CoinWallet

namespace History

-- the reports that are confirmed, and those that are not
def settled (reported : List Transaction) : List Transaction :=
  reported.filter fun tx => tx.isConfirmed

def pending (reported : List Transaction) : List Transaction :=
  reported.filter fun tx => !tx.isConfirmed

/-- The reports whose hash neither the history nor an earlier report has, or that have none. -/
def news (h : History) (reports : List Transaction) : List Transaction :=
  (reports.zipIdx.filter fun (tx, i) => !(h ++ reports.take i).knowsHashOf tx).map (·.1)

theorem knowsHashOf_congr {h other : History} (same : ∀ hash, h.knows hash = other.knows hash)
    (tx : Transaction) : h.knowsHashOf tx = other.knowsHashOf tx := by
  cases held : tx.hash <;> simp [knowsHashOf, held, same]

theorem knowsHashOf_append (h added : History) (tx : Transaction) :
    knowsHashOf (h ++ added) tx = (h.knowsHashOf tx || knowsHashOf added tx) := by
  cases held : tx.hash <;> simp [knowsHashOf, held, knows_append]

theorem knowsHashOf_of_mem {h : History} {tx : Transaction} (member : tx ∈ h)
    (hashed : tx.hash ≠ none) : h.knowsHashOf tx = true := by
  cases held : tx.hash with
  | none => exact absurd held hashed
  | some hash =>
    simp only [knowsHashOf, held, knows, List.any_eq_true]
    exact ⟨tx, member, Transaction.hasHash_iff.mpr ⟨hash, held, rfl⟩⟩

theorem news_snoc (h : History) (reports : List Transaction) (tx : Transaction) :
    h.news (reports ++ [tx]) =
      h.news reports ++ if knowsHashOf (h ++ reports) tx then [] else [tx] := by
  have former : ∀ entry ∈ reports.zipIdx,
      (!(h ++ (reports ++ [tx]).take entry.2).knowsHashOf entry.1) =
        !(h ++ reports.take entry.2).knowsHashOf entry.1 := by
    intro entry member
    have inside := List.snd_lt_of_mem_zipIdx member
    rw [List.take_append_of_le_length (by omega)]
  simp only [news, List.zipIdx_append, List.filter_append, List.map_append]
  rw [List.filter_congr former]
  cases known : knowsHashOf (h ++ reports) tx <;> simp [known]

theorem mem_of_mem_news {h : History} {reports : List Transaction} {tx : Transaction}
    (member : tx ∈ h.news reports) : tx ∈ reports := by
  induction reports using List.reverseRecOn with
  | nil => simp [news] at member
  | append_singleton reports other ih =>
    rw [news_snoc, List.mem_append] at member
    rcases member with former | last
    next => exact List.mem_append_left _ (ih former)
    next => split at last <;> simp_all

theorem mem_news_of_nameless {h : History} {reports : List Transaction} {tx : Transaction}
    (member : tx ∈ reports) (nameless : tx.hash = none) : tx ∈ h.news reports := by
  induction reports using List.reverseRecOn with
  | nil => cases member
  | append_singleton reports other ih =>
    rw [news_snoc, List.mem_append]
    rcases List.mem_append.mp member with former | last
    next => exact .inl (ih former)
    next =>
      rw [List.mem_singleton] at last
      subst last
      simp [knowsHashOf, nameless]

theorem news_congr {h other : History} (same : ∀ hash, h.knows hash = other.knows hash)
    (reports : List Transaction) : h.news reports = other.news reports := by
  have each (tx : Transaction) (i : Nat) :
      knowsHashOf (h ++ reports.take i) tx = knowsHashOf (other ++ reports.take i) tx :=
    knowsHashOf_congr (by simp [knows_append, same]) tx
  simp only [news, each]

theorem news_eq_nil {h : History} {reports : List Transaction}
    (known : ∀ tx ∈ reports, h.knowsHashOf tx = true) : h.news reports = [] := by
  have each : ∀ entry ∈ reports.zipIdx,
      ¬ (!(h ++ reports.take entry.2).knowsHashOf entry.1) = true := by
    intro entry member
    have there := known entry.1 (List.fst_mem_of_mem_zipIdx member)
    simp [knowsHashOf_append, there]
  rw [news, List.filter_eq_nil_iff.mpr each, List.map_nil]

theorem insertAll_eq_news (h : History) (txs : List Transaction) :
    txs.foldl insert h = h ++ h.news txs := by
  induction txs using List.reverseRecOn with
  | nil => simp [news]
  | append_singleton txs tx ih =>
    have known := knowsHashOf_congr (knows_insertAll h txs) tx
    rw [List.foldl_append, List.foldl_cons, List.foldl_nil, news_snoc, insert, known, ih]
    split <;> simp

theorem reconcile_eq_news (h : History) (reported : List Transaction) :
    h.reconcile reported = h.map (confirmBy (settled reported)) ++ h.news (pending reported) := by
  rw [reconcile, confirmReported_eq, insertAll_eq_news]
  congr 1
  exact news_congr (knows_map (hash_confirmBy _) h) _

theorem confirmBy_confirmBy (confirmed : List Transaction) (tx : Transaction) :
    confirmBy confirmed (confirmBy confirmed tx) = confirmBy confirmed tx := by
  cases held : tx.hash with
  | none => simp [confirmBy, held]
  | some hash =>
    by_cases known : knows confirmed hash = true <;>
      simp [confirmBy, held, known, Transaction.confirm]

theorem confirmBy_eq_self_iff {confirmed : List Transaction} {tx : Transaction}
    (waits : tx.isConfirmed = false) :
    confirmBy confirmed tx = tx ↔ knowsHashOf confirmed tx = false := by
  have changes : tx.confirm ≠ tx := by
    intro same
    rw [← same, Transaction.isConfirmed_confirm] at waits
    contradiction
  cases held : tx.hash with
  | none => simp [confirmBy, knowsHashOf, held]
  | some hash =>
    cases known : knows confirmed hash <;> simp [confirmBy, knowsHashOf, held, known, changes]

theorem isConfirmed_of_mem_pending {reported : List Transaction} {tx : Transaction}
    (member : tx ∈ pending reported) : tx.isConfirmed = false := by
  simpa using (List.mem_filter.mp member).2

theorem knowsHashOf_reconcile (h : History) {reported : List Transaction} {tx : Transaction}
    (member : tx ∈ pending reported) (hashed : tx.hash ≠ none) :
    (h.reconcile reported).knowsHashOf tx = true := by
  have known := knowsHashOf_congr
    (knows_insertAll (h.confirmReported (settled reported)) (pending reported)) tx
  rw [knowsHashOf_append, knowsHashOf_of_mem member hashed, Bool.or_true] at known
  exact known

theorem news_reconcile_eq_nil_iff (h : History) (reported : List Transaction) :
    (h.reconcile reported).news (pending reported) = [] ↔
      ∀ tx ∈ h.news (pending reported), tx.hash ≠ none := by
  constructor
  next =>
    intro nothing tx member nameless
    have again := mem_news_of_nameless (h := h.reconcile reported) (mem_of_mem_news member) nameless
    rw [nothing] at again
    cases again
  next =>
    intro hashed
    apply news_eq_nil
    intro tx member
    exact knowsHashOf_reconcile h member fun nameless =>
      hashed tx (mem_news_of_nameless member nameless) nameless

theorem map_confirmBy_news_iff (h : History) (reported : List Transaction) :
    (h.news (pending reported)).map (confirmBy (settled reported)) = h.news (pending reported) ↔
      ∀ tx ∈ h.news (pending reported), knowsHashOf (settled reported) tx = false := by
  have each : ∀ tx ∈ h.news (pending reported),
      (confirmBy (settled reported) tx = id tx ↔ knowsHashOf (settled reported) tx = false) := by
    intro tx member
    exact confirmBy_eq_self_iff (isConfirmed_of_mem_pending (mem_of_mem_news member))
  have kept := List.map_inj_left (f := confirmBy (settled reported)) (g := id)
    (l := h.news (pending reported))
  rw [List.map_id] at kept
  exact kept.trans (forall₂_congr each)

theorem reconcile_twice_iff (h : History) (reported : List Transaction) :
    (h.reconcile reported).reconcile reported = h.reconcile reported ↔
      ∀ tx ∈ h.news (pending reported),
        tx.hash ≠ none ∧ knowsHashOf (settled reported) tx = false := by
  have again : (h.reconcile reported).reconcile reported =
      h.map (confirmBy (settled reported)) ++
        ((h.news (pending reported)).map (confirmBy (settled reported)) ++
          (h.reconcile reported).news (pending reported)) := by
    rw [reconcile_eq_news (h.reconcile reported)]
    nth_rewrite 1 [reconcile_eq_news h]
    simp [confirmBy_confirmBy]
  rw [again]
  nth_rewrite 2 [reconcile_eq_news h]
  rw [List.append_cancel_left_eq]
  constructor
  next =>
    intro equal
    have sizes := congrArg List.length equal
    rw [List.length_append, List.length_map] at sizes
    have nothing : (h.reconcile reported).news (pending reported) = [] :=
      List.eq_nil_of_length_eq_zero (by omega)
    rw [nothing, List.append_nil] at equal
    intro tx member
    exact ⟨(news_reconcile_eq_nil_iff h reported).mp nothing tx member,
      (map_confirmBy_news_iff h reported).mp equal tx member⟩
  next =>
    intro apart
    rw [(news_reconcile_eq_nil_iff h reported).mpr fun tx member => (apart tx member).1,
      (map_confirmBy_news_iff h reported).mpr fun tx member => (apart tx member).2, List.append_nil]

end History

namespace Transaction

-- `new` is `old`, and confirmed if `old` was or a confirmed report has its hash
structure Reconciled (reported : List Transaction) (old new : Transaction) : Prop where
  same : { new with status := old.status } = old
  confirmed : new.isConfirmed = true ↔ old.isConfirmed = true ∨
    ∃ hash, old.hash = some hash ∧
      ∃ tx ∈ reported, tx.isConfirmed = true ∧ tx.hasHash hash = true

theorem reconciled_confirmBy (reported : List Transaction) (tx : Transaction) :
    tx.Reconciled reported (History.confirmBy (History.settled reported) tx) where
  same := (History.keeps_confirmBy _ tx).same
  confirmed := by
    cases held : tx.hash with
    | none => simp [History.confirmBy, held]
    | some hash =>
      have known : History.knows (History.settled reported) hash = true ↔
          ∃ other ∈ reported, other.isConfirmed = true ∧ other.hasHash hash = true := by
        simp [History.knows, History.settled]
      by_cases told : History.knows (History.settled reported) hash = true
      next => simp [History.confirmBy, held, told, known.mp told]
      next => simp [History.confirmBy, held, told, mt known.mpr told]

theorem Apart.symm {a b : Transaction} (apart : a.Apart b) : b.Apart a := by
  intro hash held
  exact apart.not_both (hasHash_iff.mpr ⟨hash, held, rfl⟩)

instance : Std.Symm Apart := ⟨fun _ _ => Apart.symm⟩

end Transaction

/-- What a wallet makes of any reports. Reports that each have a hash of their own may come again.
-/
theorem Wallet.reconcile_adds_news (w : Wallet) (reported : List Transaction) :
    (∃ kept : History, List.Forall₂ (Transaction.Reconciled reported) w.recent kept ∧
      w.reconcile reported =
        { w with recent := kept ++ w.recent.news (History.pending reported) }) ∧
      ((∀ tx ∈ reported, tx.hash ≠ none) → reported.Pairwise Transaction.Apart →
        (w.reconcile reported).reconcile reported = w.reconcile reported) := by
  constructor
  next =>
    let settle := History.confirmBy (History.settled reported)
    have related : List.Forall₂ (Transaction.Reconciled reported) w.recent (w.recent.map settle) := by
      rw [List.forall₂_map_right_iff, List.forall₂_same]
      intro tx _
      exact tx.reconciled_confirmBy reported
    exact ⟨w.recent.map settle, related, by rw [Wallet.reconcile, History.reconcile_eq_news]⟩
  next =>
    intro hashed distinct
    have again : (w.recent.reconcile reported).reconcile reported = w.recent.reconcile reported := by
      rw [History.reconcile_twice_iff]
      intro tx new
      obtain ⟨member, waits⟩ := List.mem_filter.mp (History.mem_of_mem_news new)
      have apart : ∀ entry ∈ History.settled reported, entry.Apart tx := by
        intro entry told
        obtain ⟨present, confirmed⟩ := List.mem_filter.mp told
        have other : entry ≠ tx := by
          rintro rfl
          simp [confirmed] at waits
        exact distinct.forall present member other
      exact ⟨hashed tx member, History.knowsHashOf_eq_false_iff.mpr apart⟩
    simp only [Wallet.reconcile, again]

namespace History.Sample

def entry (hash : Option String) (status : TransactionStatus) : Transaction where
  amount := .zeroCoin .bitcoin
  fee := none
  source := "home"
  destination := "shop"
  contract := none
  status := status
  hash := hash
  date := ⟨0, 0⟩

-- a payment, and something that is pending
def wallet : Wallet :=
  { Wallet.new ⟨0⟩ .bitcoin ⟨[], none⟩ [⟨"bc1qa", .standard⟩] with
    recent := [entry (some "Cc") .unconfirmed, entry none .unconfirmed] }

def reports : List Transaction :=
  [entry (some "dD") .unconfirmed, entry (some "cC") .confirmed, entry (some "ee") .confirmed]

theorem reconcile_adds_news_twice :
    (∀ tx ∈ reports, tx.hash ≠ none) ∧ reports.Pairwise Transaction.Apart ∧
      (wallet.reconcile reports).recent = [entry (some "Cc") .confirmed, entry none .unconfirmed,
        entry (some "dD") .unconfirmed] ∧
      (wallet.reconcile reports).reconcile reports = wallet.reconcile reports := by
  have hashed : ∀ tx ∈ reports, tx.hash ≠ none := by decide
  have distinct : reports.Pairwise Transaction.Apart := by
    simp [reports, entry, Transaction.Apart, Transaction.hasHash]
    decide
  have again := (Wallet.reconcile_adds_news wallet reports).2 hashed distinct
  exact ⟨hashed, distinct, by decide, again⟩

end History.Sample

end CoinWallet
