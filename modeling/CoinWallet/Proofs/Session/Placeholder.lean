import CoinWallet.Proofs.Lists
import CoinWallet.Proofs.Session.Overlap

set_option autoImplicit false

namespace CoinWallet

namespace History

def hasPlaceholder (h : History) : Bool :=
  h.any Transaction.isPlaceholder

theorem hasPlaceholder_iff (h : History) :
    h.hasPlaceholder = true ↔ ∃ tx ∈ h, tx.hash = none ∧ tx.isConfirmed = false := by
  simp [hasPlaceholder, Transaction.isPlaceholder, and_comm]

theorem hasPlaceholder_append (h added : History) :
    hasPlaceholder (h ++ added) = (h.hasPlaceholder || hasPlaceholder added) := by
  simp [hasPlaceholder]

theorem hasPlaceholder_insert (h : History) {tx : Transaction} (hashed : tx.hash.isSome = true) :
    (h.insert tx).hasPlaceholder = h.hasPlaceholder := by
  have named : hasPlaceholder [tx] = false := by
    simp [hasPlaceholder, Transaction.isPlaceholder, hashed]
  cases known : h.knowsHashOf tx with
  | true => rw [insert_of_known known]
  | false => rw [insert_of_unknown known, hasPlaceholder_append, named, Bool.or_false]

theorem hasPlaceholder_insertAll (h : History) {txs : List Transaction}
    (hashed : ∀ tx ∈ txs, tx.hash.isSome = true) :
    (txs.foldl insert h).hasPlaceholder = h.hasPlaceholder := by
  induction txs generalizing h with
  | nil => rfl
  | cons tx rest ih =>
    have others := ih (h.insert tx) fun later member => hashed later (List.mem_cons_of_mem tx member)
    rw [List.foldl_cons, others, hasPlaceholder_insert h (hashed tx List.mem_cons_self)]

theorem hasPlaceholder_reconcile (h : History) {reported : List Transaction}
    (hashed : ∀ tx ∈ reported, tx.hash.isSome = true) :
    (h.reconcile reported).hasPlaceholder = h.hasPlaceholder := by
  rw [reconcile, hasPlaceholder_insertAll _ fun tx member => hashed tx (List.mem_filter.mp member).1,
    confirmReported_eq, hasPlaceholder, List.any_map]
  -- only an entry with a hash can be confirmed by a report
  have same (tx : Transaction) :
      (confirmBy (reported.filter fun tx => tx.isConfirmed) tx).isPlaceholder = tx.isPlaceholder := by
    cases held : tx.hash with
    | none => simp [confirmBy, held]
    | some hash => simp [Transaction.isPlaceholder, held]
  simp [Function.comp_def, same, hasPlaceholder]

theorem hasPlaceholder_addPlaceholder (h : History) (coin : Amount) (now : Timestamp) :
    (h.addPlaceholder coin now).hasPlaceholder = (h.hasPlaceholder || !h.hasUnconfirmed) := by
  cases pending : h.hasUnconfirmed with
  | true => simp [addPlaceholder, pending]
  | false =>
    have added : hasPlaceholder [placeholder coin now] = true := rfl
    simp [addPlaceholder, pending, hasPlaceholder_append, added]

theorem hasPlaceholder_confirmAll (h : History) : h.confirmAll.hasPlaceholder = false := by
  simp [hasPlaceholder, confirmAll, List.any_map]

end History

namespace Update

/-- By the word of the network nothing is pending, whatever else is told. -/
def Denies : Update → Prop
  | utxo info => info.hasUnconfirmed = some false
  | account update => update.transactionCount = update.pendingCount

def Places : Update → Prop
  | utxo info => info.history = [] ∧ info.hasUnconfirmed = some true
  | account update => update.transactionCount ≠ update.pendingCount

def TellsHistory : Update → Prop
  | utxo info => info.history ≠ []
  | account _ => False

theorem settles_iff (update : Update) : update.Settles ↔ update.Denies ∧ ¬ update.TellsHistory := by
  cases update with
  | utxo info => simp [Settles, Denies, TellsHistory, and_comm]
  | account update => simp [Settles, Denies, TellsHistory]

theorem not_places_of_denies {update : Update} (denies : update.Denies) : ¬ update.Places := by
  cases update with
  | utxo info =>
    rintro ⟨-, pending⟩
    rw [Denies, pending] at denies
    cases denies
  | account update => exact not_not_intro denies

theorem hasPlaceholder_commit (w : Wallet) (update : Update) (now : Timestamp) :
    (update.commit w now).recent.hasPlaceholder = true ↔
      (w.recent.hasPlaceholder = true ∧ ¬ update.Settles) ∨
        (update.Places ∧ w.recent.hasUnconfirmed = false) := by
  have turns := turns_commit w update now
  generalize (update.commit w now).recent = new at turns ⊢
  cases turns with
  | reconcile coin reported =>
    rw [History.hasPlaceholder_reconcile _ (by simp [ReportedTransaction.toTransaction])]
    simp [Settles, Places, reported]
  | place coin silent pending =>
    simp [History.hasPlaceholder_addPlaceholder, Settles, Places, silent, pending]
  | clear silent settled => simp [History.hasPlaceholder, Settles, Places, silent, settled]
  | keep silent vague => simp [Settles, Places, vague]
  | confirm equal => simp [History.hasPlaceholder_confirmAll, Settles, Places, equal]
  | wait coin apart => simp [History.hasPlaceholder_addPlaceholder, Settles, Places, apart]

end Update

namespace Write

def Settles : Write → Prop
  | commit update _ => update.Settles
  | _ => False

def Places : Write → Prop
  | commit update _ => update.Places
  | _ => False

theorem hasPlaceholder_apply (w : Wallet) (x : Write) :
    (x.apply w).recent.hasPlaceholder = true ↔
      (w.recent.hasPlaceholder = true ∧ ¬ x.Settles) ∨
        (x.Places ∧ w.recent.hasUnconfirmed = false) := by
  cases x with
  | commit update now => exact update.hasPlaceholder_commit w now
  | record payload hash =>
    simp [apply, Wallet.recordOutgoing, History.recordOutgoing, History.hasPlaceholder_insert,
      Settles, Places, Payload.sent]
  | adopt tokens => simp [apply, Account.recent_adopt, Settles, Places]
  | track t => simp [apply, Settles, Places]
  | untrack t => simp [apply, Settles, Places]

end Write

theorem Wallet.hasPlaceholder_after (w : Wallet) (writes : List Write) :
    (w.after writes).recent.hasPlaceholder = true ↔
      (w.recent.hasPlaceholder = true ∧ ∀ x ∈ writes, ¬ x.Settles) ∨
        ∃ first x later, writes = first ++ x :: later ∧ x.Places ∧
          (w.after first).recent.hasUnconfirmed = false ∧ ∀ y ∈ later, ¬ y.Settles := by
  induction writes generalizing w with
  | nil => simp
  | cons x rest ih =>
    rw [Wallet.after_cons, ih, Write.hasPlaceholder_apply, exists_cons_eq_append]
    simp only [Wallet.after_cons, Wallet.after_nil, List.forall_mem_cons]
    tauto

namespace Session

theorem wallet_of_fetched {s s' : Session} {now : Moment} {id : CallId} {update : Update}
    (fetched : s.calls[id]? = some (.refresh (.fetched update)))
    (moved : s.step? now id .proceed = some s') :
    s'.manager.wallet = update.commit s.manager.wallet now.date := by
  have acted : s.act? now (.step id .proceed) = some s' := moved
  simpa [actWrites, fetched, Call.writes, Write.apply] using act?_wallet acted

/-- When a refresh is written that was told that nothing is pending, a placeholder stays exactly if
transactions were told of with it, and an earlier refresh made one that nothing has settled since.
-/
theorem placeholder_of_run {m : Manager} {actions : List (Moment × Action)} {s s' : Session}
    {now : Moment} {id : CallId} {update : Update} (empty : m.wallet.recent = [])
    (ran : run? ⟨m, []⟩ actions = some s)
    (fetched : s.calls[id]? = some (.refresh (.fetched update)))
    (moved : s.step? now id .proceed = some s') (denies : update.Denies) :
    (∃ tx ∈ s'.manager.wallet.recent, tx.hash = none ∧ tx.isConfirmed = false) ↔
      update.TellsHistory ∧
        ∃ first x later, (Session.mk m []).writes actions = first ++ x :: later ∧ x.Places ∧
          (m.wallet.after first).recent.hasUnconfirmed = false ∧ ∀ y ∈ later, ¬ y.Settles := by
  have none : m.wallet.recent.hasPlaceholder = false := by
    rw [empty]
    rfl
  rw [← History.hasPlaceholder_iff, wallet_of_fetched fetched moved, Update.hasPlaceholder_commit,
    Update.settles_iff, run?_wallet ran, Wallet.hasPlaceholder_after]
  simp [none, denies, Update.not_places_of_denies denies, and_comm]

end Session

namespace Sample

-- something is pending at an address without any transaction
def rumoured : AddressInfo :=
  { AddressInfo.empty with hasUnconfirmed := some true }

-- it has arrived, and nothing else is pending
def arrived : AddressInfo :=
  { AddressInfo.empty with
    history := [
      { balanceChange := .one, hash := "ab", date := none, isConfirmed := true, source := none
        destination := none }] }

def rumour : List (Moment × Action) :=
  (refresh rumoured).actions ⟨manager outputs, []⟩ ++
    (moment, .make (.refresh true)) :: Session.stepsOf 1 (timed (reading arrived))

def heard : Session := runs ⟨manager outputs, []⟩ rumour

def confirmed : Session := runs heard [(moment, .step 1 .proceed)]

theorem run?_rumour : Session.run? ⟨manager outputs, []⟩ rumour = some heard :=
  run?_runs rfl

theorem fetched_heard : heard.calls[1]? = some (.refresh (.fetched (.utxo arrived))) := rfl

theorem step?_heard : heard.step? moment 1 .proceed = some confirmed := rfl

theorem placeholder_of_run_arrived :
    (manager outputs).wallet.recent = [] ∧
      Session.run? ⟨manager outputs, []⟩ rumour = some heard ∧
      heard.calls[1]? = some (.refresh (.fetched (.utxo arrived))) ∧
      heard.step? moment 1 .proceed = some confirmed ∧ (Update.utxo arrived).Denies ∧
      ((∃ tx ∈ confirmed.manager.wallet.recent, tx.hash = none ∧ tx.isConfirmed = false) ↔
        (Update.utxo arrived).TellsHistory ∧
          ∃ first x later,
            (Session.mk (manager outputs) []).writes rumour = first ++ x :: later ∧ x.Places ∧
              ((manager outputs).wallet.after first).recent.hasUnconfirmed = false ∧
              ∀ y ∈ later, ¬ y.Settles) :=
  ⟨rfl, run?_rumour, fetched_heard, step?_heard, rfl,
    Session.placeholder_of_run rfl run?_rumour fetched_heard step?_heard rfl⟩

theorem rumour_outlives_denial :
    ¬ ∀ (m : Manager) (actions : List (Moment × Action)) (s s' : Session) (now : Moment)
      (id : CallId) (update : Update), m.wallet.recent = [] → Session.run? ⟨m, []⟩ actions = some s →
      s.calls[id]? = some (.refresh (.fetched update)) → s.step? now id .proceed = some s' →
      update.Denies → ∀ tx ∈ s'.manager.wallet.recent, tx.hash = none → tx.isConfirmed = true := by
  intro all
  have gone := all _ rumour heard confirmed moment 1 (.utxo arrived) rfl run?_rumour fetched_heard
    step?_heard rfl
  have stays : ∃ tx ∈ confirmed.manager.wallet.recent, tx.hash = none ∧ tx.isConfirmed = false := by
    decide
  obtain ⟨tx, member, nameless, pending⟩ := stays
  rw [gone tx member nameless] at pending
  cases pending

end Sample

end CoinWallet
