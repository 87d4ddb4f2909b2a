import CoinWallet.Proofs.History.Entry
import CoinWallet.Proofs.Session.History

set_option autoImplicit false

namespace CoinWallet

namespace Update

def Settles : Update → Prop
  | utxo info => info.history = [] ∧ info.hasUnconfirmed = some false
  | account update => update.transactionCount = update.pendingCount

def Reports (tx : Transaction) : Update → Prop
  | utxo info => ∃ report ∈ info.history, tx.hasHash report.hash = true
  | account _ => False

theorem unknown_of_not_reports {info : AddressInfo} {tx : Transaction} {hash : String}
    (hashed : tx.hash = some hash) (silent : ¬ (utxo info).Reports tx) (coin : Amount)
    (now : Timestamp) :
    History.knows (info.history.map fun report => report.toTransaction coin now) hash = false := by
  rw [History.knows, List.any_eq_false]
  intro entry member same
  obtain ⟨report, reported, rfl⟩ := List.mem_map.mp member
  apply silent
  refine ⟨report, reported, ?_⟩
  simp only [Transaction.hasHash, ReportedTransaction.toTransaction, hashed,
    Text.sameIgnoringCase_iff] at same ⊢
  exact same.symm

theorem knows_commit {w : Wallet} {update : Update} {tx : Transaction} {hash : String}
    (hashed : tx.hash = some hash) (silent : ¬ update.Reports tx)
    (unknown : w.recent.knows hash = false) (now : Timestamp) :
    (update.commit w now).recent.knows hash = false := by
  have turns := turns_commit w update now
  generalize (update.commit w now).recent = new at turns ⊢
  cases turns with
  | reconcile coin reported =>
    exact History.knows_reconcile unknown (unknown_of_not_reports hashed silent coin now)
  | place coin _ _ => rwa [History.knows_addPlaceholder]
  | clear _ _ => rfl
  | keep _ _ => exact unknown
  | confirm equal => rwa [History.knows_confirmAll]
  | wait coin apart => rwa [History.knows_addPlaceholder]

theorem mem_commit_iff {w : Wallet} {update : Update} {tx : Transaction} {hash : String}
    (pending : tx.isConfirmed = false) (hashed : tx.hash = some hash)
    (silent : ¬ update.Reports tx) (present : tx ∈ w.recent) (now : Timestamp) :
    tx ∈ (update.commit w now).recent ↔ ¬ update.Settles := by
  have turns := turns_commit w update now
  generalize (update.commit w now).recent = new at turns ⊢
  cases turns with
  | reconcile coin reported =>
    have unreported := unknown_of_not_reports hashed silent coin now
    exact iff_of_true (History.mem_reconcile present hashed unreported) fun settles =>
      reported settles.1
  | place coin quiet word =>
    refine iff_of_true (History.mem_addPlaceholder present coin now) ?_
    simp [Settles, word]
  | clear quiet word => exact iff_of_false List.not_mem_nil (not_not_intro ⟨quiet, word⟩)
  | keep quiet word =>
    refine iff_of_true present ?_
    simp [Settles, word]
  | confirm equal =>
    refine iff_of_false ?_ (not_not_intro equal)
    intro member
    rw [History.isConfirmed_of_mem_confirmAll member] at pending
    contradiction
  | wait coin apart => exact iff_of_true (History.mem_addPlaceholder present coin now) apart

end Update

-- one that succeeds has written its update, unless it was skipped
def Refresh.Wrote (writes : List Write) : Refresh → Prop
  | leaving (.ok _) | left (.ok _) | finished (.ok .executed) =>
    ∃ update date, writes = [.commit update date]
  | _ => writes = []

-- one that succeeds has been recorded, and is the one that was asked for
def Send.Wrote (asked : Payload) (writes : List Write) : Send → Prop
  | called payload | waiting payload | entered payload | building payload _
  | broadcasting payload _ | accepted payload _ => payload = asked ∧ writes = []
  | signing job _ | signed job _ | sealing job _ => job.payload = asked ∧ writes = []
  | leaving (.ok sent) | left (.ok sent) | finished (.ok sent) =>
    ∃ hash, sent = asked.sent hash ∧ writes = [.record asked hash]
  | leaving (.error _) | left (.error _) | finished (.error _) => writes = []

theorem Refresh.Wrote.step {m m' : Manager} {now : Moment} {id : CallId} {event : Event}
    {r r' : Refresh} {writes : List Write} (wrote : r.Wrote writes)
    (moved : r.step? m now id event = some (m', r')) :
    r'.Wrote (writes ++ Call.writes now event (.refresh r)) := by
  cases step_of_step? moved with
  | commit =>
    cases wrote
    exact ⟨_, _, rfl⟩
  | idle =>
    rename_i r
    cases r <;> simpa [Call.writes, Wrote] using wrote
  | leave =>
    rename_i r
    cases r <;> simpa [Call.writes, Wrote, Except.map] using wrote
  | _ => simpa [Call.writes, Wrote, Outcome.fail] using wrote

theorem Send.Wrote.step {m m' : Manager} {id : CallId} {event : Event} {asked : Payload}
    {p p' : Send} {writes : List Write} (wrote : p.Wrote asked writes) (now : Moment)
    (moved : p.step? m id event = some (m', p')) :
    p'.Wrote asked (writes ++ Call.writes now event (.send p)) := by
  cases step_of_step? moved with
  | record =>
    obtain ⟨rfl, rfl⟩ := wrote
    exact ⟨_, rfl, rfl⟩
  | idle =>
    rename_i r
    cases r <;> simpa [Call.writes, Wrote] using wrote
  | leave =>
    rename_i r
    cases r <;> simpa [Call.writes, Wrote] using wrote
  | join | enter | build | sign | signOne | signLast | signAll | count | broadcast | request
  | accept => simpa [Call.writes, Wrote] using wrote
  -- what ends early has written nothing
  | _ => simpa [Call.writes, Wrote, Outcome.fail] using wrote.2

def Action.isStep : Action → Bool
  | .step _ _ => true
  | _ => false

namespace Session

def both (m : Manager) (forced : Bool) (payload : Payload) : Session :=
  ⟨m, [.refresh (.called forced), .send (.called payload)]⟩

def Wrote (asked : Payload) (writes : List Write) (s : Session) : Prop :=
  ∃ r p ofRefresh ofSend, s.calls = [.refresh r, .send p] ∧ r.Wrote ofRefresh ∧
    p.Wrote asked ofSend ∧ writes.Perm (ofRefresh ++ ofSend)

theorem Wrote.step {s s' : Session} {asked : Payload} {writes : List Write} {now : Moment}
    {id : CallId} {event : Event} (wrote : s.Wrote asked writes)
    (moved : s.act? now (.step id event) = some s') :
    s'.Wrote asked (writes ++ s.actWrites now (.step id event)) := by
  obtain ⟨r, p, ofRefresh, ofSend, calls, refreshed, sent, order⟩ := wrote
  obtain ⟨call, call', m', found, inner, rfl⟩ := step?_eq_some moved
  have written : s.actWrites now (.step id event) = call.writes now event := by
    simp [actWrites, found]
  rw [written]
  rw [calls] at found
  -- a write of either call comes last in the run, and last among those of its call
  rcases id with _ | _ | other
  · cases found
    simp only [Call.step?, Option.map_eq_some_iff, Prod.mk.injEq] at inner
    obtain ⟨⟨m', r'⟩, inner, rfl, rfl⟩ := inner
    have new := refreshed.step inner
    have swap : (ofSend ++ Call.writes now event (.refresh r)).Perm
        (Call.writes now event (.refresh r) ++ ofSend) := List.perm_append_comm
    refine ⟨r', p, _, ofSend, by simp [calls], new, sent, (order.append_right _).trans ?_⟩
    simpa only [List.append_assoc] using swap.append_left ofRefresh
  · cases found
    simp only [Call.step?, Option.map_eq_some_iff, Prod.mk.injEq] at inner
    obtain ⟨⟨m', p'⟩, inner, rfl, rfl⟩ := inner
    have new := sent.step now inner
    refine ⟨r, p', ofRefresh, _, by simp [calls], refreshed, new, ?_⟩
    simpa only [List.append_assoc] using order.append_right (Call.writes now event (.send p))
  · simp at found

theorem Wrote.run {s s' : Session} {asked : Payload} {writes : List Write}
    {actions : List (Moment × Action)} (wrote : s.Wrote asked writes)
    (steps : (actions.all fun action => action.2.isStep) = true) (ran : s.run? actions = some s') :
    s'.Wrote asked (writes ++ s.writes actions) := by
  induction actions generalizing s writes with
  | nil =>
    cases ran
    simpa [Session.writes] using wrote
  | cons head rest ih =>
    obtain ⟨now, action⟩ := head
    obtain ⟨next, moved, tail⟩ := run?_cons ran
    rw [List.all_cons, Bool.and_eq_true] at steps
    cases action with
    | step id event =>
      rw [writes_cons moved, ← List.append_assoc]
      exact ih (wrote.step moved) steps.2 tail
    | _ => cases steps.1

theorem wrote_both (m : Manager) (forced : Bool) (payload : Payload) :
    (both m forced payload).Wrote payload [] :=
  ⟨_, _, [], [], rfl, rfl, ⟨rfl, rfl⟩, .refl _⟩

end Session

/-- A refresh and a payment are made together, their steps follow each other in some order, and both
succeed. -/
structure Overlap (m : Manager) (forced : Bool) (payload : Payload)
    (actions : List (Moment × Action)) (s : Session) (sent : Transaction) : Prop where
  steps : (actions.all fun action => action.2.isStep) = true
  ran : (Session.both m forced payload).run? actions = some s
  refreshed : ∃ i, s.calls[0]? = some (.refresh (.finished (.ok i)))
  paid : s.calls[1]? = some (.send (.finished (.ok sent)))

namespace Overlap

variable {m : Manager} {forced : Bool} {payload : Payload} {actions : List (Moment × Action)}
  {s : Session} {sent : Transaction}

theorem writes_eq (overlap : Overlap m forced payload actions s sent) :
    ∃ hash, sent = payload.sent hash ∧
      ((Session.both m forced payload).writes actions = [.record payload hash] ∨
        ∃ update date,
          (Session.both m forced payload).writes actions =
              [.commit update date, .record payload hash] ∨
            (Session.both m forced payload).writes actions =
              [.record payload hash, .commit update date]) := by
  have wrote := (Session.wrote_both m forced payload).run overlap.steps overlap.ran
  obtain ⟨r, p, ofRefresh, ofSend, calls, refreshed, paid, order⟩ := wrote
  obtain ⟨i, first⟩ := overlap.refreshed
  have second := overlap.paid
  rw [calls] at first second
  cases first
  cases second
  obtain ⟨hash, same, rfl⟩ := paid
  refine ⟨hash, same, ?_⟩
  cases i with
  | skipped =>
    cases refreshed
    exact .inl (List.perm_singleton.mp order)
  | executed =>
    obtain ⟨update, date, rfl⟩ := refreshed
    exact .inr ⟨update, date, List.perm_pair.mp order⟩

theorem mem_record {w : Wallet} {payload : Payload} {hash : String}
    (unknown : w.recent.knows (Text.lower hash) = false) :
    { payload.sent hash with status := .unconfirmed } ∈
      ((Write.record payload hash).apply w).recent := by
  simp only [Write.apply, Wallet.recordOutgoing]
  rw [History.recordOutgoing_eq _ rfl, if_neg (by simp [unknown])]
  exact List.mem_append_right _ (List.mem_singleton.mpr rfl)

theorem mem_recent_iff (overlap : Overlap m forced payload actions s sent)
    (unknown : m.wallet.recent.knowsHashOf sent = false)
    (silent : ∀ update date,
      .commit update date ∈ (Session.both m forced payload).writes actions →
        ¬ update.Reports sent) :
    { sent with status := .unconfirmed } ∈ s.manager.wallet.recent ↔
      ¬ ∃ hash update date,
        (Session.both m forced payload).writes actions =
            [.record payload hash, .commit update date] ∧
          update.Settles := by
  have final : s.manager.wallet =
      m.wallet.after ((Session.both m forced payload).writes actions) := Session.run?_wallet overlap.ran
  obtain ⟨hash, rfl, order⟩ := overlap.writes_eq
  have fresh : m.wallet.recent.knows (Text.lower hash) = false := unknown
  rw [final]
  rcases order with alone | ⟨update, date, before | after⟩
  · simp only [alone, Wallet.after_cons, Wallet.after_nil]
    refine iff_of_true (mem_record fresh) ?_
    rintro ⟨_, _, _, impossible, _⟩
    cases impossible
  · simp only [before, Wallet.after_cons, Wallet.after_nil]
    have still := Update.knows_commit rfl (silent update date (by simp [before])) fresh date
    refine iff_of_true (mem_record still) ?_
    rintro ⟨_, _, _, impossible, _⟩
    cases impossible
  · simp only [after, Wallet.after_cons, Wallet.after_nil]
    have unreported : ¬ update.Reports { payload.sent hash with status := .unconfirmed } :=
      silent update date (by simp [after])
    have kept := Update.mem_commit_iff rfl rfl unreported (mem_record fresh) date
    refine kept.trans (not_congr ⟨fun settles => ⟨hash, update, date, rfl, settles⟩, ?_⟩)
    rintro ⟨_, _, _, same, settles⟩
    cases same
    exact settles

theorem brings (overlap : Overlap m forced payload actions s sent) {update : Update}
    {date : Timestamp}
    (written : .commit update date ∈ (Session.both m forced payload).writes actions) :
    m.chain.Brings update := by
  refine Session.brings_of_mem_writes ?_ overlap.ran written
  intro call member
  rcases List.mem_pair.mp member with rfl | rfl <;> trivial

end Overlap

def Send.isPrivate : Send → Bool
  | called _ | waiting _ | entered _ | building _ _ | signing _ _ | signed _ _ | sealing _ _ => true
  | _ => false

/-- All that the refresh reads has been read before a provider is asked to take the payment. -/
def Session.ReadsFirst (start : Session) (actions : List (Moment × Action)) : Prop :=
  ∃ first last middle update stage,
    actions = first ++ last ∧ start.run? first = some middle ∧
      middle.calls = [.refresh (.fetched update), .send stage] ∧ stage.isPrivate = true

namespace Sample

-- the payment is made, taken and recorded between the reading and the writing of the refresh
def stale (chain : Chain) (read : List Event) : List (Moment × Action) :=
  Session.stepsOf 0 (timed read) ++ (Session.stepsOf 1 (timed (paying chain "AB")) ++
    Session.stepsOf 0 (timed writing))

def overlapped (chain : Chain) (read : List Event) : Session :=
  runs (.both (manager chain) false (payload chain)) (stale chain read)

def sent (chain : Chain) : Transaction :=
  (payload chain).sent "AB"

theorem readsFirst_stale {chain : Chain} {read : List Event} {update : Update}
    (done : ((Session.both (manager chain) false (payload chain)).run?
      (Session.stepsOf 0 (timed read))).isSome = true)
    (fetched : (runs (.both (manager chain) false (payload chain))
      (Session.stepsOf 0 (timed read))).calls =
        [.refresh (.fetched update), .send (.called (payload chain))]) :
    (Session.both (manager chain) false (payload chain)).ReadsFirst (stale chain read) :=
  ⟨_, _, _, update, _, rfl, run?_runs done, fetched, rfl⟩

end Sample

/-- On a chain of accounts the payment is there, and pending, unless equal counts were written after
it. -/
theorem Overlap.mem_recent_account_iff {m : Manager} {forced : Bool} {payload : Payload}
    {actions : List (Moment × Action)} {s : Session} {sent : Transaction} {c : AccountChain}
    (chain : m.chain = .account c)
    (overlap : Overlap m forced payload actions s sent)
    (unknown : m.wallet.recent.knowsHashOf sent = false) :
    { sent with status := .unconfirmed } ∈ s.manager.wallet.recent ↔
      ¬ ∃ hash update date,
        (Session.both m forced payload).writes actions =
            [.record payload hash, .commit (.account update) date] ∧
          update.transactionCount = update.pendingCount := by
  have accounts (update : Update) (date : Timestamp)
      (written : .commit update date ∈ (Session.both m forced payload).writes actions) :
      ∃ told, update = .account told := by
    cases update with
    | account told => exact ⟨told, rfl⟩
    | utxo info =>
      obtain ⟨_, other⟩ := (overlap.brings written).utxo
      cases chain.symm.trans other
  have general := overlap.mem_recent_iff unknown fun update date written => by
    obtain ⟨told, rfl⟩ := accounts update date written
    exact id
  rw [general]
  refine not_congr ⟨?_, ?_⟩
  · rintro ⟨hash, update, date, order, settles⟩
    obtain ⟨told, rfl⟩ := accounts update date (by simp [order])
    exact ⟨hash, told, date, order, settles⟩
  · rintro ⟨hash, told, date, order, settled⟩
    exact ⟨hash, .account told, date, order, settled⟩

namespace Sample

def accounts : Chain :=
  .account ⟨.ethereum, {}, ["main"], false, rfl, main_ne_nil⟩

def counting (count pending : UInt64) : List Event :=
  [.proceed, .proceed, .proceed, .request 0 .start, .request 1 .start, .request 2 .start,
    .request 0 (.reply (.answering (.balance "home") (.ok 0))),
    .request 1 (.reply (.answering (.transactionCount "home") (.ok count))),
    .request 2 (.reply (.answering (.pendingCount "home") (.ok pending))), .proceed]

theorem overlap_accounts : Overlap (manager accounts) false (payload accounts)
    (stale accounts (counting 3 3)) (overlapped accounts (counting 3 3)) (sent accounts) where
  steps := by decide +kernel
  ran := run?_runs (by decide +kernel)
  refreshed := ⟨_, rfl⟩
  paid := rfl

theorem mem_recent_account_iff_stale :
    ¬ { sent accounts with status := .unconfirmed } ∈
      (overlapped accounts (counting 3 3)).manager.wallet.recent := by
  rw [overlap_accounts.mem_recent_account_iff rfl (by decide +kernel), not_not]
  exact ⟨"AB", _, _, rfl, rfl⟩

theorem stale_counts_confirm :
    ¬ ∀ (m : Manager) (forced : Bool) (payload : Payload) (actions : List (Moment × Action))
        (s : Session) (sent : Transaction),
      (∃ c, m.chain = .account c) → Overlap m forced payload actions s sent →
      m.wallet.recent.knowsHashOf sent = false →
      (Session.both m forced payload).ReadsFirst actions →
        { sent with status := .unconfirmed } ∈ s.manager.wallet.recent := by
  intro always
  have pending := always _ _ _ _ _ _ ⟨_, rfl⟩ overlap_accounts (by decide +kernel)
    (readsFirst_stale (by decide +kernel) rfl)
  revert pending
  decide +kernel

end Sample

/-- On a chain of outputs the payment is there, and pending, unless a view without any transaction
and with nothing pending was written after it. -/
theorem Overlap.mem_recent_utxo_iff {m : Manager} {forced : Bool} {payload : Payload}
    {actions : List (Moment × Action)} {s : Session} {sent : Transaction} {c : UtxoChain}
    (chain : m.chain = .utxo c)
    (overlap : Overlap m forced payload actions s sent)
    (unknown : m.wallet.recent.knowsHashOf sent = false)
    (silent : ∀ info date,
      .commit (.utxo info) date ∈ (Session.both m forced payload).writes actions →
        ∀ report ∈ info.history, sent.hasHash report.hash = false) :
    { sent with status := .unconfirmed } ∈ s.manager.wallet.recent ↔
      ¬ ∃ hash info date,
        (Session.both m forced payload).writes actions =
            [.record payload hash, .commit (.utxo info) date] ∧
          info.history = [] ∧ info.hasUnconfirmed = some false := by
  have outputs (update : Update) (date : Timestamp)
      (written : .commit update date ∈ (Session.both m forced payload).writes actions) :
      ∃ info, update = .utxo info := by
    cases update with
    | utxo info => exact ⟨info, rfl⟩
    | account told =>
      obtain ⟨_, other⟩ := (overlap.brings written).account
      cases chain.symm.trans other
  have general := overlap.mem_recent_iff unknown fun update date written => by
    obtain ⟨info, rfl⟩ := outputs update date written
    rintro ⟨report, member, same⟩
    rw [silent info date written report member] at same
    contradiction
  rw [general]
  refine not_congr ⟨?_, ?_⟩
  · rintro ⟨hash, update, date, order, settles⟩
    obtain ⟨info, rfl⟩ := outputs update date (by simp [order])
    exact ⟨hash, info, date, order, settles⟩
  · rintro ⟨hash, info, date, order, settled⟩
    exact ⟨hash, .utxo info, date, order, settled⟩

namespace Sample

theorem overlap_outputs : Overlap (manager outputs) false (payload outputs)
    (stale outputs (reading .empty)) (overlapped outputs (reading .empty)) (sent outputs) where
  steps := by decide +kernel
  ran := run?_runs (by decide +kernel)
  refreshed := ⟨_, rfl⟩
  paid := rfl

theorem silent_outputs (info : AddressInfo) (date : Timestamp)
    (written : .commit (.utxo info) date ∈
      (Session.both (manager outputs) false (payload outputs)).writes
        (stale outputs (reading .empty))) :
    ∀ report ∈ info.history, (sent outputs).hasHash report.hash = false := by
  have order : (Session.both (manager outputs) false (payload outputs)).writes
      (stale outputs (reading .empty)) =
        [.record (payload outputs) "AB", .commit (.utxo .empty) ⟨0, 0⟩] := rfl
  rw [order, List.mem_pair] at written
  rcases written with other | same
  · cases other
  · cases same
    intro report member
    cases member

theorem mem_recent_utxo_iff_stale :
    ¬ { sent outputs with status := .unconfirmed } ∈
      (overlapped outputs (reading .empty)).manager.wallet.recent := by
  rw [overlap_outputs.mem_recent_utxo_iff rfl (by decide +kernel) silent_outputs, not_not]
  exact ⟨"AB", _, _, rfl, rfl, rfl⟩

theorem stale_view_clears :
    ¬ ∀ (m : Manager) (forced : Bool) (payload : Payload) (actions : List (Moment × Action))
        (s : Session) (sent : Transaction),
      (∃ c, m.chain = .utxo c) → Overlap m forced payload actions s sent →
      m.wallet.recent.knowsHashOf sent = false →
      (Session.both m forced payload).ReadsFirst actions →
      (∀ info date,
        .commit (.utxo info) date ∈ (Session.both m forced payload).writes actions →
          ∀ report ∈ info.history, sent.hasHash report.hash = false) →
        { sent with status := .unconfirmed } ∈ s.manager.wallet.recent := by
  intro always
  have pending := always _ _ _ _ _ _ ⟨_, rfl⟩ overlap_outputs (by decide +kernel)
    (readsFirst_stale (by decide +kernel) rfl) silent_outputs
  revert pending
  decide +kernel

end Sample

end CoinWallet
