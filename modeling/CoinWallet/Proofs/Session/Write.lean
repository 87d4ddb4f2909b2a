import CoinWallet.Proofs.Session.Step

set_option autoImplicit false

namespace CoinWallet

-- a change of the wallet that is made at once
inductive Write
  | commit (update : Update) (now : Timestamp)
  | record (payload : Payload) (hash : String)
  | adopt (tokens : List (Token × Decimal))
  | track (t : Token)
  | untrack (t : Token)

def Write.apply (w : Wallet) : Write → Wallet
  | commit update now => update.commit w now
  | record payload hash => w.recordOutgoing (payload.sent hash)
  | adopt tokens => Account.adopt w tokens
  | track t => w.addToken t
  | untrack t => w.removeToken t

def Wallet.after (w : Wallet) (writes : List Write) : Wallet :=
  writes.foldl Write.apply w

@[simp] theorem Wallet.after_nil (w : Wallet) : w.after [] = w := rfl

@[simp] theorem Wallet.after_cons (w : Wallet) (x : Write) (writes : List Write) :
    w.after (x :: writes) = (x.apply w).after writes := rfl

theorem Wallet.after_append (w : Wallet) (first last : List Write) :
    w.after (first ++ last) = (w.after first).after last :=
  List.foldl_append

namespace Wallet

theorem addresses_setToken (w : Wallet) (t : Token) (value : Decimal) :
    (w.setToken t value).addresses = w.addresses := by
  simp only [setToken, addToken]
  split <;> rfl

theorem addresses_foldl {α : Type} {f : Wallet → α → Wallet}
    (kept : ∀ w a, (f w a).addresses = w.addresses) (w : Wallet) (as : List α) :
    (as.foldl f w).addresses = w.addresses := by
  induction as generalizing w with
  | nil => rfl
  | cons a rest ih => exact (ih (f w a)).trans (kept w a)

theorem addresses_apply (w : Wallet) (x : Write) : (x.apply w).addresses = w.addresses := by
  cases x with
  | commit update now =>
    cases update with
    | utxo info =>
      simp only [Write.apply, Update.commit, Utxo.commit, Utxo.commitHistory]
      repeat' split
      all_goals rfl
    | account update =>
      have tokens := addresses_foldl
        (f := fun w (entry : Token × Decimal) =>
          if w.tracks entry.1 then w.setToken entry.1 entry.2 else w)
        (fun w entry => by
          split
          · exact addresses_setToken w _ _
          · rfl)
        (w.setCoin update.balance) update.tokens
      simp only [Write.apply, Update.commit, Account.commit]
      split <;> exact tokens
  | record payload hash => rfl
  | adopt tokens => exact addresses_foldl (fun w entry => addresses_setToken w _ _) w tokens
  | track t =>
    simp only [Write.apply, addToken]
    split <;> rfl
  | untrack t => rfl

theorem addresses_after (w : Wallet) (writes : List Write) : (w.after writes).addresses = w.addresses :=
  addresses_foldl addresses_apply w writes

end Wallet

namespace Call

def writes (now : Moment) : Event → Call → List Write
  | .proceed, refresh (.fetched update) => [.commit update now.date]
  | .proceed, send (.accepted payload hash) => [.record payload hash]
  | .proceed, tokens (.listed found) => [.adopt found]
  | _, _ => []

-- how often the call may still write
def room : Call → Nat
  | refresh (.leaving _) | refresh (.left _) | refresh (.finished _) => 0
  | send (.leaving _) | send (.left _) | send (.finished _) => 0
  | tokens (.finished _) | fee _ | signatureCount _ => 0
  | _ => 1

theorem room_le (call : Call) : call.room ≤ 1 := by
  unfold room
  split <;> omega

end Call

theorem stepFetch?_eq {α : Type} {m m' : Manager} {fetch next : Fetch α} {member : Nat}
    {event : Fetch.Event} (moved : m.stepFetch? fetch member event = some (m', next)) :
    ∃ cursor, m' = { m with cursor := cursor } := by
  simp only [Manager.stepFetch?, Option.map_eq_some_iff, Prod.mk.injEq] at moved
  obtain ⟨⟨_, cursor⟩, _, rfl, _⟩ := moved
  exact ⟨cursor, rfl⟩

/-- One step of a call: what it leaves of the wallet and of the chain, and how often the call may
write then. -/
structure Writes (m m' : Manager) (call call' : Call) (writes : List Write) : Prop where
  wallet : m'.wallet = m.wallet.after writes
  chain : m'.chain = m.chain
  room : writes.length + call'.room ≤ call.room

theorem Writes.of_cursor {m m' : Manager} {call call' : Call}
    (moved : ∃ cursor, m' = { m with cursor := cursor }) (room : call'.room ≤ call.room) :
    Writes m m' call call' [] := by
  obtain ⟨cursor, rfl⟩ := moved
  exact ⟨rfl, rfl, by simpa using room⟩

theorem Refresh.Step.writes {m m' : Manager} {now : Moment} {id : CallId} {event : Event}
    {r r' : Refresh} (step : Step m now id event r m' r') :
    Writes m m' (.refresh r) (.refresh r') (Call.writes now event (.refresh r)) := by
  cases step with
  | request inner => exact .of_cursor (stepFetch?_eq inner) (Nat.le_refl _)
  | _ => exact ⟨rfl, rfl, by simp [Call.writes, Call.room]⟩

theorem Send.Step.writes {m m' : Manager} {now : Moment} {id : CallId} {event : Event}
    {s s' : Send} (step : Step m id event s m' s') :
    Writes m m' (.send s) (.send s') (Call.writes now event (.send s)) := by
  cases step with
  | request inner => exact .of_cursor (stepFetch?_eq inner) (Nat.le_refl _)
  | _ => exact ⟨rfl, rfl, by simp [Call.writes, Call.room]⟩

theorem FeeInquiry.Step.manager_eq {m m' : Manager} {now : Moment} {event : Event}
    {i i' : FeeInquiry} (step : Step m now event i m' i') :
    ∃ cursor, m' = { m with cursor := cursor } := by
  cases step with
  | request inner => exact stepFetch?_eq inner
  | _ => exact ⟨m.cursor, rfl⟩

theorem CountInquiry.Step.manager_eq {m m' : Manager} {event : Event} {i i' : CountInquiry}
    (step : Step m event i m' i') : ∃ cursor, m' = { m with cursor := cursor } := by
  cases step with
  | request inner => exact stepFetch?_eq inner
  | _ => exact ⟨m.cursor, rfl⟩

theorem TokenSearch.Step.manager_eq {m m' : Manager} {event : Event} {i i' : TokenSearch}
    (step : Step m event i m' i') : ∃ wallet, m' = { m with wallet := wallet } := by
  cases step <;> exact ⟨_, rfl⟩

theorem Call.step?_writes {m m' : Manager} {now : Moment} {id : CallId} {event : Event}
    {call call' : Call} (moved : call.step? m now id event = some (m', call')) :
    Writes m m' call call' (call.writes now event) := by
  cases step_of_step? moved with
  | refresh step => exact step.writes
  | send step => exact step.writes
  | fee step => cases event <;> exact .of_cursor step.manager_eq (by simp [room])
  | signatureCount step => cases event <;> exact .of_cursor step.manager_eq (by simp [room])
  | tokens step => cases step <;> exact ⟨rfl, rfl, by simp [Call.writes, room]⟩

namespace Session

theorem step?_eq_some {s s' : Session} {now : Moment} {id : CallId} {event : Event}
    (moved : s.step? now id event = some s') :
    ∃ call call' m', s.calls[id]? = some call ∧
      call.step? s.manager now id event = some (m', call') ∧
      s' = ⟨m', s.calls.set id call'⟩ := by
  simp only [step?, Option.bind_eq_bind, Option.bind_eq_some_iff] at moved
  obtain ⟨call, found, ⟨m', call'⟩, inner, result⟩ := moved
  cases result
  exact ⟨call, call', m', found, inner, rfl⟩

def actWrites (s : Session) (now : Moment) : Action → List Write
  | .step id event =>
    match s.calls[id]? with
    | some call => call.writes now event
    | none => []
  | .addToken t => [.track t]
  | .removeToken t => [.untrack t]
  | .make _ | .shutDown => []

def writes (s : Session) : List (Moment × Action) → List Write
  | [] => []
  | (now, action) :: rest =>
    match s.act? now action with
    | some next => s.actWrites now action ++ next.writes rest
    | none => []

theorem run?_cons {s s' : Session} {now : Moment} {action : Action}
    {rest : List (Moment × Action)} (ran : s.run? ((now, action) :: rest) = some s') :
    ∃ next, s.act? now action = some next ∧ next.run? rest = some s' := by
  simpa [run?, Option.bind_eq_some_iff] using ran

theorem writes_cons {s next : Session} {now : Moment} {action : Action}
    (moved : s.act? now action = some next) (rest : List (Moment × Action)) :
    s.writes ((now, action) :: rest) = s.actWrites now action ++ next.writes rest := by
  simp [writes, moved]

theorem act?_wallet {s s' : Session} {now : Moment} {action : Action}
    (moved : s.act? now action = some s') :
    s'.manager.wallet = s.manager.wallet.after (s.actWrites now action) := by
  cases action with
  | step id event =>
    obtain ⟨call, call', m', found, inner, rfl⟩ := step?_eq_some moved
    simpa [actWrites, found] using (Call.step?_writes inner).wallet
  | _ =>
    cases moved
    rfl

theorem act?_chain {s s' : Session} {now : Moment} {action : Action}
    (moved : s.act? now action = some s') : s'.manager.chain = s.manager.chain := by
  cases action with
  | step id event =>
    obtain ⟨call, call', m', found, inner, rfl⟩ := step?_eq_some moved
    exact (Call.step?_writes inner).chain
  | _ =>
    cases moved
    rfl

theorem run?_kept {P : Session → Prop} {actions : List (Moment × Action)}
    (kept : ∀ now action s s', (now, action) ∈ actions → P s → s.act? now action = some s' → P s')
    {s s' : Session} (start : P s) (ran : s.run? actions = some s') : P s' := by
  induction actions generalizing s with
  | nil =>
    cases ran
    exact start
  | cons head rest ih =>
    obtain ⟨now, action⟩ := head
    obtain ⟨next, moved, ran⟩ := run?_cons ran
    have first := kept now action s next List.mem_cons_self start moved
    exact ih (fun now action s s' later => kept now action s s' (List.mem_cons_of_mem _ later)) first ran

theorem run?_chain {s s' : Session} {actions : List (Moment × Action)}
    (ran : s.run? actions = some s') : s'.manager.chain = s.manager.chain :=
  run?_kept (P := fun other => other.manager.chain = s.manager.chain)
    (fun _ _ _ _ _ same moved => (act?_chain moved).trans same) rfl ran

theorem run?_wallet {s s' : Session} {actions : List (Moment × Action)}
    (ran : s.run? actions = some s') :
    s'.manager.wallet = s.manager.wallet.after (s.writes actions) := by
  induction actions generalizing s with
  | nil =>
    cases ran
    rfl
  | cons head rest ih =>
    obtain ⟨now, action⟩ := head
    obtain ⟨next, moved, ran⟩ := run?_cons ran
    rw [writes_cons moved, Wallet.after_append, ← act?_wallet moved]
    exact ih ran

def stepsOf (id : CallId) (events : List (Moment × Event)) : List (Moment × Action) :=
  events.map fun (now, event) => (now, .step id event)

theorem writes_stepsOf_length_le {s s' : Session} {id : CallId} {events : List (Moment × Event)}
    (ran : s.run? (stepsOf id events) = some s') : (s.writes (stepsOf id events)).length ≤ 1 := by
  have bounded (events : List (Moment × Event)) (s : Session) (call : Call)
      (found : s.calls[id]? = some call) (ran : s.run? (stepsOf id events) = some s') :
      (s.writes (stepsOf id events)).length ≤ call.room := by
    induction events generalizing s call with
    | nil => simp [stepsOf, writes]
    | cons head rest ih =>
      obtain ⟨now, event⟩ := head
      obtain ⟨next, moved, ran⟩ := run?_cons ran
      obtain ⟨call, call', m', present, inner, rfl⟩ := step?_eq_some moved
      cases found.symm.trans present
      have inside := (List.getElem?_eq_some_iff.mp found).1
      have later : (s.calls.set id call')[id]? = some call' := by simp [inside]
      have step := (Call.step?_writes inner).room
      have tail := ih _ call' later ran
      have first : s.actWrites now (.step id event) = call.writes now event := by
        simp [actWrites, found]
      have whole := congrArg List.length (writes_cons moved (stepsOf id rest))
      rw [List.length_append, first] at whole
      change (s.writes ((now, .step id event) :: stepsOf id rest)).length ≤ call.room
      omega
  cases events with
  | nil => simp [stepsOf, writes]
  | cons head rest =>
    obtain ⟨now, event⟩ := head
    obtain ⟨next, moved, _⟩ := run?_cons ran
    obtain ⟨call, _, _, found, _, _⟩ := step?_eq_some moved
    exact Nat.le_trans (bounded _ s call found ran) call.room_le

end Session

end CoinWallet
