import CoinWallet.Proofs.Session.Update
import CoinWallet.Proofs.Wallet.Recent

set_option autoImplicit false

namespace CoinWallet

namespace Write

def Clears : Write → Prop
  | commit (.utxo info) _ => info.history = [] ∧ info.hasUnconfirmed = some false
  | _ => False

theorem eq_of_clears {x : Write} (clears : x.Clears) :
    ∃ info now, x = commit (.utxo info) now ∧ info.history = [] ∧
      info.hasUnconfirmed = some false := by
  cases x with
  | commit update now =>
    cases update with
    | utxo info => exact ⟨info, now, rfl, clears⟩
    | account update => cases clears
  | _ => cases clears

theorem recent_of_clears {x : Write} (clears : x.Clears) (w : Wallet) : (x.apply w).recent = [] := by
  obtain ⟨info, now, rfl, silent, settled⟩ := eq_of_clears clears
  have turns := Update.turns_commit w (.utxo info) now
  simp only [apply]
  generalize (Update.commit w (.utxo info) now).recent = new at turns ⊢
  cases turns with
  | reconcile coin reported => exact absurd silent reported
  | place coin silent pending =>
    rw [settled] at pending
    cases pending
  | clear => rfl
  | keep silent vague =>
    rw [settled] at vague
    cases vague

theorem grows {x : Write} (keeps : ¬ x.Clears) (w : Wallet) : w.recent.Grows (x.apply w).recent := by
  cases x with
  | commit update now =>
    have turns := Update.turns_commit w update now
    simp only [apply]
    generalize (update.commit w now).recent = new at turns ⊢
    cases turns with
    | reconcile coin reported => exact History.grows_reconcile _ _
    | place coin silent pending => exact History.grows_addPlaceholder _ _ _
    | clear silent settled => exact absurd ⟨silent, settled⟩ keeps
    | keep silent vague => exact .refl _
    | confirm equal => exact History.grows_confirmAll _
    | wait coin apart => exact History.grows_addPlaceholder _ _ _
  | record payload hash => exact History.grows_recordOutgoing _ _
  | adopt tokens =>
    simp only [apply, Account.recent_adopt]
    exact .refl _
  | track t =>
    simp only [apply, Wallet.recent_addToken]
    exact .refl _
  | untrack t =>
    simp only [apply, Wallet.recent_removeToken]
    exact .refl _

theorem sound {w : Wallet} (sound : w.recent.Sound) (x : Write) : (x.apply w).recent.Sound := by
  cases x with
  | commit update now =>
    have turns := Update.turns_commit w update now
    simp only [apply]
    generalize (update.commit w now).recent = new at turns ⊢
    cases turns with
    | reconcile coin reported =>
      apply sound.reconcile
      intro tx member
      obtain ⟨report, _, rfl⟩ := List.mem_map.mp member
      rfl
    | place coin silent pending => exact sound.addPlaceholder _ _
    | clear silent settled => exact History.sound_nil
    | keep silent vague => exact sound
    | confirm equal => exact sound.confirmAll
    | wait coin apart => exact sound.addPlaceholder _ _
  | record payload hash => exact sound.recordOutgoing rfl
  | adopt tokens => simpa only [apply, Account.recent_adopt] using sound
  | track t => simpa only [apply, Wallet.recent_addToken] using sound
  | untrack t => simpa only [apply, Wallet.recent_removeToken] using sound

end Write

theorem Wallet.sound_after {w : Wallet} (sound : w.recent.Sound) (writes : List Write) :
    (w.after writes).recent.Sound := by
  induction writes generalizing w with
  | nil => exact sound
  | cons x rest ih => exact ih (x.sound sound)

inductive Operation
  | call (made : Moment) (demand : Demand) (events : List (Moment × Event))
  | addToken (now : Moment) (t : Token)
  | removeToken (now : Moment) (t : Token)

def Operation.actions (s : Session) : Operation → List (Moment × Action)
  | call made demand events => (made, .make demand) :: Session.stepsOf s.calls.length events
  | addToken now t => [(now, .addToken t)]
  | removeToken now t => [(now, .removeToken t)]

def Operation.Clears (s : Session) (op : Operation) : Prop :=
  ∃ made forced events info now,
    op = .call made (.refresh forced) events ∧
    (∃ c, s.manager.chain = .utxo c) ∧ s.manager.chain.Brings (.utxo info) ∧
    info.history = [] ∧ info.hasUnconfirmed = some false ∧
    s.writes (op.actions s) = [.commit (.utxo info) now]

def Call.isRefresh : Call → Bool
  | refresh _ => true
  | _ => false

theorem Call.isRefresh_step? {m m' : Manager} {now : Moment} {id : CallId} {event : Event}
    {call call' : Call} (moved : call.step? m now id event = some (m', call')) :
    call'.isRefresh = call.isRefresh := by
  cases step_of_step? moved <;> rfl

theorem Call.isRefresh_of_commit {call : Call} {now : Moment} {event : Event} {update : Update}
    {date : Timestamp} (written : .commit update date ∈ call.writes now event) :
    call.isRefresh = true := by
  unfold writes at written
  split at written <;> simp at written
  rfl

namespace Session

theorem isRefresh_of_commit {s s' : Session} {id : CallId} {call : Call} {update : Update}
    {date : Timestamp} {events : List (Moment × Event)} (found : s.calls[id]? = some call)
    (ran : s.run? (stepsOf id events) = some s')
    (written : .commit update date ∈ s.writes (stepsOf id events)) : call.isRefresh = true := by
  induction events generalizing s call with
  | nil => cases written
  | cons head rest ih =>
    obtain ⟨now, event⟩ := head
    obtain ⟨next, moved, ran⟩ := run?_cons ran
    obtain ⟨call, call', m', present, inner, rfl⟩ := step?_eq_some moved
    cases found.symm.trans present
    change _ ∈ s.writes ((now, .step id event) :: stepsOf id rest) at written
    rw [writes_cons moved, List.mem_append] at written
    rcases written with here | later
    · simp only [actWrites, found] at here
      exact Call.isRefresh_of_commit here
    · have inside := (List.getElem?_eq_some_iff.mp found).1
      rw [← Call.isRefresh_step? inner]
      exact ih (by simp [inside]) ran later

theorem writes_operation_length_le {s s' : Session} {op : Operation}
    (ran : s.run? (op.actions s) = some s') : (s.writes (op.actions s)).length ≤ 1 := by
  cases op with
  | call made demand events =>
    obtain ⟨next, moved, ran⟩ := run?_cons ran
    simp only [Operation.actions, writes_cons moved, actWrites, List.nil_append]
    exact writes_stepsOf_length_le ran
  | addToken now t => simp [Operation.actions, writes, act?, actWrites]
  | removeToken now t => simp [Operation.actions, writes, act?, actWrites]

theorem operation_of_commit {s s' : Session} {op : Operation} {update : Update} {date : Timestamp}
    (ran : s.run? (op.actions s) = some s')
    (written : .commit update date ∈ s.writes (op.actions s)) :
    ∃ made forced events, op = .call made (.refresh forced) events := by
  cases op with
  | call made demand events =>
    obtain ⟨next, moved, ran⟩ := run?_cons ran
    simp only [Operation.actions, writes_cons moved, actWrites, List.nil_append] at written
    cases moved
    have found : (s.make demand).calls[s.calls.length]? = some demand.call := by simp [make]
    have kind := isRefresh_of_commit found ran written
    cases demand with
    | refresh forced => exact ⟨_, forced, events, rfl⟩
    | _ => cases kind
  | addToken now t => simp [Operation.actions, writes, act?, actWrites] at written
  | removeToken now t => simp [Operation.actions, writes, act?, actWrites] at written

/-- In all that a session comes to, whatever the order of its steps, no hash is there twice and at
most one pending entry has none. One more operation adds entries and confirms some, or clears all.
-/
theorem recent_of_run {m : Manager} {earlier : List (Moment × Action)} {s s' : Session}
    {op : Operation} (empty : m.wallet.recent = []) (ran : run? ⟨m, []⟩ earlier = some s)
    (done : s.run? (op.actions s) = some s') :
    s.manager.wallet.recent.Sound ∧ s'.manager.wallet.recent.Sound ∧
      (s.manager.wallet.recent.Grows s'.manager.wallet.recent ∨
        op.Clears s ∧ s'.manager.wallet.recent = []) := by
  have start : m.wallet.recent.Sound := empty ▸ History.sound_nil
  have before : s.manager.wallet.recent.Sound := by
    rw [run?_wallet ran]
    exact Wallet.sound_after start _
  have founded : s.Founded := run?_founded (fun _ member => by cases member) ran
  rw [run?_wallet done]
  refine ⟨before, Wallet.sound_after before _, ?_⟩
  have single := writes_operation_length_le done
  cases written : s.writes (op.actions s) with
  | nil => exact .inl (.refl _)
  | cons x rest =>
    have alone : rest = [] := by
      rw [written, List.length_cons] at single
      exact List.length_eq_zero_iff.mp (by omega)
    subst alone
    by_cases clears : x.Clears
    next =>
      obtain ⟨info, now, rfl, silent, settled⟩ := Write.eq_of_clears clears
      have member : .commit (.utxo info) now ∈ s.writes (op.actions s) := by
        rw [written]
        exact List.mem_singleton.mpr rfl
      obtain ⟨made, forced, events, same⟩ := operation_of_commit done member
      have brought := brings_of_mem_writes founded done member
      exact .inr ⟨⟨made, forced, events, info, now, same, brought.utxo, brought, silent, settled,
        written⟩, Write.recent_of_clears clears _⟩
    next => exact .inl (x.grows clears _)

end Session

namespace Sample

theorem main_ne_nil : ["main"] ≠ [] := by simp

theorem ethereum_usesAccounts : Blockchain.ethereum.usesOutputs = false := rfl

def outputs : Chain :=
  .utxo ⟨.bitcoin, ⟨.zero, .zero, none⟩, ["main"], rfl, main_ne_nil⟩

-- one hash to sign, and the signature is what is broadcast
def builder : Builder where
  buildForSign := fun _ _ => .ok [[]]
  buildForSend := fun _ _ signatures => .ok signatures.flatten

def manager (chain : Chain) : Manager where
  chain := chain
  builder := builder
  wallet := .new ⟨0⟩ chain.blockchain ⟨[], none⟩ [⟨"home", .standard⟩]
  debouncer := { window := 0 }

theorem made (chain : Chain) :
    Manager.new (manager chain).wallet chain builder 0 = .ok (manager chain) :=
  if_pos rfl

def moment : Moment := ⟨0, ⟨0, 0⟩⟩

def payload (chain : Chain) : Payload :=
  ⟨(manager chain).createTransaction (.zeroCoin chain.blockchain) none "shop" moment.date, false⟩

def timed (events : List Event) : List (Moment × Event) :=
  events.map fun event => (moment, event)

def paying (chain : Chain) (hash : String) : List Event :=
  [.proceed, .proceed, .proceed, .proceed, .signed (.ok []), .proceed, .proceed, .request 0 .start,
    .request 0 (.reply (.answering (.broadcast (chain.broadcastText [])) (.ok hash))),
    .proceed, .proceed, .proceed, .proceed]

def reading (info : AddressInfo) : List Event :=
  [.proceed, .proceed, .proceed, .request 0 .start,
    .request 0 (.reply (.answering (.addressInfo "home") (.ok info))), .proceed]

-- a refresh writes what it has read, and is over
def writing : List Event :=
  [.proceed, .proceed, .proceed]

def payment (chain : Chain) (hash : String) : Operation :=
  .call moment (.send (payload chain)) (timed (paying chain hash))

def refresh (info : AddressInfo) : Operation :=
  .call moment (.refresh false) (timed (reading info ++ writing))

def runs (s : Session) (actions : List (Moment × Action)) : Session :=
  (s.run? actions).getD s

theorem run?_runs {s : Session} {actions : List (Moment × Action)}
    (done : (s.run? actions).isSome = true) : s.run? actions = some (runs s actions) := by
  obtain ⟨s', ran⟩ := Option.isSome_iff_exists.mp done
  simp [runs, ran]

-- a refresh drops a payment that the network took before and does not know any more
theorem recent_of_run_cleared :
    ∃ s s' : Session,
      s.manager.wallet.recent.length = 1 ∧ s'.manager.wallet.recent = [] ∧
        s.manager.wallet.recent.Sound ∧ s'.manager.wallet.recent.Sound ∧
        (s.manager.wallet.recent.Grows s'.manager.wallet.recent ∨
          (refresh .empty).Clears s ∧ s'.manager.wallet.recent = []) := by
  let start : Session := ⟨manager outputs, []⟩
  let paid := runs start ((payment outputs "AB").actions start)
  have before : start.run? ((payment outputs "AB").actions start) = some paid :=
    run?_runs (by decide +kernel)
  have after : paid.run? ((refresh .empty).actions paid) =
      some (runs paid ((refresh .empty).actions paid)) :=
    run?_runs (by decide +kernel)
  exact ⟨_, _, by decide +kernel, by decide +kernel, Session.recent_of_run rfl before after⟩

end Sample

end CoinWallet
