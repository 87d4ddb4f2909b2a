import CoinWallet.Proofs.Session.Write

set_option autoImplicit false

namespace CoinWallet

variable {m m' : Manager} {now : Moment} {id : CallId} {event : Event} {call call' : Call}

structure Manager.Kept (m m' : Manager) : Prop where
  chain : m'.chain = m.chain
  builder : m'.builder = m.builder
  isShutDown : m'.isShutDown = m.isShutDown
  window : m'.debouncer.window = m.debouncer.window

theorem Manager.Kept.of_cursor (moved : ∃ cursor, m' = { m with cursor := cursor }) :
    m.Kept m' := by
  obtain ⟨cursor, rfl⟩ := moved
  exact ⟨rfl, rfl, rfl, rfl⟩

theorem Call.step?_kept {call call' : Call}
    (moved : call.step? m now id event = some (m', call')) : m.Kept m' := by
  cases step_of_step? moved with
  | refresh step =>
    cases step with
    | request inner => exact .of_cursor (stepFetch?_eq inner)
    | _ => exact ⟨rfl, rfl, rfl, rfl⟩
  | send step =>
    cases step with
    | request inner => exact .of_cursor (stepFetch?_eq inner)
    | _ => exact ⟨rfl, rfl, rfl, rfl⟩
  | fee step => exact .of_cursor step.manager_eq
  | signatureCount step => exact .of_cursor step.manager_eq
  | tokens step =>
    obtain ⟨wallet, rfl⟩ := step.manager_eq
    exact ⟨rfl, rfl, rfl, rfl⟩

def Action.shutsDown : Action → Bool
  | .shutDown => true
  | _ => false

def Action.isStepOf (id : CallId) : Action → Bool
  | .step other _ => other = id
  | _ => false

namespace Session

variable {s s' : Session} {action : Action}

theorem act?_isShutDown (moved : s.act? now action = some s') :
    s'.manager.isShutDown = (s.manager.isShutDown || action.shutsDown) := by
  cases action with
  | step id event =>
    obtain ⟨call, call', m', found, inner, rfl⟩ := step?_eq_some moved
    simpa [Action.shutsDown] using (Call.step?_kept inner).isShutDown
  | shutDown =>
    cases moved
    exact (Bool.or_true _).symm
  | _ =>
    cases moved
    exact (Bool.or_false _).symm

theorem run?_isShutDown {actions : List (Moment × Action)} (ran : s.run? actions = some s') :
    s'.manager.isShutDown =
      (s.manager.isShutDown || actions.any fun entry => entry.2.shutsDown) := by
  induction actions generalizing s with
  | nil =>
    cases ran
    exact (Bool.or_false _).symm
  | cons head rest ih =>
    obtain ⟨now, action⟩ := head
    obtain ⟨next, moved, ran⟩ := run?_cons ran
    rw [ih ran, act?_isShutDown moved, List.any_cons, Bool.or_assoc]

theorem act?_builder (moved : s.act? now action = some s') :
    s'.manager.builder = s.manager.builder := by
  cases action with
  | step id event =>
    obtain ⟨call, call', m', found, inner, rfl⟩ := step?_eq_some moved
    exact (Call.step?_kept inner).builder
  | _ =>
    cases moved
    rfl

theorem forall_found_iff {P : Call → Prop} (found : s.calls[id]? = some call) :
    (∀ other, s.calls[id]? = some other → P other) ↔ P call := by
  simp [found]

-- where a call comes from that is there after the action
inductive Origin (s : Session) (now : Moment) (m' : Manager) (id : CallId) (call' : Call) :
    Action → Prop
  | made {demand : Demand} (fresh : s.calls[id]? = none) (same : call' = demand.call) :
    Origin s now m' id call' (.make demand)
  | stayed {action : Action} (found : s.calls[id]? = some call')
      (apart : action.isStepOf id = false) : Origin s now m' id call' action
  | stepped {event : Event} {call : Call} (found : s.calls[id]? = some call)
      (moved : call.step? s.manager now id event = some (m', call')) :
    Origin s now m' id call' (.step id event)

theorem act?_origin (moved : s.act? now action = some s') (found : s'.calls[id]? = some call') :
    Origin s now s'.manager id call' action := by
  cases action with
  | make demand =>
    cases moved
    by_cases old : id < s.calls.length
    next =>
      refine .stayed ?_ rfl
      rwa [make, List.getElem?_append_left old] at found
    next =>
      have fresh := Nat.le_of_not_lt old
      refine .made (List.getElem?_eq_none fresh) ?_
      rw [make, List.getElem?_append_right fresh, List.getElem?_singleton] at found
      split at found <;> cases found
      rfl
  | step other event =>
    obtain ⟨call, next, m', there, inner, rfl⟩ := step?_eq_some moved
    by_cases same : other = id
    next =>
      subst same
      have inside := (List.getElem?_eq_some_iff.mp there).1
      rw [List.getElem?_set_self inside] at found
      cases found
      exact .stepped there inner
    next =>
      rw [List.getElem?_set_ne same] at found
      exact .stayed found (by simp [Action.isStepOf, same])
  | _ =>
    cases moved
    exact .stayed found rfl

-- what holds of a call when it is made, and is kept by its steps
theorem act?_forall {P : Call → Prop} (made : ∀ demand : Demand, P demand.call)
    (kept : ∀ id event call call' m', action = .step id event → call ∈ s.calls → P call →
      call.step? s.manager now id event = some (m', call') → P call')
    (all : ∀ call ∈ s.calls, P call) (moved : s.act? now action = some s') :
    ∀ call ∈ s'.calls, P call := by
  intro call' member
  obtain ⟨id, found⟩ := List.mem_iff_getElem?.mp member
  cases act?_origin moved found with
  | made _ same => exact same ▸ made _
  | stayed before _ => exact all _ (List.mem_of_getElem? before)
  | stepped before inner =>
    have present := List.mem_of_getElem? before
    exact kept _ _ _ _ _ rfl present (all _ present) inner

theorem fetched_of_mem_actWrites {update : Update} {date : Timestamp}
    (written : .commit update date ∈ s.actWrites now action) :
    .refresh (.fetched update) ∈ s.calls := by
  cases action with
  | step id event =>
    simp only [actWrites] at written
    split at written
    next call found =>
      unfold Call.writes at written
      split at written <;> simp at written
      rw [written.1]
      exact List.mem_of_getElem? found
    next => cases written
  | _ => simp [actWrites] at written

theorem exists_fetched_of_mem_writes {actions : List (Moment × Action)} {update : Update}
    {date : Timestamp} (ran : s.run? actions = some s')
    (written : .commit update date ∈ s.writes actions) :
    ∃ before after middle, actions = before ++ after ∧ s.run? before = some middle ∧
      .refresh (.fetched update) ∈ middle.calls := by
  induction actions generalizing s with
  | nil => cases written
  | cons head rest ih =>
    obtain ⟨now, action⟩ := head
    obtain ⟨next, moved, ran⟩ := run?_cons ran
    rw [writes_cons moved, List.mem_append] at written
    rcases written with here | later
    · exact ⟨[], _, s, rfl, rfl, fetched_of_mem_actWrites here⟩
    · obtain ⟨before, after, middle, rfl, first, held⟩ := ih ran later
      exact ⟨(now, action) :: before, after, middle, rfl, by simpa [run?, moved] using first, held⟩

theorem act?_found (moved : s.act? now action = some s') (found : s.calls[id]? = some call) :
    ∃ call', s'.calls[id]? = some call' := by
  have inside := (List.getElem?_eq_some_iff.mp found).1
  refine ⟨_, List.getElem?_eq_getElem ?_⟩
  cases action with
  | make demand =>
    cases moved
    simp only [make, List.length_append]
    omega
  | step other event =>
    obtain ⟨_, _, _, _, _, rfl⟩ := step?_eq_some moved
    simpa using inside
  | _ =>
    cases moved
    exact inside

-- only its own steps move a call
theorem run?_found_of_apart {actions : List (Moment × Action)}
    (apart : ∀ now action, (now, action) ∈ actions → action.isStepOf id = false)
    (ran : s.run? actions = some s') (found : s.calls[id]? = some call) :
    s'.calls[id]? = some call := by
  refine run?_kept (P := fun other => other.calls[id]? = some call) ?_ found ran
  intro now action before after member found moved
  obtain ⟨call', there⟩ := act?_found moved found
  cases act?_origin moved there with
  | made fresh _ => simp [fresh] at found
  | stayed same _ => rw [there, ← same, found]
  | stepped _ _ => simpa [Action.isStepOf] using apart now _ member

end Session

end CoinWallet
