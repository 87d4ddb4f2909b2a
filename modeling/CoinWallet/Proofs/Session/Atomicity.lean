import CoinWallet.Proofs.Session.Action
import CoinWallet.Proofs.Session.History
import CoinWallet.Proofs.Session.Turn

set_option autoImplicit false

namespace CoinWallet

namespace Call

def changesNothing : Outcome ManagerError Result → Bool
  | .error _ | .ok (.refreshed .skipped) | .ok (.offered _) | .ok .counted => true
  | .ok (.refreshed .executed) | .ok (.sent _) | .ok (.found _) => false

-- the call has made its change, or is about to note the time of it
def hasChanged : Call → Bool
  | refresh (.leaving r) | refresh (.left r) => r.isOk
  | send (.leaving r) | send (.left r) => r.isOk
  | call =>
    match call.result? with
    | some r => !changesNothing r
    | none => false

theorem hasChanged_of_result? {call : Call} {r : Outcome ManagerError Result}
    (ended : call.result? = some r) (idle : changesNothing r = true) :
    call.hasChanged = false := by
  unfold hasChanged
  split
  · cases ended
  · cases ended
  · cases ended
  · cases ended
  · simp [ended, idle]

end Call

-- the same but for the cursor, the lines, the phases and the shutdown
structure Manager.Untouched (m m' : Manager) : Prop where
  chain : m'.chain = m.chain
  builder : m'.builder = m.builder
  wallet : m'.wallet = m.wallet
  window : m'.debouncer.window = m.debouncer.window
  lastCompleted : m'.debouncer.lastCompleted = m.debouncer.lastCompleted

namespace Manager.Untouched

variable {m m' m'' : Manager}

theorem refl (m : Manager) : m.Untouched m := ⟨rfl, rfl, rfl, rfl, rfl⟩

theorem trans (first : m.Untouched m') (last : m'.Untouched m'') : m.Untouched m'' where
  chain := last.chain.trans first.chain
  builder := last.builder.trans first.builder
  wallet := last.wallet.trans first.wallet
  window := last.window.trans first.window
  lastCompleted := last.lastCompleted.trans first.lastCompleted

theorem eq_of_atRest (same : m.Untouched m') (before : m.AtRest) (after : m'.AtRest) :
    m' = { m with cursor := m'.cursor, isShutDown := m'.isShutDown } := by
  have refresh := And.intro (before .refresh) (after .refresh)
  have send := And.intro (before .send) (after .send)
  obtain ⟨_, _, _, _, ⟨_, _, ⟨_⟩⟩, ⟨_⟩, _, _, _⟩ := m
  obtain ⟨_, _, _, _, ⟨_, _, ⟨_⟩⟩, ⟨_⟩, _, _, _⟩ := m'
  obtain ⟨rfl, rfl, rfl, rfl, rfl⟩ := same
  simp only [lane, bne_eq_false_iff_eq] at refresh send
  obtain ⟨⟨rfl, rfl⟩, rfl, rfl⟩ := refresh
  obtain ⟨⟨rfl, rfl⟩, rfl, rfl⟩ := send
  rfl

end Manager.Untouched

variable {m m' : Manager} {now : Moment} {id : CallId} {event : Event}

theorem Refresh.Step.unchanged {r r' : Refresh} (step : Step m now id event r m' r')
    (unchanged : (Call.refresh r').hasChanged = false) :
    (Call.refresh r).hasChanged = false ∧ m'.wallet = m.wallet ∧
      m'.debouncer.lastCompleted = m.debouncer.lastCompleted := by
  cases step with
  | commit => cases unchanged
  | @leave r =>
    cases r with
    | ok _ => cases unchanged
    | error _ => exact ⟨rfl, rfl, rfl⟩
  | request inner =>
    obtain ⟨cursor, rfl⟩ := stepFetch?_eq inner
    exact ⟨rfl, rfl, rfl⟩
  | idle => exact ⟨unchanged, rfl, rfl⟩
  | _ => exact ⟨rfl, rfl, rfl⟩

theorem Send.Step.unchanged {s s' : Send} (step : Step m id event s m' s')
    (unchanged : (Call.send s').hasChanged = false) :
    (Call.send s).hasChanged = false ∧ m'.wallet = m.wallet ∧
      m'.debouncer.lastCompleted = m.debouncer.lastCompleted := by
  cases step with
  | record => cases unchanged
  | @leave r =>
    cases r with
    | ok _ => cases unchanged
    | error _ => exact ⟨rfl, rfl, rfl⟩
  | request inner =>
    obtain ⟨cursor, rfl⟩ := stepFetch?_eq inner
    exact ⟨rfl, rfl, rfl⟩
  | idle => exact ⟨unchanged, rfl, rfl⟩
  | _ => exact ⟨rfl, rfl, rfl⟩

@[simp] theorem Call.hasChanged_fee (i : FeeInquiry) : (fee i).hasChanged = false := by
  cases i with
  | finished r => cases r <;> rfl
  | _ => rfl

@[simp] theorem Call.hasChanged_signatureCount (i : CountInquiry) :
    (signatureCount i).hasChanged = false := by
  cases i with
  | finished r => cases r <;> rfl
  | _ => rfl

-- a change is never taken back, so a call that has made none in the end has made none before
theorem Call.step?_untouched {call call' : Call}
    (moved : call.step? m now id event = some (m', call')) (unchanged : call'.hasChanged = false) :
    call.hasChanged = false ∧ m.Untouched m' := by
  have kept := step?_kept moved
  suffices before : call.hasChanged = false ∧ m'.wallet = m.wallet ∧
      m'.debouncer.lastCompleted = m.debouncer.lastCompleted from
    ⟨before.1, kept.chain, kept.builder, before.2.1, kept.window, before.2.2⟩
  cases step_of_step? moved with
  | refresh step => exact step.unchanged unchanged
  | send step => exact step.unchanged unchanged
  | fee step =>
    obtain ⟨cursor, rfl⟩ := step.manager_eq
    exact ⟨hasChanged_fee _, rfl, rfl⟩
  | signatureCount step =>
    obtain ⟨cursor, rfl⟩ := step.manager_eq
    exact ⟨hasChanged_signatureCount _, rfl, rfl⟩
  | tokens step =>
    cases step with
    | adopt => cases unchanged
    | _ => exact ⟨rfl, rfl, rfl⟩

namespace Session

theorem run?_of_last {old : List Call} {call : Call} {actions : List (Moment × Action)}
    {s' : Session}
    (alone : ∀ entry ∈ actions, entry.2 = .shutDown ∨ ∃ event, entry.2 = .step old.length event)
    (ran : run? ⟨m, old ++ [call]⟩ actions = some s') :
    ∃ m' call', s' = ⟨m', old ++ [call']⟩ ∧
      (call'.hasChanged = false → call.hasChanged = false ∧ m.Untouched m') := by
  induction actions generalizing m call with
  | nil =>
    cases ran
    exact ⟨m, call, rfl, fun unchanged => ⟨unchanged, .refl m⟩⟩
  | cons head rest ih =>
    obtain ⟨now, action⟩ := head
    obtain ⟨next, moved, ran⟩ := run?_cons ran
    have others := fun entry member => alone entry (List.mem_cons_of_mem _ member)
    rcases alone (now, action) List.mem_cons_self with rfl | ⟨event, rfl⟩
    next =>
      cases moved
      obtain ⟨m', call', result, untouched⟩ := ih others ran
      refine ⟨m', call', result, fun unchanged => ?_⟩
      obtain ⟨before, same⟩ := untouched unchanged
      have down : m.Untouched m.shutDown := ⟨rfl, rfl, rfl, rfl, rfl⟩
      exact ⟨before, down.trans same⟩
    next =>
      obtain ⟨_, middle, m', found, inner, rfl⟩ := step?_eq_some moved
      have last : (old ++ [call])[old.length]? = some call := by simp
      cases found.symm.trans last
      have replaced : (old ++ [call]).set old.length middle = old ++ [middle] := by simp
      rw [replaced] at ran
      obtain ⟨m'', call', result, untouched⟩ := ih others ran
      refine ⟨m'', call', result, fun unchanged => ?_⟩
      obtain ⟨still, same⟩ := untouched unchanged
      obtain ⟨before, step⟩ := Call.step?_untouched inner still
      exact ⟨before, step.trans same⟩

/-- A call that no other one overlaps, and that fails or only looks: the manager is as before it,
but for the cursor, whatever the call was told and how far it got. -/
theorem manager_of_alone {s s' : Session} {demand : Demand} {made : Moment}
    {actions : List (Moment × Action)} {r : Outcome ManagerError Call.Result}
    (isOver : s.Over) (rest : s.manager.AtRest)
    (alone : ∀ entry ∈ actions,
      entry.2 = .shutDown ∨ ∃ event, entry.2 = .step s.calls.length event)
    (ran : s.run? ((made, .make demand) :: actions) = some s')
    (ended : (s'.calls[s.calls.length]?).bind Call.result? = some r)
    (idle : Call.changesNothing r = true) :
    ∃ cursor, s'.manager =
      { s.manager with
        cursor := cursor
        isShutDown := s.manager.isShutDown || actions.any fun entry => entry.2.shutsDown } := by
  have down := run?_isShutDown ran
  have lined := run?_lined (isOver.lined rest) ran
  obtain ⟨next, moved, ran⟩ := run?_cons ran
  cases moved
  obtain ⟨m', call', rfl, untouched⟩ := run?_of_last alone ran
  have result : call'.result? = some r := by simpa using ended
  have ends : Over ⟨m', s.calls ++ [call']⟩ := by
    simpa [Over, result, or_imp, forall_and] using isOver
  have same := (untouched (Call.hasChanged_of_result? result idle)).2
  have whole := same.eq_of_atRest rest (ends.atRest lined)
  rw [down] at whole
  exact ⟨m'.cursor, whole⟩

end Session

namespace Sample

def abandoning (chain : Chain) : List (Moment × Action) :=
  Session.stepsOf 0 (timed ((paying chain "AB").take 8)) ++
    (moment, .shutDown) :: Session.stepsOf 0 (timed [.cancel, .proceed, .proceed])

theorem manager_of_alone_cancelled :
    ∃ s' cursor,
      Session.run? ⟨manager outputs, []⟩
        ((moment, .make (.send (payload outputs))) :: abandoning outputs) = some s' ∧
      s'.manager = { manager outputs with cursor := cursor, isShutDown := true } := by
  have ran : Session.run? ⟨manager outputs, []⟩
      ((moment, .make (.send (payload outputs))) :: abandoning outputs) = some (runs _ _) :=
    run?_runs (by decide +kernel)
  have made : Manager.new (manager outputs).wallet outputs builder 0 = .ok (manager outputs) :=
    if_pos rfl
  have rest : (manager outputs).AtRest := Manager.atRest_of_new made
  have isOver : Session.Over ⟨manager outputs, []⟩ := fun call member => by cases member
  have alone : ∀ entry ∈ abandoning outputs,
      entry.2 = .shutDown ∨ ∃ event, entry.2 = .step 0 event := by
    have steps (events : List (Moment × Event)) :
        ∀ entry ∈ Session.stepsOf 0 events, ∃ event, entry.2 = .step 0 event := by
      intro entry member
      obtain ⟨⟨now, event⟩, _, rfl⟩ := List.mem_map.mp member
      exact ⟨event, rfl⟩
    intro entry member
    rcases List.mem_append.mp member with before | after
    · exact .inr (steps _ entry before)
    · rcases List.mem_cons.mp after with rfl | after
      · exact .inl rfl
      · exact .inr (steps _ entry after)
  obtain ⟨cursor, same⟩ :=
    Session.manager_of_alone (r := .fail .cancelled) isOver rest alone ran rfl rfl
  exact ⟨_, cursor, ran, same⟩

end Sample

end CoinWallet
