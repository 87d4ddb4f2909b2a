import CoinWallet.Proofs.Provider.Progress
import CoinWallet.Proofs.Session.Action
import CoinWallet.Session.Wait

set_option autoImplicit false

namespace CoinWallet

structure Environment where
  clock : List (Moment × Action) → Moment
  provider : List (Moment × Action) → Provider
  index : List (Moment × Action) → Except NetworkError (List (Token × Nat))

namespace Environment

variable (e : Environment)

def Allows (history : List (Moment × Action)) : Event → Prop
  | .proceed => True
  | .request _ event => event.Allowed (e.provider history)
  | .listed r => r = e.index history
  | _ => False

inductive Agrees (id : CallId) : List (Moment × Action) → List (Moment × Action) → Prop
  | nil (history : List (Moment × Action)) : Agrees id history []
  | cons {history rest : List (Moment × Action)} {event : Event} (allowed : e.Allows history event)
    (agrees : Agrees id (history ++ [(e.clock history, .step id event)]) rest) :
    Agrees id history ((e.clock history, .step id event) :: rest)

inductive Ends (id : CallId) : List (Moment × Action) → Manager → Call → Prop
  | ended {history : List (Moment × Action)} {m : Manager} {call : Call}
    {r : Outcome ManagerError Call.Result} (settled : call.result? = some r) : Ends id history m call
  | step {history : List (Moment × Action)} {m m' : Manager} {call call' : Call} (event : Event)
    (allowed : e.Allows history event)
    (moved : call.step? m (e.clock history) id event = some (m', call'))
    (rest : Ends id (history ++ [(e.clock history, .step id event)]) m' call') :
    Ends id history m call

variable {e} {id : CallId} {history : List (Moment × Action)} {m : Manager}

theorem Ends.exists_run {call : Call} (ends : e.Ends id history m call) {s : Session}
    (found : s.calls[id]? = some call) (same : s.manager = m) :
    ∃ actions s' call' r, e.Agrees id history actions ∧ s.run? actions = some s' ∧
      s'.calls[id]? = some call' ∧ call'.result? = some r := by
  induction ends generalizing s with
  | @ended history m call r settled => exact ⟨[], s, call, r, .nil history, rfl, found, settled⟩
  | @step history m m' call call' event allowed moved rest ih =>
    subst same
    have inside := (List.getElem?_eq_some_iff.mp found).1
    have next : s.act? (e.clock history) (.step id event) =
        some { manager := m', calls := s.calls.set id call' } := by
      simp [Session.act?, Session.step?, found, moved]
    have kept : (s.calls.set id call')[id]? = some call' := List.getElem?_set_self inside
    obtain ⟨actions, s', last, r, agrees, ran, there, settled⟩ :=
      @ih ⟨m', s.calls.set id call'⟩ kept rfl
    exact ⟨_, s', last, r, .cons allowed agrees, by simpa [Session.run?, next] using ran, there, settled⟩

theorem ends_of_fetch {α : Type} (wrap : Fetch α → Call)
    (steps : ∀ m now member event fetch,
      (wrap fetch).step? m now id (.request member event) =
        (m.stepFetch? fetch member event).map fun (m, fetch) => (m, wrap fetch))
    (settled : ∀ history m fetch r, fetch.result? = some r → e.Ends id history m (wrap fetch))
    (history : List (Moment × Action)) (m : Manager) (fetch : Fetch α)
    (inside : fetch.attempts.Inside m.chain.providers) : e.Ends id history m (wrap fetch) := by
  cases result : fetch.result? with
  | some r => exact settled history m fetch r result
  | none =>
    obtain ⟨member, event, next, cursor, allowed, moved, still, less⟩ :=
      Fetch.exists_step m.chain.providers_pos inside result (e.provider history) m.cursor
    refine .step (.request member event) allowed ?_
      (ends_of_fetch wrap steps settled _ { m with cursor := cursor } next still)
    rw [steps, Manager.stepFetch?, moved]
    rfl
termination_by fetch.attempts.weight m.chain.providers

theorem ends_leaving (history : List (Moment × Action)) (m : Manager) (r : Outcome ManagerError Unit) :
    e.Ends id history m (.refresh (.leaving r)) := by
  have idle : Call.step? m (e.clock history) id .proceed (.refresh (.leaving r)) =
      some ({ m with updatePhase := .idle }, .refresh (.left r)) := rfl
  refine .step .proceed trivial idle ?_
  generalize { m with updatePhase := UpdatePhase.idle } = m'
  generalize history ++ [(e.clock history, .step id .proceed)] = later
  have done : Call.step? m' (e.clock later) id .proceed (.refresh (.left r)) =
      some ({ m' with debouncer := m'.debouncer.complete id r.isOk (e.clock later).elapsed },
        .refresh (.finished (r.map fun _ => .executed))) := rfl
  exact .step .proceed trivial done (.ended rfl)

theorem ends_fetched (history : List (Moment × Action)) (m : Manager) {fetch : Fetch Update}
    {r : Outcome ManagerError Update} (settled : fetch.result? = some r) :
    e.Ends id history m (.refresh (.asking fetch)) := by
  cases r with
  | ok update =>
    have moved : Call.step? m (e.clock history) id .proceed (.refresh (.asking fetch)) =
        some (m, .refresh (.fetched update)) := by
      simp [Call.step?, Refresh.step?, Refresh.proceed?, settled]
    exact .step .proceed trivial moved (.step .proceed trivial rfl (ends_leaving _ _ _))
  | error fault =>
    have moved : Call.step? m (e.clock history) id .proceed (.refresh (.asking fetch)) =
        some (m, .refresh (.leaving (.error fault))) := by
      simp [Call.step?, Refresh.step?, Refresh.proceed?, settled]
    exact .step .proceed trivial moved (ends_leaving _ _ _)

theorem ends_entered (history : List (Moment × Action)) (m : Manager) :
    e.Ends id history m (.refresh .entered) := by
  refine .step .proceed trivial rfl
    (ends_of_fetch (fun fetch => .refresh (.asking fetch)) ?_ ?_ _ _ _ (Attempts.inside_waiting _ _))
  next =>
    intro m now member event fetch
    simp only [Call.step?, Refresh.step?]
    cases m.stepFetch? fetch member event <;> rfl
  next => exact fun history m fetch r settled => ends_fetched history m settled

theorem ends_refresh (history : List (Moment × Action)) (forced : Bool)
    (free : m.debouncer.line.callers = []) : e.Ends id history m (.refresh (.called forced)) := by
  by_cases down : m.isShutDown = true
  next =>
    have refused : Call.step? m (e.clock history) id .proceed (.refresh (.called forced)) =
        some (m, .refresh (.finished (.fail .cancelled))) := by
      simp [Call.step?, Refresh.step?, Refresh.proceed?, down]
    exact .step .proceed trivial refused (.ended rfl)
  next =>
    have joined : Call.step? m (e.clock history) id .proceed (.refresh (.called forced)) =
        some ({ m with debouncer := m.debouncer.join id }, .refresh (.waiting forced)) := by
      simp [Call.step?, Refresh.step?, Refresh.proceed?, down]
    refine .step .proceed trivial joined ?_
    generalize next : { m with debouncer := m.debouncer.join id } = m'
    generalize history ++ [(e.clock history, .step id .proceed)] = later
    have turn : m'.debouncer.line.isHeldBy id = true := by
      simp [← next, Debouncer.join, Line.isHeldBy, Line.holder?, Line.join, free]
    by_cases fresh : m'.debouncer.skips forced (e.clock later).elapsed = true
    next =>
      have skipped : Call.step? m' (e.clock later) id .proceed (.refresh (.waiting forced)) =
          some ({ m' with debouncer := m'.debouncer.leave id }, .refresh (.finished (.ok .skipped))) := by
        simp [Call.step?, Refresh.step?, Refresh.proceed?, turn, fresh]
      exact .step .proceed trivial skipped (.ended rfl)
    next =>
      have entered : Call.step? m' (e.clock later) id .proceed (.refresh (.waiting forced)) =
          some (m', .refresh .entered) := by
        simp [Call.step?, Refresh.step?, Refresh.proceed?, turn, fresh]
      exact .step .proceed trivial entered (ends_entered _ _)

theorem ends_fee (history : List (Moment × Action)) (m : Manager) (amount : Amount)
    (destination : String) : e.Ends id history m (.fee (.called amount destination)) := by
  by_cases down : m.isShutDown = true
  next =>
    have refused : Call.step? m (e.clock history) id .proceed (.fee (.called amount destination)) =
        some (m, .fee (.finished (.fail .cancelled))) := by
      simp [Call.step?, FeeInquiry.step?, down]
    exact .step .proceed trivial refused (.ended rfl)
  next =>
    cases planned : m.chain.feePlan m.builder m.wallet amount destination (e.clock history).date with
    | error cause =>
      have refused : Call.step? m (e.clock history) id .proceed (.fee (.called amount destination)) =
          some (m, .fee (.finished (.fail cause))) := by
        simp [Call.step?, FeeInquiry.step?, down, planned]
      exact .step .proceed trivial refused (.ended rfl)
    | ok plan =>
      have asked : Call.step? m (e.clock history) id .proceed (.fee (.called amount destination)) =
          some (m, .fee (.asking (.ofPlan plan))) := by
        simp [Call.step?, FeeInquiry.step?, down, planned]
      refine .step .proceed trivial asked
        (ends_of_fetch (fun fetch => .fee (.asking fetch)) ?_ ?_ _ _ _ (Attempts.inside_waiting _ _))
      next =>
        intro m now member event fetch
        simp only [Call.step?, FeeInquiry.step?]
        cases m.stepFetch? fetch member event <;> rfl
      next =>
        intro history m fetch r settled
        have finished : Call.step? m (e.clock history) id .proceed (.fee (.asking fetch)) =
            some (m, .fee (.finished r)) := by
          simp [Call.step?, FeeInquiry.step?, settled]
        exact .step .proceed trivial finished (.ended rfl)

theorem ends_signatureCount (history : List (Moment × Action)) (m : Manager) (expected : UInt64) :
    e.Ends id history m (.signatureCount (.called expected)) := by
  by_cases down : m.isShutDown = true
  next =>
    have refused : Call.step? m (e.clock history) id .proceed (.signatureCount (.called expected)) =
        some (m, .signatureCount (.finished (.fail .cancelled))) := by
      simp [Call.step?, CountInquiry.step?, down]
    exact .step .proceed trivial refused (.ended rfl)
  next =>
    have asked : Call.step? m (e.clock history) id .proceed (.signatureCount (.called expected)) =
        some (m, .signatureCount
          (.asking expected (.ofPlan (m.chain.signatureCountPlan m.wallet)))) := by
      simp [Call.step?, CountInquiry.step?, down]
    refine .step .proceed trivial asked
      (ends_of_fetch (fun fetch => .signatureCount (.asking expected fetch)) ?_ ?_ _ _ _
        (Attempts.inside_waiting _ _))
    next =>
      intro m now member event fetch
      simp only [Call.step?, CountInquiry.step?]
      cases m.stepFetch? fetch member event <;> rfl
    next =>
      intro history m fetch r settled
      have finished : Call.step? m (e.clock history) id .proceed
          (.signatureCount (.asking expected fetch)) =
            some (m, .signatureCount (.finished (CountInquiry.compare expected r))) := by
        simp [Call.step?, CountInquiry.step?, settled]
      exact .step .proceed trivial finished (.ended rfl)

theorem ends_tokens (history : List (Moment × Action)) (m : Manager) :
    e.Ends id history m (.tokens .called) := by
  by_cases down : m.isShutDown = true
  next =>
    have refused : Call.step? m (e.clock history) id .proceed (.tokens .called) =
        some (m, .tokens (.finished (.fail .cancelled))) := by
      simp [Call.step?, TokenSearch.step?, down]
    exact .step .proceed trivial refused (.ended rfl)
  by_cases supported : m.chain.supports .tokenFinder = true
  next =>
    have asked : Call.step? m (e.clock history) id .proceed (.tokens .called) =
        some (m, .tokens (.asking m.wallet.primaryAddress)) := by
      simp [Call.step?, TokenSearch.step?, down, supported]
    refine .step .proceed trivial asked ?_
    generalize history ++ [(e.clock history, .step id .proceed)] = later
    cases told : e.index later with
    | error cause => exact .step (.listed (.error cause)) told.symm rfl (.ended rfl)
    | ok found =>
      exact .step (.listed (.ok found)) told.symm rfl (.step .proceed trivial rfl (.ended rfl))
  next =>
    have refused : Call.step? m (e.clock history) id .proceed (.tokens .called) =
        some (m, .tokens (.finished (.fail (.capabilityNotSupported .tokenFinder)))) := by
      simp [Call.step?, TokenSearch.step?, down, supported]
    exact .step .proceed trivial refused (.ended rfl)

end Environment

namespace Session

/-- Any call but a payment, made now, gets to its end by steps of its own, whatever it is answered.
A refresh does if it has not to wait for others. -/
def Returns (s : Session) : Prop :=
  ∀ (e : Environment) (now : Moment) (demand : Demand), (∀ payload, demand ≠ .send payload) →
    (∀ forced, demand = .refresh forced → s.manager.debouncer.line.callers = []) →
    ∃ actions s' call r,
      e.Agrees s.calls.length [(now, .make demand)] actions ∧
        s.run? ((now, .make demand) :: actions) = some s' ∧
        s'.calls[s.calls.length]? = some call ∧ call.result? = some r

theorem returns (s : Session) : s.Returns := by
  intro e now demand other free
  have found : (s.make demand).calls[s.calls.length]? = some demand.call := by simp [make]
  have ends : e.Ends s.calls.length [(now, .make demand)] s.manager demand.call := by
    cases demand with
    | refresh forced => exact Environment.ends_refresh _ forced (free forced rfl)
    | send payload => exact absurd rfl (other payload)
    | fee amount destination => exact Environment.ends_fee _ _ amount destination
    | signatureCount expected => exact Environment.ends_signatureCount _ _ expected
    | tokens => exact Environment.ends_tokens _ _
  obtain ⟨actions, s', call, r, agrees, ran, there, settled⟩ := ends.exists_run found rfl
  exact ⟨actions, s', call, r, agrees, by simpa [run?, act?] using ran, there, settled⟩

end Session

end CoinWallet
