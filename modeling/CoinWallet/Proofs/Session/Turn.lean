import CoinWallet.Proofs.Session.Write
import CoinWallet.Session.Wait
import Mathlib.Logic.Function.Basic

set_option autoImplicit false

namespace CoinWallet

inductive Turn
  | refresh
  | send

inductive Standing
  | away
  | waiting
  | inside (atWork : Bool)

-- a line, and whether its phase is busy
structure Lane where
  line : Line
  isBusy : Bool

def Manager.lane (m : Manager) : Turn → Lane
  | .refresh => ⟨m.debouncer.line, m.updatePhase != .idle⟩
  | .send => ⟨m.sendLine, m.sendPhase != .idle⟩

def Refresh.standing : Refresh → Standing
  | called _ | finished _ => .away
  | waiting _ => .waiting
  | entered | left _ => .inside false
  | asking _ | fetched _ | leaving _ => .inside true

def Send.standing : Send → Standing
  | called _ | finished _ => .away
  | waiting _ => .waiting
  | entered _ | left _ => .inside false
  | building _ _ | signing _ _ | signed _ _ | sealing _ _ | broadcasting _ _ | accepted _ _
  | leaving _ => .inside true

def Call.standing : Turn → Call → Standing
  | .refresh, refresh r => r.standing
  | .send, send s => s.standing
  | _, _ => .away

namespace Call

theorem standing_of_result? {call : Call} (isOver : call.result? ≠ none) (turn : Turn) :
    call.standing turn = .away := by
  cases turn <;> cases call <;> try rfl
  all_goals
    rename_i stage
    cases stage <;> first | rfl | exact absurd rfl isOver

theorem turn_eq {call : Call} {turn turn' : Turn} (one : call.standing turn ≠ .away)
    (two : call.standing turn' ≠ .away) : turn = turn' := by
  cases turn <;> cases turn' <;> cases call <;>
    first | rfl | exact absurd rfl one | exact absurd rfl two

end Call

inductive Turned (id : CallId) : Lane → Standing → Lane → Standing → Prop
  | stay (lane : Lane) (standing : Standing) : Turned id lane standing lane standing
  | join {line : Line} {busy : Bool} :
    Turned id ⟨line, busy⟩ .away ⟨line.join id, busy⟩ .waiting
  | enter {line : Line} {busy : Bool} (turn : line.isHeldBy id = true) :
    Turned id ⟨line, busy⟩ .waiting ⟨line, busy⟩ (.inside false)
  | work {line : Line} {busy atWork : Bool} :
    Turned id ⟨line, busy⟩ (.inside atWork) ⟨line, true⟩ (.inside true)
  | rest {line : Line} {busy : Bool} :
    Turned id ⟨line, busy⟩ (.inside true) ⟨line, false⟩ (.inside false)
  | leave {line : Line} {busy : Bool} :
    Turned id ⟨line, busy⟩ (.inside false) ⟨line.leave id, busy⟩ .away
  | skip {line : Line} {busy : Bool} (turn : line.isHeldBy id = true) :
    Turned id ⟨line, busy⟩ .waiting ⟨line.leave id, busy⟩ .away

variable {m m' : Manager} {now : Moment} {id : CallId} {event : Event}

theorem Manager.lane_of_cursor (moved : ∃ cursor, m' = { m with cursor := cursor })
    (turn : Turn) : m'.lane turn = m.lane turn := by
  obtain ⟨cursor, rfl⟩ := moved
  cases turn <;> rfl

theorem Refresh.Step.turned {r r' : Refresh} (step : Step m now id event r m' r') (turn : Turn) :
    Turned id (m.lane turn) ((Call.refresh r).standing turn) (m'.lane turn)
      ((Call.refresh r').standing turn) := by
  cases turn with
  | send =>
    cases step with
    | request inner =>
      rw [Manager.lane_of_cursor (stepFetch?_eq inner)]
      exact .stay _ _
    | _ => exact .stay _ _
  | refresh =>
    cases step with
    | join _ => exact .join
    | skip held _ => exact .skip held
    | enter held _ => exact .enter held
    | ask => exact .work
    | idle => exact .rest
    | leave => exact .leave
    | request inner =>
      rw [Manager.lane_of_cursor (stepFetch?_eq inner)]
      exact .stay _ _
    | _ => exact .stay _ _

theorem Send.Step.turned {s s' : Send} (step : Step m id event s m' s') (turn : Turn) :
    Turned id (m.lane turn) ((Call.send s).standing turn) (m'.lane turn)
      ((Call.send s').standing turn) := by
  cases turn with
  | refresh =>
    cases step with
    | request inner =>
      rw [Manager.lane_of_cursor (stepFetch?_eq inner)]
      exact .stay _ _
    | _ => exact .stay _ _
  | send =>
    cases step with
    | join _ => exact .join
    | enter held => exact .enter held
    | build | sign _ _ | count _ => exact .work
    | idle => exact .rest
    | leave => exact .leave
    | request inner =>
      rw [Manager.lane_of_cursor (stepFetch?_eq inner)]
      exact .stay _ _
    | _ => exact .stay _ _

theorem Call.step?_turned {call call' : Call}
    (moved : call.step? m now id event = some (m', call')) (turn : Turn) :
    Turned id (m.lane turn) (call.standing turn) (m'.lane turn) (call'.standing turn) := by
  cases step_of_step? moved with
  | refresh step => exact step.turned turn
  | send step => exact step.turned turn
  | fee step =>
    rw [Manager.lane_of_cursor step.manager_eq]
    cases turn <;> exact .stay _ _
  | signatureCount step =>
    rw [Manager.lane_of_cursor step.manager_eq]
    cases turn <;> exact .stay _ _
  | tokens step =>
    obtain ⟨wallet, rfl⟩ := step.manager_eq
    cases turn <;> exact .stay _ _

theorem Line.eq_of_isHeldBy {line : Line} {id other : CallId} (one : line.isHeldBy id = true)
    (two : line.isHeldBy other = true) : id = other := by
  simp only [isHeldBy, beq_iff_eq] at one two
  exact Option.some.inj (one.symm.trans two)

theorem Line.isHeldBy_join {line : Line} {id other : CallId} (held : line.isHeldBy id = true) :
    (line.join other).isHeldBy id = true := by
  simp only [isHeldBy, beq_iff_eq] at held ⊢
  rw [holder_join, held, Option.some_or]

theorem Line.isHeldBy_leave {line : Line} {id other : CallId} (held : line.isHeldBy other = true)
    (apart : other ≠ id) : (line.leave id).isHeldBy other = true := by
  obtain ⟨callers⟩ := line
  cases callers with
  | nil => cases held
  | cons head rest =>
    obtain rfl : head = other := by simpa [isHeldBy, holder?] using held
    simp [isHeldBy, holder?, leave, apart]

structure Lined (lane : Lane) (standing : CallId → Standing) : Prop where
  nodup : lane.line.callers.Nodup
  mem_iff : ∀ id, id ∈ lane.line.callers ↔ standing id ≠ .away
  held : ∀ id atWork, standing id = .inside atWork → lane.line.isHeldBy id = true
  busy_iff : lane.isBusy = true ↔ ∃ id, standing id = .inside true

namespace Lined

variable {lane lane' : Lane} {standing : CallId → Standing} {here : Standing}

theorem of_away (empty : lane.line.callers = []) (idle : lane.isBusy = false)
    (away : ∀ id, standing id = .away) : Lined lane standing where
  nodup := by simp [empty]
  mem_iff := by simp [empty, away]
  held := by simp [away]
  busy_iff := by simp [idle, away]

theorem empty (lined : Lined lane standing) (away : ∀ id, standing id = .away) :
    lane.line.callers = [] ∧ lane.isBusy = false := by
  constructor
  next =>
    refine List.eq_nil_iff_forall_not_mem.mpr fun id member => ?_
    exact (lined.mem_iff id).mp member (away id)
  next =>
    refine Bool.eq_false_iff.mpr fun busy => ?_
    obtain ⟨id, atWork⟩ := lined.busy_iff.mp busy
    cases (away id).symm.trans atWork

theorem exists_head (lined : Lined lane standing) (inLine : standing id ≠ .away) :
    ∃ head, lane.line.isHeldBy head = true ∧ standing head ≠ .away := by
  have member := (lined.mem_iff id).mpr inLine
  have heads := lined.mem_iff
  obtain ⟨⟨callers⟩, busy⟩ := lane
  cases callers with
  | nil => cases member
  | cons head rest =>
    exact ⟨head, by simp [Line.isHeldBy, Line.holder?], (heads head).mp List.mem_cons_self⟩

theorem busy_iff_others (lined : Lined lane standing) (id : CallId) :
    lane.isBusy = true ↔
      standing id = .inside true ∨ ∃ other ≠ id, standing other = .inside true := by
  have both := Function.exists_update_iff standing (a := id) (b := standing id)
    fun _ there => there = .inside true
  rwa [Function.update_eq_self, ← lined.busy_iff] at both

-- nobody else is inside while `id` is at the head
theorem alone (lined : Lined lane standing) (turn : lane.line.isHeldBy id = true) {other : CallId}
    {atWork : Bool} (apart : other ≠ id) : standing other ≠ .inside atWork :=
  fun inside => apart (Line.eq_of_isHeldBy (lined.held other atWork inside) turn)

theorem isBusy_eq (lined : Lined lane standing) {atWork : Bool}
    (inside : standing id = .inside atWork) : lane.isBusy = atWork := by
  have turn := lined.held id atWork inside
  rw [Bool.eq_iff_iff, lined.busy_iff]
  constructor
  next =>
    rintro ⟨other, there⟩
    by_cases same : other = id
    next =>
      rw [same, inside] at there
      exact Standing.inside.inj there
    next => exact absurd there (lined.alone turn same)
  next =>
    rintro rfl
    exact ⟨id, inside⟩

-- what has to be known when only the call `id` moves
theorem of_others (lined : Lined lane standing) (nodup : lane'.line.callers.Nodup)
    (self : id ∈ lane'.line.callers ↔ here ≠ .away)
    (members : ∀ other, other ≠ id → (other ∈ lane'.line.callers ↔ other ∈ lane.line.callers))
    (turn : ∀ atWork, here = .inside atWork → lane'.line.isHeldBy id = true)
    (turns : ∀ other atWork, other ≠ id → standing other = .inside atWork →
      lane'.line.isHeldBy other = true)
    (busy : lane'.isBusy = true ↔
      here = .inside true ∨ ∃ other ≠ id, standing other = .inside true) :
    Lined lane' (Function.update standing id here) := by
  refine ⟨nodup, ?_, ?_, ?_⟩
  · refine (Function.forall_update_iff standing fun other there =>
      (other ∈ lane'.line.callers ↔ there ≠ .away)).mpr ⟨self, fun other apart => ?_⟩
    rw [members other apart, lined.mem_iff]
  · exact (Function.forall_update_iff standing fun other there =>
      ∀ atWork, there = .inside atWork → lane'.line.isHeldBy other = true).mpr
        ⟨turn, fun other apart atWork => turns other atWork apart⟩
  · rw [busy, Function.exists_update_iff standing fun _ there => there = .inside true]

-- also from the middle of the line
theorem leave (lined : Lined lane standing) (idle : standing id ≠ .inside true) :
    Lined ⟨lane.line.leave id, lane.isBusy⟩ (Function.update standing id .away) := by
  refine lined.of_others (lined.nodup.erase id) ?_ ?_ (by simp) ?_ ?_
  · simpa [Line.leave] using lined.nodup.not_mem_erase
  · intro other apart
    exact List.mem_erase_of_ne apart
  · intro other atWork apart inside
    exact Line.isHeldBy_leave (lined.held other atWork inside) apart
  · simpa [idle] using lined.busy_iff_others id

theorem step (lined : Lined lane standing) (turned : Turned id lane (standing id) lane' here) :
    Lined lane' (Function.update standing id here) := by
  have member := lined.mem_iff id
  have held := lined.held id
  have busy := lined.busy_iff_others id
  generalize before : standing id = there at turned member held busy
  cases turned with
  | stay => rwa [← before, Function.update_eq_self]
  | @join line isBusy =>
    have away : id ∉ line.callers := by simpa using member
    refine lined.of_others ?_ (by simp [Line.join]) ?_ (by simp) ?_ (by simpa using busy)
    · simpa [Line.join, List.nodup_append] using
        ⟨lined.nodup, fun other member => ne_of_mem_of_not_mem member away⟩
    · intro other apart
      simp [Line.join, apart]
    · intro other atWork _ inside
      exact Line.isHeldBy_join (lined.held other atWork inside)
  | enter turn =>
    exact lined.of_others lined.nodup (by simpa using member) (fun _ _ => .rfl) (fun _ _ => turn)
      (fun other atWork _ inside => lined.held other atWork inside) (by simpa using busy)
  | work =>
    exact lined.of_others lined.nodup (by simpa using member) (fun _ _ => .rfl)
      (fun _ _ => held _ rfl) (fun other atWork _ inside => lined.held other atWork inside)
      (by simp)
  | rest =>
    have turn := held true rfl
    refine lined.of_others lined.nodup (by simpa using member) (fun _ _ => .rfl) (fun _ _ => turn)
      (fun other atWork _ inside => lined.held other atWork inside) ?_
    simpa using fun other apart => lined.alone turn apart
  | leave => exact lined.leave (by simp [before])
  | skip _ => exact lined.leave (by simp [before])

end Lined

-- callers have their place in a list as their number
def standingAt {α : Type} (standing : α → Standing) (callers : List α) (id : CallId) : Standing :=
  match callers[id]? with
  | some caller => standing caller
  | none => .away

section standingAt

variable {α : Type} {standing : α → Standing} {callers : List α} {caller : α}

theorem standingAt_of_getElem? (found : callers[id]? = some caller) :
    standingAt standing callers id = standing caller := by
  simp [standingAt, found]

theorem standingAt_snoc (away : standing caller = .away) (callers : List α) :
    standingAt standing (callers ++ [caller]) = standingAt standing callers := by
  funext id
  rcases Nat.lt_trichotomy id callers.length with old | new | beyond
  · simp [standingAt, List.getElem?_append_left old]
  · simp [standingAt, new, away]
  · have none : (callers ++ [caller])[id]? = none := List.getElem?_eq_none (by simp; omega)
    simp [standingAt, none, Nat.le_of_lt beyond]

theorem standingAt_set (found : callers[id]? = some caller) (caller' : α) :
    standingAt standing (callers.set id caller') =
      Function.update (standingAt standing callers) id (standing caller') := by
  have inside := (List.getElem?_eq_some_iff.mp found).1
  funext other
  by_cases same : other = id
  next =>
    subst same
    simp [standingAt, inside]
  next => simp [standingAt, same, Ne.symm same]

end standingAt

namespace Session

def standing (s : Session) (turn : Turn) (id : CallId) : Standing :=
  match s.calls[id]? with
  | some call => call.standing turn
  | none => .away

theorem standing_eq (s : Session) (turn : Turn) :
    s.standing turn = standingAt (Call.standing turn) s.calls := by
  funext id
  unfold standing standingAt
  cases s.calls[id]? <;> rfl

def Lined (s : Session) : Prop :=
  ∀ turn, CoinWallet.Lined (s.manager.lane turn) (s.standing turn)

theorem standing_of_getElem? {s : Session} {call : Call} (found : s.calls[id]? = some call)
    (turn : Turn) : s.standing turn id = call.standing turn := by
  simp [standing, found]

theorem standing_make (s : Session) (demand : Demand) (turn : Turn) :
    (s.make demand).standing turn = s.standing turn := by
  have called : demand.call.standing turn = .away := by cases turn <;> cases demand <;> rfl
  simpa only [standing_eq, make] using standingAt_snoc called s.calls

theorem standing_set {s : Session} {call : Call} (found : s.calls[id]? = some call) (call' : Call)
    (turn : Turn) :
    Session.standing ⟨m', s.calls.set id call'⟩ turn =
      Function.update (s.standing turn) id (call'.standing turn) := by
  simpa only [standing_eq] using standingAt_set found call'

variable {s s' : Session} {action : Action}

theorem act?_lined (lined : s.Lined) (moved : s.act? now action = some s') : s'.Lined := by
  intro turn
  cases action with
  | make demand =>
    cases moved
    rw [standing_make]
    exact lined turn
  | step id event =>
    obtain ⟨call, call', m', found, inner, rfl⟩ := step?_eq_some moved
    have turned := Call.step?_turned inner turn
    rw [← standing_of_getElem? found] at turned
    rw [standing_set found]
    exact (lined turn).step turned
  | _ =>
    cases moved
    have same := lined turn
    cases turn <;> exact same

theorem run?_lined {actions : List (Moment × Action)} (lined : s.Lined)
    (ran : s.run? actions = some s') : s'.Lined :=
  run?_kept (fun _ _ _ _ _ lined moved => act?_lined lined moved) lined ran

def Over (s : Session) : Prop :=
  ∀ call ∈ s.calls, call.result? ≠ none

theorem Over.standing_eq (isOver : s.Over) (turn : Turn) (id : CallId) :
    s.standing turn id = .away := by
  unfold standing
  split
  next call found => exact Call.standing_of_result? (isOver call (List.mem_of_getElem? found)) turn
  next => rfl

end Session

def Manager.AtRest (m : Manager) : Prop :=
  ∀ turn, (m.lane turn).line.callers = [] ∧ (m.lane turn).isBusy = false

theorem Manager.atRest_of_new {wallet : Wallet} {chain : Chain} {builder : Builder} {window : Nat}
    (made : new wallet chain builder window = .ok m) : m.AtRest := by
  unfold new at made
  split at made <;> cases made
  intro turn
  cases turn <;> exact ⟨rfl, rfl⟩

namespace Session

variable {s : Session}

theorem Over.lined (isOver : s.Over) (rest : s.manager.AtRest) : s.Lined :=
  fun turn => .of_away (rest turn).1 (rest turn).2 (isOver.standing_eq turn)

theorem Over.atRest (isOver : s.Over) (lined : s.Lined) : s.manager.AtRest :=
  fun turn => (lined turn).empty (isOver.standing_eq turn)

end Session

end CoinWallet
