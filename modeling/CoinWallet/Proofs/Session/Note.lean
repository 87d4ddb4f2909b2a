import CoinWallet.Proofs.Session.Action
import CoinWallet.Session.Drop

set_option autoImplicit false

namespace CoinWallet

/-- What is seen of a call: phases that it publishes, the wallet that a refresh reads before it
asks, and the update that it writes. -/
inductive Note
  | updatePhase (id : CallId) (phase : UpdatePhase)
  | sendPhase (id : CallId) (phase : SendPhase)
  | read (id : CallId) (w : Wallet)
  | wrote (id : CallId) (update : Update)

namespace Note

def caller : Note → CallId
  | updatePhase id _ | sendPhase id _ | read id _ | wrote id _ => id

def own (id : CallId) (notes : List Note) : List Note :=
  notes.filter fun note => note.caller = id

def isSight : Note → Bool
  | read _ _ | wrote _ _ => true
  | _ => false

def sights (notes : List Note) : List Note :=
  notes.filter isSight

@[simp] theorem own_append (id : CallId) (first last : List Note) :
    own id (first ++ last) = own id first ++ own id last :=
  List.filter_append ..

@[simp] theorem sights_append (first last : List Note) :
    sights (first ++ last) = sights first ++ sights last :=
  List.filter_append ..

@[simp] theorem own_nil (id : CallId) : own id [] = [] := rfl

@[simp] theorem own_cons (id : CallId) (note : Note) (rest : List Note) :
    own id (note :: rest) = if note.caller = id then note :: own id rest else own id rest := by
  simp [own, List.filter_cons]

theorem own_eq_nil {id : CallId} {notes : List Note} (apart : ∀ note ∈ notes, note.caller ≠ id) :
    own id notes = [] :=
  List.filter_eq_nil_iff.mpr fun note member => by simpa using apart note member

def ofWrite? (id : CallId) : Write → Option Note
  | .commit update _ => some (wrote id update)
  | _ => none

-- what a refresh that was at work shows until its phase goes back
def span (id : CallId) (w : Wallet) (written : Option Update) : List Note :=
  updatePhase id .updating :: read id w :: (written.map (wrote id)).toList

-- the first phases of a payment
def course (id : CallId) (steps : Nat) : List Note :=
  ([.building, .signing, .broadcasting].take steps).map (sendPhase id)

end Note

open Note (own sights span course)

-- a phase is published as it changes
def Manager.published (m m' : Manager) (id : CallId) : List Note :=
  (if m'.updatePhase = m.updatePhase then [] else [.updatePhase id m'.updatePhase]) ++
    if m'.sendPhase = m.sendPhase then [] else [.sendPhase id m'.sendPhase]

theorem Manager.published_eq_nil {m m' : Manager} (update : m'.updatePhase = m.updatePhase)
    (send : m'.sendPhase = m.sendPhase) (id : CallId) : m.published m' id = [] := by
  simp [published, update, send]

theorem Manager.sights_published (m m' : Manager) (id : CallId) :
    sights (m.published m' id) = [] := by
  unfold published
  split <;> split <;> rfl

def Call.shows (m : Manager) (now : Moment) (id : CallId) : Event → Call → List Note
  | .proceed, refresh .entered => [.read id m.wallet]
  | event, call => (call.writes now event).filterMap (Note.ofWrite? id)

-- what is added by a step that shows nothing
theorem Call.unseen (call : Call) (m m' : Manager) (now : Moment) (id : CallId) (event : Event)
    (seen : List Note) (update : m'.updatePhase = m.updatePhase) (send : m'.sendPhase = m.sendPhase)
    (blind : call.shows m now id event = []) :
    seen ++ (m.published m' id ++ call.shows m now id event) = seen := by
  rw [m.published_eq_nil update send, blind, List.append_nil, List.append_nil]

namespace Session

def notes (s s' : Session) (now : Moment) : Action → List Note
  | .step id event =>
    s.manager.published s'.manager id ++
      match s.calls[id]? with
      | some call => call.shows s.manager now id event
      | none => []
  | _ => []

/-- All that a manager can come to, and what is seen of its calls on the way. Calls are made, go on
and are dropped in any order. -/
inductive Reach (m : Manager) : List Note → Session → Prop
  | start : Reach m [] ⟨m, []⟩
  | act {seen : List Note} {s s' : Session} {now : Moment} {action : Action}
    (before : Reach m seen s) (moved : s.act? now action = some s') :
    Reach m (seen ++ s.notes s' now action) s'
  | drop {seen : List Note} {s s' : Session} {id : CallId} (before : Reach m seen s)
    (gone : s.drop? id = some s') : Reach m seen s'

theorem Reach.run {m : Manager} {seen : List Note} {s s' : Session}
    {actions : List (Moment × Action)} (before : Reach m seen s)
    (ran : s.run? actions = some s') : ∃ more, Reach m (seen ++ more) s' := by
  induction actions generalizing seen s with
  | nil =>
    cases ran
    exact ⟨[], by simpa using before⟩
  | cons head rest ih =>
    obtain ⟨now, action⟩ := head
    obtain ⟨next, moved, ran⟩ := run?_cons ran
    obtain ⟨more, reached⟩ := ih (before.act moved) ran
    exact ⟨_, by simpa using reached⟩

end Session

variable {m m' : Manager} {now : Moment} {id : CallId} {event : Event} {call : Call}

theorem Call.caller_of_mem_shows {note : Note} (member : note ∈ call.shows m now id event) :
    note.caller = id := by
  unfold Call.shows at member
  split at member
  next =>
    rw [List.mem_singleton.mp member]
    rfl
  next =>
    obtain ⟨write, _, told⟩ := List.mem_filterMap.mp member
    cases write <;> cases told
    rfl

theorem Manager.caller_of_mem_published {note : Note} (member : note ∈ m.published m' id) :
    note.caller = id := by
  unfold published at member
  rcases List.mem_append.mp member with member | member
  all_goals
    split at member
    · cases member
    · rw [List.mem_singleton.mp member]
      rfl

theorem Call.eq_of_wrote_mem_shows {other : CallId} {update : Update}
    (member : .wrote other update ∈ call.shows m now id event) :
    other = id ∧ event = .proceed ∧ call = .refresh (.fetched update) := by
  unfold Call.shows at member
  split at member
  next => simp at member
  next =>
    obtain ⟨write, written, told⟩ := List.mem_filterMap.mp member
    unfold Call.writes at written
    split at written <;> simp only [List.mem_singleton, List.not_mem_nil] at written
    all_goals
      subst written
      cases told
    exact ⟨rfl, rfl, rfl⟩

namespace Session

variable {s s' : Session} {action : Action}

theorem notes_step (found : s.calls[id]? = some call) :
    s.notes s' now (.step id event) =
      s.manager.published s'.manager id ++ call.shows s.manager now id event := by
  simp [notes, found]

theorem caller_of_mem_notes {note : Note} (member : note ∈ s.notes s' now (.step id event)) :
    note.caller = id := by
  rcases List.mem_append.mp member with phase | sight
  · exact Manager.caller_of_mem_published phase
  · split at sight
    next => exact Call.caller_of_mem_shows sight
    next => cases sight

theorem own_notes (apart : action.isStepOf id = false) : own id (s.notes s' now action) = [] := by
  refine Note.own_eq_nil fun note member => ?_
  cases action with
  | step other event =>
    rw [caller_of_mem_notes member]
    simpa [Action.isStepOf] using apart
  | _ => cases member

end Session

end CoinWallet
