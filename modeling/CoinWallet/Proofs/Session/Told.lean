import CoinWallet.Proofs.Session.Dropping
import CoinWallet.Proofs.Session.Note
import CoinWallet.Proofs.Session.Update

set_option autoImplicit false

namespace CoinWallet

open Note (own sights span course)

variable {m m' : Manager} {now : Moment} {id : CallId} {event : Event} {call call' : Call}
  {seen more : List Note}

-- the phase goes back only after a refresh has left its work
def Refresh.Told (chain : Chain) (id : CallId) (seen : List Note) : Refresh → Prop
  | called _ | waiting _ | entered => own id seen = []
  | asking fetch => ∃ w, own id seen = span id w none ∧
      (sights seen).getLast? = some (.read id w) ∧ fetch.plan = chain.refreshPlan w
  | fetched update => ∃ w, own id seen = span id w none ∧
      (sights seen).getLast? = some (.read id w) ∧
      ∃ replies, (chain.refreshPlan w).conclude replies = .ok update
  | leaving _ => ∃ w written, own id seen = span id w written
  | left _ | finished _ => own id seen = [] ∨
      ∃ w written, own id seen = span id w written ++ [.updatePhase id .idle]

def Send.Told (phase : SendPhase) (id : CallId) (seen : List Note) : Send → Prop
  | called _ | waiting _ | entered _ => own id seen = []
  | building _ _ => own id seen = course id 1 ∧ phase = .building
  | signing _ _ | signed _ _ => own id seen = course id 2 ∧ phase = .signing
  | sealing _ _ | broadcasting _ _ | accepted _ _ => own id seen = course id 3 ∧ phase = .broadcasting
  | leaving _ => ∃ steps, own id seen = course id (steps + 1) ∧
      (own id seen).getLast? = some (.sendPhase id phase)
  | left _ | finished _ => own id seen = [] ∨
      ∃ steps, own id seen = course id (steps + 1) ++ [.sendPhase id .idle]

def Call.Told (m : Manager) (id : CallId) (seen : List Note) : Call → Prop
  | refresh r => r.Told m.chain id seen
  | send s => s.Told m.sendPhase id seen
  | _ => own id seen = []

section atWork

variable {chain : Chain} {phase : SendPhase} {r : Refresh} {p : Send}

theorem Refresh.Told.at_work (told : r.Told chain id seen) (inside : r.standing = .inside true) :
    ∃ w written, own id seen = span id w written := by
  cases r with
  | asking | fetched =>
    obtain ⟨w, shown, _⟩ := told
    exact ⟨w, none, shown⟩
  | leaving => exact told
  | _ => cases inside

theorem Refresh.Told.off_work (told : r.Told chain id seen) (outside : r.standing ≠ .inside true) :
    own id seen = [] ∨ ∃ w written, own id seen = span id w written ++ [.updatePhase id .idle] := by
  cases r with
  | called | waiting | entered => exact .inl told
  | left | finished => exact told
  | _ => exact absurd rfl outside

theorem Send.Told.at_work (told : p.Told phase id seen) (inside : p.standing = .inside true) :
    ∃ steps, own id seen = course id (steps + 1) ∧
      (own id seen).getLast? = some (.sendPhase id phase) := by
  cases p with
  | building =>
    obtain ⟨shown, rfl⟩ := told
    exact ⟨0, shown, by rw [shown]; rfl⟩
  | signing | signed =>
    obtain ⟨shown, rfl⟩ := told
    exact ⟨1, shown, by rw [shown]; rfl⟩
  | sealing | broadcasting | accepted =>
    obtain ⟨shown, rfl⟩ := told
    exact ⟨2, shown, by rw [shown]; rfl⟩
  | leaving => exact told
  | _ => cases inside

theorem Send.Told.off_work (told : p.Told phase id seen) (outside : p.standing ≠ .inside true) :
    own id seen = [] ∨ ∃ steps, own id seen = course id (steps + 1) ++ [.sendPhase id .idle] := by
  cases p with
  | called | waiting | entered => exact .inl told
  | left | finished => exact told
  | _ => exact absurd rfl outside

theorem Refresh.Told.drop (told : r.Told chain id seen) (m : Manager) :
    (r.drop m id).2.Told chain id seen := by
  cases r with
  | called | waiting | entered => exact .inl told
  | asking | fetched => exact told.at_work rfl
  | leaving | left | finished => exact told

theorem Send.Told.drop (told : p.Told phase id seen) (m : Manager) :
    (p.drop m id).2.Told phase id seen := by
  cases p with
  | called | waiting | entered => exact .inl told
  | leaving | left | finished => exact told
  | _ => exact told.at_work rfl

end atWork

theorem Refresh.Told.step {r r' : Refresh} (told : r.Told m.chain id seen)
    (busy : ∀ atWork, r.standing = .inside atWork → (m.updatePhase != .idle) = atWork)
    (step : Step m now id event r m' r') :
    r'.Told m'.chain id
      (seen ++ (m.published m' id ++ (Call.refresh r).shows m now id event)) := by
  have silent := (Call.refresh r).unseen m m' now id event seen
  cases step with
  | refuse | skip =>
    rw [silent rfl rfl rfl]
    exact .inl told
  | join | enter | leave =>
    rw [silent rfl rfl rfl]
    exact told
  | ask =>
    have idle : m.updatePhase = .idle := by simpa using busy false rfl
    refine ⟨m.wallet, ?_, ?_, rfl⟩
    next =>
      have before : own id seen = [] := told
      simp [before, idle, Manager.published, Call.shows, span, Note.caller]
    next => simp [Call.shows, sights, Note.isSight]
  | @fetch fetch update settled =>
    rw [silent rfl rfl rfl]
    obtain ⟨w, shown, last, plan⟩ := told
    obtain ⟨replies, -, concluded⟩ := Fetch.result?_ok settled
    obtain ⟨plan', attempts⟩ := fetch
    cases plan
    exact ⟨w, shown, last, replies, concluded⟩
  | fail | cancel =>
    rw [silent rfl rfl rfl]
    exact told.at_work rfl
  | @commit update =>
    obtain ⟨w, shown, _⟩ := told
    refine ⟨w, some update, ?_⟩
    simp [shown, Manager.published, Call.shows, Call.writes, Note.ofWrite?, span, Note.caller]
  | idle =>
    have updating : m.updatePhase ≠ .idle := by simpa using busy true rfl
    obtain ⟨w, written, shown⟩ := told
    refine .inr ⟨w, written, ?_⟩
    simp [shown, updating.symm, Manager.published, Call.shows, Call.writes, Note.caller]
  | request inner =>
    obtain ⟨cursor, rfl⟩ := stepFetch?_eq inner
    rw [silent rfl rfl rfl]
    obtain ⟨w, shown, last, plan⟩ := told
    exact ⟨w, shown, last, (stepFetch?_plan inner).trans plan⟩

theorem Send.Told.step {p p' : Send} (told : p.Told m.sendPhase id seen)
    (busy : ∀ atWork, p.standing = .inside atWork → (m.sendPhase != .idle) = atWork)
    (step : Step m id event p m' p') :
    p'.Told m'.sendPhase id
      (seen ++ (m.published m' id ++ (Call.send p).shows m now id event)) := by
  have silent := (Call.send p).unseen m m' now id event seen
  cases step with
  | refuse =>
    rw [silent rfl rfl rfl]
    exact .inl told
  | build =>
    have idle : m.sendPhase = .idle := by simpa using busy false rfl
    have before : own id seen = [] := told
    refine ⟨?_, rfl⟩
    simp [before, idle, Manager.published, Call.shows, Call.writes, course, Note.caller]
  | sign | count =>
    obtain ⟨before, phase⟩ := told
    refine ⟨?_, rfl⟩
    simp [before, phase, Manager.published, Call.shows, Call.writes, course, Note.caller]
  | unbuilt | nothingToSign | unsigned | unsignedAll | miscount | unsealed | reject | record
  | cancelSigning | cancelBroadcast =>
    rw [silent rfl rfl rfl]
    exact told.at_work rfl
  | idle =>
    have working : m.sendPhase ≠ .idle := by simpa using busy true rfl
    obtain ⟨steps, before, _⟩ := told
    refine .inr ⟨steps, ?_⟩
    simp [before, working.symm, Manager.published, Call.shows, Call.writes, Note.caller]
  | request inner =>
    obtain ⟨cursor, rfl⟩ := stepFetch?_eq inner
    rw [silent rfl rfl rfl]
    exact told
  | _ =>
    rw [silent rfl rfl rfl]
    exact told

theorem Call.Told.step (told : call.Told m id seen)
    (updating : ∀ atWork, call.standing .refresh = .inside atWork →
      (m.updatePhase != .idle) = atWork)
    (sending : ∀ atWork, call.standing .send = .inside atWork → (m.sendPhase != .idle) = atWork)
    (moved : call.step? m now id event = some (m', call')) :
    call'.Told m' id (seen ++ (m.published m' id ++ call.shows m now id event)) := by
  have silent := call.unseen m m' now id event seen
  cases step_of_step? moved with
  | refresh step => exact Refresh.Told.step told updating step
  | send step => exact Send.Told.step told sending step
  | fee step | signatureCount step =>
    obtain ⟨cursor, rfl⟩ := step.manager_eq
    rw [silent rfl rfl (by cases event <;> rfl)]
    exact told
  | tokens step =>
    cases step <;> (rw [silent rfl rfl rfl]; exact told)

theorem Call.Told.drop (told : call.Told m id seen) :
    (call.drop m id).2.Told (call.drop m id).1 id seen := by
  cases call with
  | refresh r =>
    change Refresh.Told ((Call.refresh r).drop m id).1.chain id seen (r.drop m id).2
    rw [drop_chain]
    exact Refresh.Told.drop told m
  | send s =>
    change Send.Told ((Call.send s).drop m id).1.sendPhase id seen (s.drop m id).2
    rw [drop_sendPhase]
    exact Send.Told.drop told m
  | _ => exact told

-- a call goes on showing what it has shown while others move
theorem Call.Told.of_others (told : call.Told m id seen) (chain : m'.chain = m.chain)
    (apart : own id more = []) (quiet : call.standing .refresh = .inside true → sights more = [])
    (phase : call.standing .send = .inside true → m'.sendPhase = m.sendPhase) :
    call.Told m' id (seen ++ more) := by
  have same : own id (seen ++ more) = own id seen := by rw [Note.own_append, apart, List.append_nil]
  cases call with
  | refresh r =>
    change r.Told m'.chain id (seen ++ more)
    rw [chain]
    cases r with
    | asking | fetched =>
      simpa only [Told, Refresh.Told, same, Note.sights_append, quiet rfl, List.append_nil]
        using told
    | _ => simpa only [Told, Refresh.Told, same] using told
  | send s =>
    cases s with
    | called | waiting | entered | left | finished => simpa only [Told, Send.Told, same] using told
    | _ => simpa only [Told, Send.Told, same, phase rfl] using told
  | _ => simpa only [Told, same] using told

theorem Call.shows_eq_nil (outside : ∀ atWork, call.standing .refresh ≠ .inside atWork) :
    call.shows m now id event = [] := by
  cases call with
  | refresh r =>
    cases r with
    | entered | fetched => exact absurd rfl (outside _)
    | _ => cases event <;> rfl
  | send s => cases s <;> cases event <;> rfl
  | tokens i => cases i <;> cases event <;> rfl
  | _ => cases event <;> rfl

theorem Call.sendPhase_of_step? (outside : ∀ atWork, call.standing .send ≠ .inside atWork)
    (moved : call.step? m now id event = some (m', call')) : m'.sendPhase = m.sendPhase := by
  cases step_of_step? moved with
  | refresh step =>
    cases step with
    | request inner =>
      obtain ⟨cursor, rfl⟩ := stepFetch?_eq inner
      rfl
    | _ => rfl
  | send step =>
    cases step with
    | refuse | join | enter => rfl
    | _ => exact absurd rfl (outside _)
  | fee step | signatureCount step =>
    obtain ⟨cursor, rfl⟩ := step.manager_eq
    rfl
  | tokens step => cases step <;> rfl

end CoinWallet
