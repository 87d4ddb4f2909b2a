import CoinWallet.Proofs.Session.Told

set_option autoImplicit false

namespace CoinWallet.Session

open Note (own sights span course)

variable {m : Manager} {now : Moment} {id : CallId} {event : Event} {call : Call}
  {seen : List Note} {s s' : Session} {action : Action}

section others

variable (lined : s.Lined) (apart : action.isStepOf id = false)
  (moved : s.act? now action = some s')
include lined apart

-- a call that steps is outside while another one is at work
theorem outside_of_apart {turn : Turn} (inside : s.standing turn id = .inside true)
    {other : CallId} (steps : action.isStepOf other = true) (found : s.calls[other]? = some call)
    (atWork : Bool) : call.standing turn ≠ .inside atWork := by
  have different : other ≠ id := by
    rintro rfl
    rw [apart] at steps
    cases steps
  rw [← standing_of_getElem? found]
  exact (lined turn).alone ((lined turn).held id true inside) different

theorem sights_notes (inside : s.standing .refresh id = .inside true) :
    sights (s.notes s' now action) = [] := by
  cases action with
  | step other event =>
    rw [notes, Note.sights_append, Manager.sights_published, List.nil_append]
    split
    next call found =>
      have outside := outside_of_apart lined apart inside (by simp [Action.isStepOf]) found
      rw [Call.shows_eq_nil outside]
      rfl
    next => rfl
  | _ => rfl

include moved

theorem act?_sendPhase (inside : s.standing .send id = .inside true) :
    s'.manager.sendPhase = s.manager.sendPhase := by
  cases action with
  | step other event =>
    obtain ⟨call, call', m', found, inner, rfl⟩ := step?_eq_some moved
    have outside := outside_of_apart lined apart inside (by simp [Action.isStepOf]) found
    exact Call.sendPhase_of_step? outside inner
  | _ =>
    cases moved
    rfl

end others

structure Noted (seen : List Note) (s : Session) : Prop where
  lined : s.Lined
  told : ∀ (id : CallId) (call : Call), s.calls[id]? = some call → call.Told s.manager id seen
  made : ∀ note ∈ seen, ∃ call, s.calls[note.caller]? = some call

namespace Noted

theorem own_eq_nil (noted : s.Noted seen) (fresh : s.calls[id]? = none) : own id seen = [] := by
  refine Note.own_eq_nil fun note member same => ?_
  obtain ⟨call, found⟩ := noted.made note member
  rw [same, fresh] at found
  cases found

theorem act? (noted : s.Noted seen) (moved : s.act? now action = some s') :
    s'.Noted (seen ++ s.notes s' now action) where
  lined := act?_lined noted.lined moved
  told := by
    intro id call' found
    cases act?_origin moved found with
    | @made demand fresh same =>
      have none : own id (seen ++ s.notes s' now (.make demand)) = [] := by
        rw [Note.own_append, noted.own_eq_nil fresh]
        rfl
      rw [same]
      cases demand <;> exact none
    | stayed before apart =>
      refine (noted.told id call' before).of_others (act?_chain moved) (own_notes apart) ?_ ?_
      next =>
        intro inside
        exact sights_notes noted.lined apart ((standing_of_getElem? before _).trans inside)
      next =>
        intro inside
        exact act?_sendPhase noted.lined apart moved ((standing_of_getElem? before _).trans inside)
    | stepped before inner =>
      rw [notes_step before]
      refine (noted.told id _ before).step ?_ ?_ inner
      next =>
        intro atWork inside
        exact (noted.lined .refresh).isBusy_eq ((standing_of_getElem? before _).trans inside)
      next =>
        intro atWork inside
        exact (noted.lined .send).isBusy_eq ((standing_of_getElem? before _).trans inside)
  made := by
    intro note member
    rcases List.mem_append.mp member with old | new
    next =>
      obtain ⟨call, found⟩ := noted.made note old
      exact act?_found moved found
    next =>
      cases action with
      | step id event =>
        obtain ⟨call, _, _, found, _, _⟩ := step?_eq_some moved
        rw [caller_of_mem_notes new]
        exact act?_found moved found
      | _ => cases new

theorem drop? (noted : s.Noted seen) (gone : s.drop? id = some s') : s'.Noted seen where
  lined := drop?_lined noted.lined gone
  told := by
    obtain ⟨call, found, rfl⟩ := drop?_eq_some gone
    intro other call' there
    by_cases same : id = other
    next =>
      subst same
      have inside := (List.getElem?_eq_some_iff.mp found).1
      rw [List.getElem?_set_self inside] at there
      cases there
      exact (noted.told id call found).drop
    next =>
      rw [List.getElem?_set_ne same] at there
      have told := (noted.told other call' there).of_others (call.drop_chain s.manager id)
        (Note.own_nil other) (fun _ => rfl) (fun _ => call.drop_sendPhase s.manager id)
      rwa [List.append_nil] at told
  made := by
    obtain ⟨call, found, rfl⟩ := drop?_eq_some gone
    intro note member
    obtain ⟨other, there⟩ := noted.made note member
    have inside := (List.getElem?_eq_some_iff.mp there).1
    exact ⟨_, List.getElem?_eq_getElem (by simpa using inside)⟩

end Noted

namespace Reach

theorem noted (rest : m.AtRest) (reached : Reach m seen s) : s.Noted seen := by
  induction reached with
  | start =>
    refine ⟨Over.lined (fun call member => by cases member) rest, fun id call found => ?_, ?_⟩
    · cases found
    · simp
  | act _ moved ih => exact ih.act? moved
  | drop _ gone ih => exact ih.drop? gone

theorem chain_eq (reached : Reach m seen s) : s.manager.chain = m.chain := by
  induction reached with
  | start => rfl
  | act _ moved ih => exact (act?_chain moved).trans ih
  | drop _ gone ih =>
    obtain ⟨call, _, rfl⟩ := drop?_eq_some gone
    exact (call.drop_chain _ _).trans ih

end Reach

end CoinWallet.Session
