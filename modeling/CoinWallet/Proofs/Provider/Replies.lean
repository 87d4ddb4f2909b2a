import CoinWallet.Provider.Fetch
import Mathlib.Data.List.Forall2

set_option autoImplicit false

namespace CoinWallet

variable {Holds : (q : Query) → q.Reply → Prop} {qs : List Query}

def Replies.All (Holds : (q : Query) → q.Reply → Prop) : {qs : List Query} → Replies qs → Prop
  | _, nil => True
  | q :: _, cons r rest => Holds q r ∧ rest.All Holds

def Attempts.All (Holds : (q : Query) → q.Reply → Prop) : {qs : List Query} → Attempts qs → Prop
  | _, nil => True
  | q :: _, cons a rest => (∀ r, a.result? = some (.ok r) → Holds q r) ∧ rest.All Holds

theorem Replies.All.of_mem_toList {α β : Type} {query : α → Query}
    {reply : (a : α) → (query a).Reply → β} {as : List α} {replies : Replies (as.map query)}
    (all : replies.All Holds) {b : β} (member : b ∈ replies.toList query reply as) :
    ∃ a r, Holds (query a) r ∧ b = reply a r := by
  induction as with
  | nil => cases member
  | cons a rest ih =>
    cases replies with
    | cons r replies =>
      rcases List.mem_cons.mp member with rfl | later
      · exact ⟨a, r, all.1, rfl⟩
      · exact ih all.2 later

theorem Replies.All.forall₂_toList {α β : Type} {query : α → Query}
    {reply : (a : α) → (query a).Reply → β} {as : List α} {replies : Replies (as.map query)}
    (all : replies.All Holds) :
    List.Forall₂ (fun a b => ∃ r, Holds (query a) r ∧ b = reply a r) as
      (replies.toList query reply as) := by
  induction as with
  | nil => exact .nil
  | cons a rest ih =>
    cases replies with
    | cons r replies => exact .cons ⟨r, all.1, rfl⟩ (ih all.2)

theorem Replies.map_toList {α β γ : Type} {query : α → Query} (reply : (a : α) → (query a).Reply → β)
    (f : β → γ) {as : List α} (replies : Replies (as.map query)) :
    (replies.toList query reply as).map f = replies.toList query (fun a r => f (reply a r)) as := by
  induction as with
  | nil => rfl
  | cons a rest ih =>
    cases replies with
    | cons r replies => exact congrArg _ (ih replies)

theorem Replies.toList_self {α : Type} {query : α → Query} {as : List α}
    (replies : Replies (as.map query)) : replies.toList query (fun a _ => a) as = as := by
  induction as with
  | nil => rfl
  | cons a rest ih =>
    cases replies with
    | cons r replies => exact congrArg _ (ih replies)

theorem Attempt.reply_of_step? {α : Type} {providers cursor cursor' : Nat} {event : Event α}
    {a a' : Attempt α} (moved : a.step? providers cursor event = some (a', cursor')) {r : α}
    (answered : a'.result? = some (.ok r)) : event = .reply (.ok r) := by
  cases event with
  | start =>
    cases a <;> cases moved
    cases answered
  | reply told =>
    cases a <;> cases moved
    simp only [receive] at answered
    split at answered <;> cases answered
    rfl
  | move =>
    cases a <;> try cases moved
    case refused first index cause =>
      simp only [Attempt.step?, giveUp, Option.some.injEq] at moved
      split at moved <;> cases moved <;> cases answered

namespace Attempts

theorem all_waiting (qs : List Query) : (waiting qs).All Holds := by
  induction qs with
  | nil => trivial
  | cons q rest ih =>
    refine ⟨fun r answered => ?_, ih⟩
    cases answered

theorem All.step? {providers cursor cursor' member : Nat}
    {event : (q : Query) → Attempt.Event q.Reply} {as as' : Attempts qs} (all : as.All Holds)
    (holds : ∀ q r, event q = .reply (.ok r) → Holds q r)
    (moved : as.step? providers cursor event member = some (as', cursor')) : as'.All Holds := by
  induction as generalizing member with
  | nil => cases member <;> cases moved
  | @cons q qs a rest ih =>
    cases member with
    | zero =>
      simp only [Attempts.step?, Option.map_eq_some_iff, Prod.mk.injEq] at moved
      obtain ⟨⟨next, _⟩, moved, rfl, _⟩ := moved
      exact ⟨fun r answered => holds q r (Attempt.reply_of_step? moved answered), all.2⟩
    | succ member =>
      simp only [Attempts.step?, Option.map_eq_some_iff, Prod.mk.injEq] at moved
      obtain ⟨⟨next, other⟩, moved, rfl, rfl⟩ := moved
      exact ⟨all.1, ih all.2 moved⟩

theorem All.fetch_step? {α : Type} {fetch next : Fetch α} {providers cursor cursor' member : Nat}
    {event : Fetch.Event} (all : fetch.attempts.All Holds)
    (holds : ∀ provider, event = .reply provider →
      ∀ q r, q.settle (provider q) = .ok r → Holds q r)
    (moved : fetch.step? providers cursor member event = some (next, cursor')) :
    next.attempts.All Holds := by
  unfold Fetch.step? at moved
  split at moved
  next =>
    simp only [Option.map_eq_some_iff, Prod.mk.injEq] at moved
    obtain ⟨⟨attempts, _⟩, moved, rfl, _⟩ := moved
    refine all.step? (fun q r answered => ?_) moved
    cases event with
    | reply provider =>
      rw [Fetch.Event.on, Attempt.Event.reply.injEq] at answered
      exact holds provider rfl q r answered
    | start => cases answered
    | move => cases answered
  next => cases moved

theorem All.result? {as : Attempts qs} (all : as.All Holds) {replies : Replies qs}
    (settled : as.result? = some (.ok replies)) : replies.All Holds := by
  induction as with
  | nil =>
    cases settled
    trivial
  | cons a rest ih =>
    simp only [Attempts.result?] at settled
    split at settled <;> cases settled
    next r replies here there => exact ⟨all.1 r here, ih all.2 there⟩

theorem All.inOrder? {as : Attempts qs} (all : as.All Holds) {replies : Replies qs}
    (settled : as.inOrder? = some (.ok replies)) : replies.All Holds := by
  induction as with
  | nil =>
    cases settled
    trivial
  | cons a rest ih =>
    simp only [Attempts.inOrder?] at settled
    split at settled
    next r here =>
      simp only [Option.map_eq_some_iff, Outcome.map_eq_ok_iff] at settled
      obtain ⟨_, there, later, rfl, rfl⟩ := settled
      exact ⟨all.1 r here, ih all.2 there⟩
    next => cases settled
    next => cases settled

theorem All.groupResult? {as : Attempts qs} (all : as.All Holds) {replies : Replies qs}
    (settled : as.groupResult? = some (.ok replies)) : replies.All Holds := by
  unfold Attempts.groupResult? at settled
  split at settled
  next => exact all.result? settled
  next =>
    split at settled
    next => cases settled
    next => exact all.inOrder? settled

theorem All.outcome? {as : Attempts qs} (all : as.All Holds) {apart : Nat} {replies : Replies qs}
    (settled : as.outcome? apart = some (.ok replies)) : replies.All Holds := by
  induction apart generalizing qs as with
  | zero => exact all.groupResult? settled
  | succ apart ih =>
    cases as with
    | nil => exact all.groupResult? settled
    | cons a rest =>
      simp only [Attempts.outcome?] at settled
      split at settled <;> cases settled
      next r replies here there => exact ⟨all.1 r here, ih all.2 there⟩

end Attempts

end CoinWallet
