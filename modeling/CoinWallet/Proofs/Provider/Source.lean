import CoinWallet.Proofs.Provider.Replies

set_option autoImplicit false

namespace CoinWallet

open Outcome

namespace Query

variable {q : Query} {r : Outcome NetworkError q.Reply}

theorem excuse?_eq_none_iff {cause : NetworkError} :
    q.excuse? cause = none ↔
      ∀ address token text, q = .tokenBalance address token → cause ≠ .outOfRange text := by
  cases q <;> cases cause <;> simp [excuse?]

theorem settle_eq_fail_iff {cause : NetworkError} :
    q.settle r = .fail cause ↔ r = .fail cause ∧ q.excuse? cause = none := by
  cases r with
  | ok reply => simp [settle, fail]
  | error fault =>
    cases fault with
    | overflow => simp [settle, fail]
    | failure other =>
      cases excused : q.excuse? other with
      | some reply =>
        simp only [settle, excused, fail, reduceCtorEq, false_iff]
        rintro ⟨equal, unexcused⟩
        cases equal
        simp [excused] at unexcused
      | none =>
        simp only [settle, excused, fail]
        refine ⟨fun equal => ?_, And.left⟩
        cases equal
        exact ⟨rfl, excused⟩

theorem settle_eq_overflow_iff : q.settle r = .error .overflow ↔ r = .error .overflow := by
  cases r with
  | ok reply => simp [settle]
  | error fault =>
    cases fault with
    | overflow => simp [settle]
    | failure other => cases excused : q.excuse? other <;> simp [settle, excused, fail]

-- a balance that is there was told as such
theorem eq_of_settle_tokenBalance {address : String} {token : Token} {raw : Nat}
    {r : Outcome NetworkError (Option Nat)}
    (settled : (tokenBalance address token).settle r = .ok (some raw)) : r = .ok (some raw) := by
  cases r with
  | ok reply => exact settled
  | error fault =>
    cases fault with
    | overflow => cases settled
    | failure cause => cases cause <;> cases settled

theorem settle_of_strict (strict : ∀ cause, q.excuse? cause = none) : q.settle r = r := by
  cases r with
  | ok reply => rfl
  | error fault =>
    cases fault with
    | overflow => rfl
    | failure cause => simp [settle, strict, Outcome.fail]

end Query

namespace Attempt

variable {α : Type} {Told : Outcome NetworkError α → Prop}

inductive Comes (Told : Outcome NetworkError α → Prop) : Outcome NetworkError α → Prop
  | told {r : Outcome NetworkError α} (told : Told r) : Comes Told r
  | gaveUp {asked : Nat} {cause : NetworkError} (told : Told (.fail cause)) :
    Comes Told (.fail (.allProvidersFailed asked cause))

theorem Comes.ok {a : α} (comes : Comes Told (.ok a)) : Told (.ok a) := by
  cases comes with
  | told told => exact told

theorem Comes.overflow (comes : Comes Told (.error .overflow)) : Told (.error .overflow) := by
  cases comes with
  | told told => exact told

def Relies (Told : Outcome NetworkError α → Prop) : Attempt α → Prop
  | refused _ _ cause => Told (.fail cause)
  | answered r => Comes Told r
  | _ => True

theorem Relies.step? {providers cursor cursor' : Nat} {event : Event α} {a a' : Attempt α}
    (relies : a.Relies Told) (told : ∀ r, event = .reply r → Told r)
    (moved : a.step? providers cursor event = some (a', cursor')) : a'.Relies Told := by
  cases a <;> cases event <;> try cases moved
  case waiting.start => trivial
  case asking.reply first index r =>
    have heard := told r rfl
    unfold receive
    split
    next cause failed =>
      cases r with
      | ok a => cases failed
      | error fault =>
        cases fault with
        | overflow => cases failed
        | failure other =>
          simp only [retryCause?, Option.ite_none_right_eq_some, Option.some.injEq] at failed
          exact failed.2 ▸ heard
    next => exact .told heard
  case refused.move first index cause =>
    simp only [Attempt.step?, giveUp, Option.some.injEq] at moved
    split at moved <;> cases moved
    · trivial
    · exact .gaveUp relies

end Attempt

namespace Attempts

variable {Told : (q : Query) → Outcome NetworkError q.Reply → Prop} {qs : List Query}

def Relies (Told : (q : Query) → Outcome NetworkError q.Reply → Prop) :
    {qs : List Query} → Attempts qs → Prop
  | _, nil => True
  | q :: _, cons a rest => a.Relies (Told q) ∧ rest.Relies Told

theorem relies_waiting (qs : List Query) : (waiting qs).Relies Told := by
  induction qs with
  | nil => trivial
  | cons q rest ih => exact ⟨trivial, ih⟩

theorem Relies.step? {providers cursor cursor' member : Nat}
    {event : (q : Query) → Attempt.Event q.Reply} {as as' : Attempts qs} (relies : as.Relies Told)
    (told : ∀ q r, event q = .reply r → Told q r)
    (moved : as.step? providers cursor event member = some (as', cursor')) : as'.Relies Told := by
  induction as generalizing member with
  | nil => cases member <;> cases moved
  | @cons q qs a rest ih =>
    cases member with
    | zero =>
      simp only [Attempts.step?, Option.map_eq_some_iff, Prod.mk.injEq] at moved
      obtain ⟨⟨next, _⟩, moved, rfl, _⟩ := moved
      exact ⟨relies.1.step? (told q) moved, relies.2⟩
    | succ member =>
      simp only [Attempts.step?, Option.map_eq_some_iff, Prod.mk.injEq] at moved
      obtain ⟨⟨next, other⟩, moved, rfl, rfl⟩ := moved
      exact ⟨relies.1, ih relies.2 moved⟩

theorem Relies.fetch_step? {α : Type} {fetch next : Fetch α} {providers cursor cursor' member : Nat}
    {event : Fetch.Event} (relies : fetch.attempts.Relies Told)
    (told : ∀ provider, event = .reply provider → ∀ q, Told q (q.settle (provider q)))
    (moved : fetch.step? providers cursor member event = some (next, cursor')) :
    next.attempts.Relies Told := by
  unfold Fetch.step? at moved
  split at moved
  next =>
    simp only [Option.map_eq_some_iff, Prod.mk.injEq] at moved
    obtain ⟨⟨attempts, _⟩, moved, rfl, _⟩ := moved
    refine relies.step? (fun q r answered => ?_) moved
    cases event with
    | reply provider =>
      rw [Fetch.Event.on, Attempt.Event.reply.injEq] at answered
      exact answered ▸ told provider rfl q
    | start => cases answered
    | move => cases answered
  next => cases moved

theorem Relies.all {as : Attempts qs} (relies : as.Relies Told) :
    as.All fun q r => Told q (.ok r) := by
  induction as with
  | nil => trivial
  | cons a rest ih =>
    refine ⟨fun r answered => ?_, ih relies.2⟩
    have here := relies.1
    cases a <;> cases answered
    exact Attempt.Comes.ok here

def Fails (Told : (q : Query) → Outcome NetworkError q.Reply → Prop) (qs : List Query)
    (fault : Fault NetworkError) : Prop :=
  ∃ q ∈ qs, Attempt.Comes (Told q) (.error fault)

theorem Fails.cons {fault : Fault NetworkError} (fails : Fails Told qs fault) (q : Query) :
    Fails Told (q :: qs) fault := by
  obtain ⟨other, member, comes⟩ := fails
  exact ⟨other, List.mem_cons_of_mem q member, comes⟩

theorem fails_of_result? {q : Query} {a : Attempt q.Reply} {fault : Fault NetworkError}
    (relies : a.Relies (Told q)) (answered : a.result? = some (.error fault)) (qs : List Query) :
    Fails Told (q :: qs) fault := by
  cases a <;> cases answered
  exact ⟨q, List.mem_cons_self, relies⟩

theorem Relies.result? {as : Attempts qs} (relies : as.Relies Told) {fault : Fault NetworkError}
    (settled : as.result? = some (.error fault)) : Fails Told qs fault := by
  induction as with
  | nil => cases settled
  | @cons q qs a rest ih =>
    simp only [Attempts.result?] at settled
    split at settled <;> cases settled
    next here => exact fails_of_result? relies.1 here qs
    next there => exact (ih relies.2 there).cons q

theorem Relies.inOrder? {as : Attempts qs} (relies : as.Relies Told) {fault : Fault NetworkError}
    (settled : as.inOrder? = some (.error fault)) : Fails Told qs fault := by
  induction as with
  | nil => cases settled
  | @cons q qs a rest ih =>
    simp only [Attempts.inOrder?] at settled
    split at settled
    next r here =>
      simp only [Option.map_eq_some_iff] at settled
      obtain ⟨r, there, result⟩ := settled
      cases r with
      | ok replies => cases result
      | error other =>
        cases result
        exact (ih relies.2 there).cons q
    next here =>
      cases settled
      exact fails_of_result? relies.1 here qs
    next => cases settled

theorem fails_of_overflows {as : Attempts qs} (relies : as.Relies Told)
    (overflows : (as.toList.any fun ⟨_, a⟩ => a.overflows) = true) : Fails Told qs .overflow := by
  induction as with
  | nil => cases overflows
  | @cons q qs a rest ih =>
    rw [toList, List.any_cons, Bool.or_eq_true] at overflows
    rcases overflows with here | there
    next =>
      refine fails_of_result? relies.1 ?_ qs
      cases a with
      | answered r =>
        cases r with
        | ok a => cases here
        | error fault =>
          cases fault with
          | failure cause => cases here
          | overflow => rfl
      | _ => cases here
    next => exact (ih relies.2 there).cons q

theorem Relies.groupResult? {as : Attempts qs} (relies : as.Relies Told)
    {fault : Fault NetworkError} (settled : as.groupResult? = some (.error fault)) :
    Fails Told qs fault := by
  unfold Attempts.groupResult? at settled
  split at settled
  next => exact relies.result? settled
  next =>
    split at settled
    next overflows =>
      cases settled
      exact fails_of_overflows relies overflows
    next => exact relies.inOrder? settled

theorem Relies.outcome? {as : Attempts qs} (relies : as.Relies Told) {apart : Nat}
    {fault : Fault NetworkError} (settled : as.outcome? apart = some (.error fault)) :
    Fails Told qs fault := by
  induction apart generalizing qs as with
  | zero => exact relies.groupResult? settled
  | succ apart ih =>
    cases as with
    | nil => exact relies.groupResult? settled
    | @cons q qs a rest =>
      simp only [Attempts.outcome?] at settled
      split at settled <;> cases settled
      next here => exact fails_of_result? relies.1 here qs
      next there => exact (ih relies.2 there).cons q

end Attempts

inductive Plan.Ends {α : Type} (Told : (q : Query) → Outcome NetworkError q.Reply → Prop)
    (plan : Plan α) : Fault ManagerError → Prop
  | query {fault : Fault NetworkError} (fails : Attempts.Fails Told plan.queries fault) :
    Ends Told plan (fault.map .network)
  | conclude {fault : Fault ManagerError} {replies : Replies plan.queries}
    (told : replies.All fun q r => Told q (.ok r)) (concluded : plan.conclude replies = .error fault) :
    Ends Told plan fault

def NetworkError.BlamedBy (fault : NetworkError) (cause : ManagerError) : Prop :=
  cause = .network fault ∨ ∃ asked, cause = .network (.allProvidersFailed asked fault)

theorem Plan.Ends.blamed_or_concluded {α : Type}
    {Told : (q : Query) → Outcome NetworkError q.Reply → Prop} {plan : Plan α} {cause : ManagerError}
    (ends : plan.Ends Told (.failure cause)) :
    (∃ q ∈ plan.queries, ∃ fault : NetworkError, Told q (.fail fault) ∧ fault.BlamedBy cause) ∨
      ∃ replies, replies.All (fun q r => Told q (.ok r)) ∧ plan.conclude replies = .fail cause := by
  generalize whole : Fault.failure cause = fault at ends
  cases ends with
  | @query inner fails =>
    obtain ⟨q, member, comes⟩ := fails
    cases inner with
    | overflow => cases whole
    | failure fault =>
      cases whole
      left
      cases comes with
      | told told => exact ⟨q, member, fault, told, .inl rfl⟩
      | @gaveUp asked last told => exact ⟨q, member, last, told, .inr ⟨asked, rfl⟩⟩
  | @conclude _ replies told concluded =>
    subst whole
    exact .inr ⟨replies, told, concluded⟩

theorem Plan.Ends.overflows {α : Type} {Told : (q : Query) → Outcome NetworkError q.Reply → Prop}
    {plan : Plan α} (ends : plan.Ends Told .overflow) :
    (∃ q ∈ plan.queries, Told q (.error .overflow)) ∨
      ∃ replies, replies.All (fun q r => Told q (.ok r)) ∧
        plan.conclude replies = .error .overflow := by
  generalize whole : Fault.overflow = fault at ends
  cases ends with
  | @query inner fails =>
    obtain ⟨q, member, comes⟩ := fails
    cases inner with
    | failure fault => cases whole
    | overflow => exact .inl ⟨q, member, comes.overflow⟩
  | @conclude _ replies told concluded =>
    subst whole
    exact .inr ⟨replies, told, concluded⟩

-- a plan whose answers always add up overflows only where a query does
theorem Plan.Ends.ne_overflow {α : Type} {Told : (q : Query) → Outcome NetworkError q.Reply → Prop}
    {plan : Plan α} {fault : Fault ManagerError} (ends : plan.Ends Told fault)
    (sound : ∀ q ∈ plan.queries, ¬ Told q (.error .overflow))
    (adds : ∀ replies, replies.All (fun q r => Told q (.ok r)) →
      plan.conclude replies ≠ .error .overflow) : fault ≠ .overflow := by
  rintro rfl
  obtain ⟨q, member, told⟩ | ⟨replies, told, concluded⟩ := ends.overflows
  · exact sound q member told
  · exact adds replies told concluded

theorem Fetch.ends_of_result? {α : Type}
    {Told : (q : Query) → Outcome NetworkError q.Reply → Prop} {fetch : Fetch α}
    {fault : Fault ManagerError} (relies : fetch.attempts.Relies Told)
    (settled : fetch.result? = some (.error fault)) : fetch.plan.Ends Told fault := by
  simp only [result?, Option.map_eq_some_iff] at settled
  obtain ⟨r, all, result⟩ := settled
  cases r with
  | ok replies => exact .conclude (relies.all.outcome? all) result
  | error inner =>
    cases result
    exact .query (relies.outcome? all)

end CoinWallet
