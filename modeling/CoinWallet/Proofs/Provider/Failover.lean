import CoinWallet.Provider.Fetch

set_option autoImplicit false

namespace CoinWallet

namespace Attempt

variable {α : Type} {providers cursor first index : Nat} {answer : Nat → Outcome NetworkError α}

theorem finish_of_final (final : retryCause? (answer index) = none) :
    finish providers answer cursor first index = (answer index, cursor, [index]) := by
  rw [finish, final]

theorem finish_of_last {cause : NetworkError} (failed : retryCause? (answer index) = some cause)
    (last : ¬ index + 1 < providers) :
    finish providers answer cursor first index =
      (.fail (.allProvidersFailed (index + 1 - first) cause), exchange cursor index 0, [index]) := by
  rw [finish, failed]
  simp only [last, if_false]

theorem finish_of_more {cause : NetworkError} (failed : retryCause? (answer index) = some cause)
    (more : index + 1 < providers) :
    finish providers answer cursor first index =
      let later := finish providers answer (exchange cursor index (index + 1)) first (index + 1)
      (later.1, later.2.1, index :: later.2.2) := by
  rw [finish, failed]
  simp only [more, if_true]

theorem finish_stops {before after : List Nat} {provider : Nat}
    (asked : (finish providers answer cursor first index).2.2 = before ++ provider :: after)
    (final : retryCause? (answer provider) = none) : after = [] := by
  fun_induction finish providers answer cursor first index generalizing before with
  | case1 cursor index settled =>
    cases before with
    | nil => exact (List.cons.inj asked).2.symm
    | cons other before => simp at asked
  | case2 cursor index cause failed more r later rest whole ih =>
    cases before with
    | nil =>
      have same : index = provider := (List.cons.inj asked).1
      rw [same, final] at failed
      contradiction
    | cons other before =>
      have tail := (List.cons.inj asked).2
      exact ih (by rw [whole]; exact tail)
  | case3 cursor index cause failed last =>
    cases before with
    | nil => exact (List.cons.inj asked).2.symm
    | cons other before => simp at asked

def contact? (providers cursor : Nat) : Event α → Attempt α → Option Nat
  | .start, waiting => some (min cursor (providers - 1))
  | .move, refused _ index _ => if index + 1 < providers then some (index + 1) else none
  | _, _ => none

def ahead (providers : Nat) (answer : Nat → Outcome NetworkError α) (cursor : Nat) :
    Attempt α → Outcome NetworkError α × Nat × List Nat
  | waiting => perform providers answer cursor
  | asking first index =>
    let whole := finish providers answer cursor first index
    (whole.1, whole.2.1, whole.2.2.tail)
  | refused first index cause =>
    if index + 1 < providers then
      finish providers answer (exchange cursor index (index + 1)) first (index + 1)
    else
      (.fail (.allProvidersFailed (index + 1 - first) cause), exchange cursor index 0, [])
  | answered r => (r, cursor, [])

theorem asked_eq_cons (providers : Nat) (answer : Nat → Outcome NetworkError α)
    (cursor first index : Nat) :
    (finish providers answer cursor first index).2.2 =
      index :: (finish providers answer cursor first index).2.2.tail := by
  cases failed : retryCause? (answer index) with
  | none => rw [finish_of_final failed, List.tail_cons]
  | some cause =>
    by_cases more : index + 1 < providers
    next => rw [finish_of_more failed more, List.tail_cons]
    next => rw [finish_of_last failed more, List.tail_cons]

def Agrees (answer : Nat → Outcome NetworkError α) : Event α → Attempt α → Prop
  | .reply r, asking _ index => r = answer index
  | _, _ => True

theorem ahead_step? {cursor' : Nat} {event : Event α} {a a' : Attempt α}
    (moved : a.step? providers cursor event = some (a', cursor')) (agrees : Agrees answer event a) :
    a.ahead providers answer cursor =
      let rest := a'.ahead providers answer cursor'
      (rest.1, rest.2.1, (contact? providers cursor event a).toList ++ rest.2.2) := by
  cases a with
  | waiting =>
    cases event <;> cases moved
    simp only [ahead, perform, contact?, Option.toList_some, List.singleton_append]
    rw [← asked_eq_cons]
  | asking first index =>
    cases event <;> cases moved
    cases agrees
    simp only [ahead, receive, contact?, Option.toList_none, List.nil_append]
    cases failed : retryCause? (answer index) with
    | none => simp [finish_of_final failed]
    | some cause =>
      by_cases more : index + 1 < providers
      next => simp [finish_of_more failed more, more]
      next => simp [finish_of_last failed more, more]
  | refused first index cause =>
    cases event <;> try cases moved
    case move =>
      by_cases more : index + 1 < providers
      next =>
        simp only [step?, giveUp, more, if_true, Option.some.injEq, Prod.mk.injEq] at moved
        obtain ⟨rfl, rfl⟩ := moved
        simp only [ahead, contact?, more, if_true, Option.toList_some, List.singleton_append]
        rw [← asked_eq_cons]
      next =>
        simp only [step?, giveUp, more, if_false, Option.some.injEq, Prod.mk.injEq] at moved
        obtain ⟨rfl, rfl⟩ := moved
        simp [ahead, contact?, more]
  | answered r => cases event <;> cases moved

end Attempt

end CoinWallet
