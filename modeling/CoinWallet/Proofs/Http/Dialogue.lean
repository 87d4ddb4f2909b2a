import CoinWallet.Http.Dialogue

set_option autoImplicit false

namespace CoinWallet.Http.Dialogue

variable {α : Type} {r : Outcome NetworkError α}

inductive Yields : Dialogue α → Outcome NetworkError α → Prop
  | done (r : Outcome NetworkError α) : Yields (done r) r
  | ask {request : Request} {next : Except NetworkError Response → Dialogue α}
    {r : Outcome NetworkError α} (answer : Except NetworkError Response)
    (rest : Yields (next answer) r) : Yields (ask request next) r

theorem yields_run {σ : Type} (send : Request → StateM σ (Except NetworkError Response))
    (d : Dialogue α) (state : σ) : d.Yields (d.run send state).1 := by
  induction d generalizing state with
  | done r => exact .done r
  | ask request next ih =>
    exact .ask (send request state).1 (ih _ _)

variable {sends : Request → Except NetworkError Response → Prop}

inductive YieldsBy (sends : Request → Except NetworkError Response → Prop) :
    Dialogue α → Outcome NetworkError α → Prop
  | done (r : Outcome NetworkError α) : YieldsBy sends (done r) r
  | ask {request : Request} {next : Except NetworkError Response → Dialogue α}
    {r : Outcome NetworkError α} (answer : Except NetworkError Response)
    (sent : sends request answer) (rest : YieldsBy sends (next answer) r) :
    YieldsBy sends (ask request next) r

theorem yields_iff {d : Dialogue α} : d.Yields r ↔ d.YieldsBy (fun _ _ => True) r := by
  constructor
  next =>
    intro yields
    induction yields with
    | done r => exact .done r
    | ask answer rest ih => exact .ask answer trivial ih
  next =>
    intro yields
    induction yields with
    | done r => exact .done r
    | ask answer sent rest ih => exact .ask answer ih

-- a server whose answers follow from the requests
theorem yieldsBy_run (answer : Request → Except NetworkError Response) (d : Dialogue α) :
    d.YieldsBy (fun request a => a = answer request) (d.run (m := Id) answer) := by
  induction d with
  | done r => exact .done r
  | ask request next ih => exact .ask (answer request) rfl (ih _)

theorem exists_answer_of_again {request : Request}
    {next : Except NetworkError Response → Dialogue α} {repetitions : Nat}
    (yields : (again request next repetitions).YieldsBy sends r) :
    ∃ answer, sends request answer ∧ (next answer).YieldsBy sends r := by
  induction repetitions with
  | zero =>
    cases yields with
    | ask answer sent rest => exact ⟨answer, sent, rest⟩
  | succ n ih =>
    cases yields with
    | ask answer sent rest =>
      by_cases repeats : isTransient answer = true
      next =>
        simp only [repeats, if_true] at rest
        exact ih rest
      next =>
        simp only [repeats] at rest
        exact ⟨answer, sent, rest⟩

-- repeated requests bring no other result than single ones
theorem YieldsBy.of_retrying {repetitions : Nat} {d : Dialogue α}
    (yields : (d.retrying repetitions).YieldsBy sends r) : d.YieldsBy sends r := by
  induction d with
  | done r =>
    cases yields
    exact .done _
  | ask request next ih =>
    obtain ⟨answer, sent, rest⟩ := exists_answer_of_again yields
    exact .ask answer sent (ih answer rest)

theorem Yields.of_retrying {repetitions : Nat} {d : Dialogue α}
    (yields : (d.retrying repetitions).Yields r) : d.Yields r :=
  yields_iff.mpr (yields_iff.mp yields).of_retrying

end CoinWallet.Http.Dialogue
