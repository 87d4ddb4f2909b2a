import CoinWallet.Proofs.Provider.Failover

set_option autoImplicit false

namespace CoinWallet

namespace Attempt

variable {α : Type} {providers cursor cursor' first index : Nat}
  {answer : Nat → Outcome NetworkError α}

def Retryable (r : Outcome NetworkError α) : Prop :=
  ∃ cause, r = .fail cause ∧ cause.isRetryable = true

theorem retryCause?_eq_some_iff {r : Outcome NetworkError α} {cause : NetworkError} :
    retryCause? r = some cause ↔ r = .fail cause ∧ cause.isRetryable = true := by
  cases r with
  | ok a => simp [retryCause?, Outcome.fail]
  | error fault =>
    cases fault with
    | overflow => simp [retryCause?, Outcome.fail]
    | failure other =>
      simp only [retryCause?, Outcome.fail, Option.ite_none_right_eq_some, Option.some.injEq,
        Except.error.injEq, Fault.failure.injEq]
      constructor
      next =>
        rintro ⟨retry, rfl⟩
        exact ⟨rfl, retry⟩
      next =>
        rintro ⟨rfl, retry⟩
        exact ⟨retry, rfl⟩

theorem retryCause?_eq_none_iff {r : Outcome NetworkError α} :
    retryCause? r = none ↔ ¬ Retryable r := by
  simp only [Option.eq_none_iff_forall_ne_some, ne_eq, retryCause?_eq_some_iff, Retryable,
    not_exists]

/-- How a request ends that starts at the provider `first`: the providers it has asked, the cursor
it leaves, and its answer. -/
inductive Ending (providers : Nat) (answer : Nat → Outcome NetworkError α) (first : Nat) :
    List Nat → Nat → Outcome NetworkError α → Prop
  | stops {index : Nat} (later : first ≤ index) (inside : index < providers)
      (failed : ∀ i, first ≤ i → i < index → Retryable (answer i))
      (final : ¬ Retryable (answer index)) :
    Ending providers answer first (List.range' first (index + 1 - first)) index (answer index)
  | runsOut {cause : NetworkError}
      (failed : ∀ i, first ≤ i → i < providers → Retryable (answer i))
      (last : answer (providers - 1) = .fail cause) :
    Ending providers answer first (List.range' first (providers - first)) 0
      (.fail (.allProvidersFailed (providers - first) cause))

@[simp] theorem exchange_self (old new : Nat) : exchange old old new = new := if_pos rfl

theorem range'_snoc (later : first ≤ index) :
    List.range' first (index - first) ++ [index] = List.range' first (index + 1 - first) := by
  have count : index + 1 - first = index - first + 1 := by omega
  have last : index = first + (index - first) := by omega
  rw [count, List.range'_concat, Nat.one_mul, ← last]

-- the providers before `index` are those that have failed so far
theorem finish_ending {index cursor : Nat} {asked : List Nat} {r : Outcome NetworkError α}
    (later : first ≤ index) (inside : index < providers)
    (failed : ∀ i, first ≤ i → i < index → Retryable (answer i))
    (whole : finish providers answer index first index = (r, cursor, asked)) :
    Ending providers answer first (List.range' first (index - first) ++ asked) cursor r := by
  cases word : retryCause? (answer index) with
  | none =>
    rw [finish_of_final word] at whole
    cases whole
    rw [range'_snoc later]
    exact .stops later inside failed (retryCause?_eq_none_iff.mp word)
  | some cause =>
    have refused := retryCause?_eq_some_iff.mp word
    have all : ∀ i, first ≤ i → i < index + 1 → Retryable (answer i) := by
      intro i low high
      by_cases here : i = index
      next => exact here ▸ ⟨cause, refused⟩
      next => exact failed i low (by omega)
    by_cases more : index + 1 < providers
    next =>
      rw [finish_of_more word more, exchange_self] at whole
      cases whole
      rw [List.append_cons, range'_snoc later]
      exact finish_ending (Nat.le_succ_of_le later) more all rfl
    next =>
      have last : providers = index + 1 := by omega
      subst last
      rw [finish_of_last word more, exchange_self] at whole
      cases whole
      rw [range'_snoc later]
      exact .runsOut all refused.1
termination_by providers - index

theorem finish_eq_ok_iff {index cursor : Nat} {a : α} (inside : index < providers) :
    (finish providers answer cursor first index).1 = .ok a ↔
      ∃ last, index ≤ last ∧ last < providers ∧
        (∀ i, index ≤ i → i < last → Retryable (answer i)) ∧ answer last = .ok a := by
  cases word : retryCause? (answer index) with
  | none =>
    rw [finish_of_final word]
    constructor
    next => exact fun taken => ⟨index, Nat.le_refl index, inside, by omega, taken⟩
    next =>
      rintro ⟨last, later, _, failed, taken⟩
      rcases Nat.eq_or_lt_of_le later with rfl | beyond
      · exact taken
      · exact absurd (failed index (Nat.le_refl index) beyond) (retryCause?_eq_none_iff.mp word)
  | some cause =>
    have refused := retryCause?_eq_some_iff.mp word
    have apart {last : Nat} (taken : answer last = .ok a) : last ≠ index := by
      rintro rfl
      rw [refused.1] at taken
      cases taken
    by_cases more : index + 1 < providers
    next =>
      rw [finish_of_more word more]
      refine (finish_eq_ok_iff more).trans ?_
      constructor
      next =>
        rintro ⟨last, later, within, failed, taken⟩
        refine ⟨last, by omega, within, fun i low high => ?_, taken⟩
        by_cases here : i = index
        next => exact here ▸ ⟨cause, refused⟩
        next => exact failed i (by omega) high
      next =>
        rintro ⟨last, later, within, failed, taken⟩
        have different := apart taken
        exact ⟨last, by omega, within, fun i low high => failed i (by omega) high, taken⟩
    next =>
      rw [finish_of_last word more]
      refine iff_of_false nofun ?_
      rintro ⟨last, later, within, _, taken⟩
      have different := apart taken
      omega
termination_by providers - index

theorem perform_ending {asked : List Nat} {r : Outcome NetworkError α} (inside : cursor < providers)
    (whole : perform providers answer cursor = (r, cursor', asked)) :
    Ending providers answer cursor asked cursor' r := by
  have start : min cursor (providers - 1) = cursor := by omega
  simp only [perform, start] at whole
  have ending := finish_ending (Nat.le_refl cursor) inside (by omega) whole
  simpa only [Nat.sub_self, List.range'_zero, List.nil_append] using ending

theorem Ending.cursor_lt {asked : List Nat} {r : Outcome NetworkError α} (positive : 0 < providers)
    (ending : Ending providers answer first asked cursor r) : cursor < providers := by
  cases ending with
  | stops _ inside _ _ => exact inside
  | runsOut _ _ => exact positive

-- if any provider has a last word, a request gets to it that starts where another one has ended
theorem Ending.again {asked asked' : List Nat} {r r' : Outcome NetworkError α}
    (ending : Ending providers answer first asked cursor r)
    (again : Ending providers answer cursor asked' cursor' r')
    (some : ∃ i < providers, ¬ Retryable (answer i)) :
    cursor' < providers ∧ ¬ Retryable (answer cursor') ∧ r' = answer cursor' := by
  cases again with
  | stops _ inside _ final => exact ⟨inside, final, rfl⟩
  | runsOut failed _ =>
    exfalso
    cases ending with
    | stops _ inside _ final => exact final (failed cursor (Nat.le_refl _) inside)
    | runsOut _ _ =>
      obtain ⟨i, inside, final⟩ := some
      exact final (failed i (Nat.zero_le _) inside)

inductive Alone (providers : Nat) (answer : Nat → Outcome NetworkError α) :
    Nat → Attempt α → Nat → List Nat → Nat → Attempt α → Prop
  | stay (cursor : Nat) (a : Attempt α) : Alone providers answer cursor a 0 [] cursor a
  | step {cursor next last steps : Nat} {a a' a'' : Attempt α} {event : Event α} {asked : List Nat}
      (agrees : Agrees answer event a) (moved : a.step? providers cursor event = some (a', next))
      (rest : Alone providers answer next a' steps asked last a'') :
    Alone providers answer cursor a (steps + 1) ((contact? providers cursor event a).toList ++ asked)
      last a''

variable {steps : Nat} {asked : List Nat} {a a' : Attempt α}

theorem Alone.ahead_eq (alone : Alone providers answer cursor a steps asked cursor' a') :
    a.ahead providers answer cursor =
      let rest := a'.ahead providers answer cursor'
      (rest.1, rest.2.1, asked ++ rest.2.2) := by
  induction alone with
  | stay cursor a => rfl
  | step agrees moved rest ih => simp only [ahead_step? moved agrees, ih, List.append_assoc]

theorem Alone.perform_eq {r : Outcome NetworkError α}
    (alone : Alone providers answer cursor waiting steps asked cursor' (answered r)) :
    perform providers answer cursor = (r, cursor', asked) := by
  have whole := alone.ahead_eq
  simpa only [ahead, List.append_nil] using whole

def Inside (providers : Nat) : Attempt α → Prop
  | asking _ index | refused _ index _ => index < providers
  | _ => True

-- how many steps a request can still make
def room (providers cursor : Nat) : Attempt α → Nat
  | waiting => 2 * (providers - min cursor (providers - 1)) + 1
  | asking _ index => 2 * (providers - index)
  | refused _ index _ => 2 * (providers - index) - 1
  | answered _ => 0

theorem step?_inside {event : Event α} (positive : 0 < providers) (inside : a.Inside providers)
    (moved : a.step? providers cursor event = some (a', cursor')) : a'.Inside providers := by
  cases a <;> cases event <;> try cases moved
  case waiting.start => simp only [Inside]; omega
  case asking.reply first index r =>
    unfold receive
    split
    · exact inside
    · trivial
  case refused.move first index cause =>
    simp only [step?, giveUp, Option.some.injEq] at moved
    split at moved <;> cases moved
    · assumption
    · trivial

theorem step?_room {event : Event α} (inside : a.Inside providers)
    (moved : a.step? providers cursor event = some (a', cursor')) :
    a'.room providers cursor' < a.room providers cursor := by
  cases a <;> cases event <;> try cases moved
  case waiting.start => simp only [room]; omega
  case asking.reply first index r =>
    simp only [Inside] at inside
    unfold receive
    split <;> simp only [room] <;> omega
  case refused.move first index cause =>
    simp only [Inside] at inside
    simp only [step?, giveUp, Option.some.injEq] at moved
    split at moved <;> cases moved <;> simp only [room] <;> omega

theorem Alone.room_le (positive : 0 < providers) (inside : a.Inside providers)
    (alone : Alone providers answer cursor a steps asked cursor' a') :
    a'.Inside providers ∧ steps + a'.room providers cursor' ≤ a.room providers cursor := by
  induction alone with
  | stay cursor a => exact ⟨inside, by omega⟩
  | step agrees moved rest ih =>
    have less := step?_room inside moved
    obtain ⟨still, bound⟩ := ih (step?_inside positive inside moved)
    exact ⟨still, by omega⟩

theorem exists_answered (positive : 0 < providers) (cursor : Nat) (a : Attempt α)
    (inside : a.Inside providers) :
    ∃ steps asked cursor' r, Alone providers answer cursor a steps asked cursor' (answered r) := by
  have go (event : Event α) (a' : Attempt α) (next : Nat) (agrees : Agrees answer event a)
      (moved : a.step? providers cursor event = some (a', next)) :
      ∃ steps asked cursor' r, Alone providers answer cursor a steps asked cursor' (answered r) := by
    have less := step?_room inside moved
    obtain ⟨steps, asked, cursor', r, rest⟩ :=
      exists_answered positive next a' (step?_inside positive inside moved)
    exact ⟨_, _, _, r, .step agrees moved rest⟩
  cases a with
  | waiting => exact go .start _ _ trivial rfl
  | asking first index => exact go (.reply (answer index)) _ _ rfl rfl
  | refused first index cause => exact go .move _ _ trivial rfl
  | answered r => exact ⟨_, _, _, r, .stay cursor _⟩
termination_by a.room providers cursor

/-- A request alone makes a bounded number of steps and gets to its end. Of two requests, one after
the other, at most the first gives up, unless every provider fails. -/
theorem ending_of_alone (answer : Nat → Outcome NetworkError α) (inside : cursor < providers) :
    (∀ steps asked cursor' a, Alone providers answer cursor waiting steps asked cursor' a →
      steps ≤ 2 * (providers - cursor) + 1 ∧
      (∃ more others last r, Alone providers answer cursor' a more others last (answered r)) ∧
      ∀ r, a = answered r → Ending providers answer cursor asked cursor' r) ∧
    ((∃ i < providers, ¬ Retryable (answer i)) →
      ∀ steps asked middle r steps' asked' last r',
        Alone providers answer cursor waiting steps asked middle (answered r) →
        Alone providers answer middle waiting steps' asked' last (answered r') →
          last < providers ∧ ¬ Retryable (answer last) ∧ r' = answer last) := by
  have positive : 0 < providers := by omega
  have ends {c steps last : Nat} {asked : List Nat} {r : Outcome NetworkError α}
      (low : c < providers) (alone : Alone providers answer c waiting steps asked last (answered r)) :
      Ending providers answer c asked last r :=
    perform_ending low alone.perform_eq
  constructor
  next =>
    intro steps asked cursor' a alone
    obtain ⟨still, bound⟩ := alone.room_le positive (a := waiting) trivial
    refine ⟨?_, exists_answered positive cursor' a still, ?_⟩
    · simp only [room] at bound
      omega
    · rintro r rfl
      exact ends inside alone
  next =>
    intro some steps asked middle r steps' asked' last r' one two
    have first := ends inside one
    exact first.again (ends (first.cursor_lt positive) two) some

end Attempt

namespace Sample

open Attempt

-- all providers but the first one are slow
def firstOnly : Nat → Outcome NetworkError String
  | 0 => .ok "block"
  | _ + 1 => .fail (.timeout "slow")

theorem ending_of_alone_gives_up :
    1 < 3 ∧ ∃ steps steps' asked,
      Alone 3 firstOnly 1 waiting steps [1, 2] 0
        (answered (.fail (.allProvidersFailed 2 (.timeout "slow")))) ∧
      Alone 3 firstOnly 0 waiting steps' asked 0 (answered (.ok "block")) := by
  have slow : ∀ i, 1 ≤ i → Retryable (firstOnly i) := by
    rintro (_ | i) late
    · omega
    · exact ⟨_, rfl, rfl⟩
  have ready : ¬ Retryable (firstOnly 0) := by simp [Retryable, firstOnly, Outcome.fail]
  have inside : 1 < 3 := by decide
  obtain ⟨runs, again⟩ := ending_of_alone firstOnly inside
  obtain ⟨_, ⟨steps, asked, middle, r, one⟩, _⟩ := runs 0 [] 1 waiting (.stay 1 waiting)
  have ending := (runs steps asked middle _ one).2.2 r rfl
  cases ending with
  | stops later _ _ final => exact absurd (slow _ later) final
  | runsOut _ word =>
    cases word
    obtain ⟨steps', asked', last, r', two⟩ :
        ∃ steps asked last r, Alone 3 firstOnly 0 waiting steps asked last (answered r) :=
      exists_answered (Nat.succ_pos 2) 0 waiting trivial
    obtain ⟨_, final, rfl⟩ := again ⟨0, by decide, ready⟩ _ _ _ _ _ _ _ _ one two
    cases last with
    | zero => exact ⟨inside, steps, steps', asked', one, two⟩
    | succ last => exact absurd (slow _ (by omega)) final

end Sample

end CoinWallet
