import CoinWallet.Proofs.Provider.Ending

set_option autoImplicit false

namespace CoinWallet

namespace Attempt

variable {α : Type} {providers cursor cursor' : Nat} {a a' : Attempt α}

-- how many steps are left, wherever the cursor is when the request starts
def weight (providers : Nat) : Attempt α → Nat
  | waiting => 2 * providers + 1
  | asking _ index => 2 * (providers - index)
  | refused _ index _ => 2 * (providers - index) - 1
  | answered _ => 0

theorem step?_weight {event : Event α} (inside : a.Inside providers)
    (moved : a.step? providers cursor event = some (a', cursor')) :
    a'.weight providers < a.weight providers := by
  cases a <;> cases event <;> try cases moved
  case waiting.start => simp only [weight]; omega
  case asking.reply first index r =>
    simp only [Inside] at inside
    unfold receive
    split <;> simp only [weight] <;> omega
  case refused.move first index cause =>
    simp only [Inside] at inside
    simp only [step?, giveUp, Option.some.injEq] at moved
    split at moved <;> cases moved <;> simp only [weight] <;> omega

theorem hasBegun_of_result? {r : Outcome NetworkError α} (answered : a.result? = some r) :
    a.hasBegun = true := by
  cases a <;> cases answered
  rfl

end Attempt

def Fetch.Event.Allowed (provider : Provider) : Fetch.Event → Prop
  | reply other => other = provider
  | _ => True

theorem Attempt.exists_event {q : Query} {a : Attempt q.Reply} (unanswered : a.result? = none)
    (provider : Provider) (providers cursor : Nat) :
    ∃ event : Fetch.Event, event.Allowed provider ∧
      ∃ next, a.step? providers cursor (event.on q) = some next := by
  cases a with
  | waiting => exact ⟨.start, trivial, _, rfl⟩
  | asking first index => exact ⟨.reply provider, rfl, _, rfl⟩
  | refused first index cause => exact ⟨.move, trivial, _, rfl⟩
  | answered r => cases unanswered

namespace Attempts

variable {qs : List Query} {providers cursor cursor' : Nat}

def weight (providers : Nat) : {qs : List Query} → Attempts qs → Nat
  | _, nil => 0
  | _, cons a rest => a.weight providers + rest.weight providers

def Inside (providers : Nat) : {qs : List Query} → Attempts qs → Prop
  | _, nil => True
  | _, cons a rest => a.Inside providers ∧ rest.Inside providers

theorem inside_waiting (providers : Nat) (qs : List Query) : (waiting qs).Inside providers := by
  induction qs with
  | nil => trivial
  | cons q rest ih => exact ⟨trivial, ih⟩

theorem step?_inside_weight {event : (q : Query) → Attempt.Event q.Reply} {member : Nat}
    {as as' : Attempts qs} (positive : 0 < providers) (inside : as.Inside providers)
    (moved : as.step? providers cursor event member = some (as', cursor')) :
    as'.Inside providers ∧ as'.weight providers < as.weight providers := by
  induction as generalizing member with
  | nil => cases member <;> cases moved
  | @cons q qs a rest ih =>
    obtain ⟨here, there⟩ := inside
    cases member with
    | zero =>
      simp only [Attempts.step?, Option.map_eq_some_iff, Prod.mk.injEq] at moved
      obtain ⟨⟨next, _⟩, moved, rfl, _⟩ := moved
      have less := Attempt.step?_weight here moved
      refine ⟨⟨Attempt.step?_inside positive here moved, there⟩, ?_⟩
      simp only [weight]
      omega
    | succ member =>
      simp only [Attempts.step?, Option.map_eq_some_iff, Prod.mk.injEq] at moved
      obtain ⟨⟨next, other⟩, moved, rfl, rfl⟩ := moved
      obtain ⟨still, less⟩ := ih there moved
      refine ⟨⟨here, still⟩, ?_⟩
      simp only [weight]
      omega

-- every request has its answer
def Over : {qs : List Query} → Attempts qs → Prop
  | _, nil => True
  | _, cons a rest => a.result?.isSome = true ∧ rest.Over

theorem Over.result? {as : Attempts qs} (ended : as.Over) : as.result?.isSome = true := by
  induction as with
  | nil => rfl
  | cons a rest ih =>
    obtain ⟨r, here⟩ := Option.isSome_iff_exists.mp ended.1
    obtain ⟨others, there⟩ := Option.isSome_iff_exists.mp (ih ended.2)
    cases r <;> cases others <;> simp [Attempts.result?, here, there]

theorem Over.inOrder? {as : Attempts qs} (ended : as.Over) : as.inOrder?.isSome = true := by
  induction as with
  | nil => rfl
  | cons a rest ih =>
    obtain ⟨r, here⟩ := Option.isSome_iff_exists.mp ended.1
    obtain ⟨others, there⟩ := Option.isSome_iff_exists.mp (ih ended.2)
    cases r <;> simp [Attempts.inOrder?, here, there]

theorem Over.groupResult? {as : Attempts qs} (ended : as.Over) : as.groupResult?.isSome = true := by
  unfold Attempts.groupResult?
  split
  · exact ended.result?
  · split
    · rfl
    · exact ended.inOrder?

theorem Over.outcome? {as : Attempts qs} (ended : as.Over) (apart : Nat) :
    (as.outcome? apart).isSome = true := by
  induction apart generalizing qs as with
  | zero => exact ended.groupResult?
  | succ apart ih =>
    cases as with
    | nil => exact ended.groupResult?
    | cons a rest =>
      obtain ⟨r, here⟩ := Option.isSome_iff_exists.mp ended.1
      obtain ⟨others, there⟩ := Option.isSome_iff_exists.mp (ih ended.2)
      cases r <;> cases others <;> simp [Attempts.outcome?, here, there]

-- the first request without an answer can go on: those before it have begun
theorem exists_step {as : Attempts qs} (unsettled : ¬ as.Over) (provider : Provider)
    (providers cursor : Nat) :
    ∃ member event next, event.Allowed provider ∧ as.mayStart member = true ∧
      as.step? providers cursor (fun q => Fetch.Event.on q event) member = some next := by
  induction as with
  | nil => exact absurd trivial unsettled
  | @cons q qs a rest ih =>
    cases here : a.result? with
    | none =>
      obtain ⟨event, allowed, next, moved⟩ := Attempt.exists_event here provider providers cursor
      exact ⟨0, event, (cons next.1 rest, next.2), allowed, rfl, by simp [Attempts.step?, moved]⟩
    | some r =>
      have later : ¬ rest.Over := fun ended => unsettled ⟨by simp [here], ended⟩
      obtain ⟨member, event, next, allowed, begun, moved⟩ := ih later
      have first := Attempt.hasBegun_of_result? here
      refine ⟨member + 1, event, (cons a next.1, next.2), allowed, ?_, by simp [Attempts.step?, moved]⟩
      simp only [mayStart] at begun
      simp only [mayStart, toList, List.take_succ_cons, List.all_cons, first, begun, Bool.and_self]

end Attempts

theorem Fetch.exists_step {α : Type} {fetch : Fetch α} {providers : Nat} (positive : 0 < providers)
    (inside : fetch.attempts.Inside providers) (unsettled : fetch.result? = none)
    (provider : Provider) (cursor : Nat) :
    ∃ member event next cursor', event.Allowed provider ∧
      fetch.step? providers cursor member event = some (next, cursor') ∧
      next.attempts.Inside providers ∧
      next.attempts.weight providers < fetch.attempts.weight providers := by
  have none : fetch.outcome? = none := by simpa [result?] using unsettled
  have unanswered : ¬ fetch.attempts.Over := fun ended => by
    have settled := ended.outcome? fetch.plan.apart
    rw [← Fetch.outcome?, none] at settled
    cases settled
  obtain ⟨member, event, ⟨attempts, cursor'⟩, allowed, begun, moved⟩ :=
    Attempts.exists_step unanswered provider providers cursor
  have permitted : fetch.permits member event = true := by
    cases event <;> simp [permits, begun, none]
  refine ⟨member, event, { fetch with attempts := attempts }, cursor', allowed, ?_,
    Attempts.step?_inside_weight positive inside moved⟩
  rw [step?, if_pos permitted, moved]
  rfl

end CoinWallet
