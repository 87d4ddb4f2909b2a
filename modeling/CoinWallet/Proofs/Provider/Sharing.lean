import CoinWallet.Proofs.Provider.Ending
import Mathlib.Logic.Function.Basic

set_option autoImplicit false

namespace CoinWallet

variable {ι : Type} [DecidableEq ι] {α : ι → Type}

-- each request may ask for something else
structure Requests (α : ι → Type) where
  cursor : Nat
  attempts : (id : ι) → Attempt (α id)

inductive Mark (ι : Type)
  | loads (id : ι) (cursor : Nat)
  | asks (id : ι) (provider : Nat)

def Mark.request : Mark ι → ι
  | loads id _ | asks id _ => id

def Mark.own (id : ι) (marks : List (Mark ι)) : List (Mark ι) :=
  marks.filter fun mark => mark.request = id

-- the request reads the cursor at `first`, and asks from there on up to `index`
def Mark.route (id : ι) (first index : Nat) : List (Mark ι) :=
  .loads id first :: (List.range' first (index + 1 - first)).map (.asks id)

omit [DecidableEq ι] in
theorem Mark.route_succ (id : ι) {first index : Nat} (later : first ≤ index) :
    route id first (index + 1) = route id first index ++ [.asks id (index + 1)] := by
  have whole := Attempt.range'_snoc (Nat.le_succ_of_le later)
  simp only [Nat.succ_eq_add_one] at whole
  rw [route, ← whole, List.map_append]
  rfl

namespace Attempt

variable {β : Type} {providers cursor cursor' : Nat} {event : Event β} {a a' : Attempt β}

def marks (providers cursor : Nat) (id : ι) (event : Event β) (a : Attempt β) : List (Mark ι) :=
  (match event, a with
    | .start, waiting => [.loads id cursor]
    | _, _ => []) ++
  (contact? providers cursor event a).toList.map (.asks id)

def Told (may : Nat → Outcome NetworkError β → Prop) : Event β → Attempt β → Prop
  | .reply r, asking _ index => may index r
  | _, _ => True

theorem own_marks (providers cursor : Nat) (id other : ι) (event : Event β) (a : Attempt β) :
    Mark.own other (a.marks providers cursor id event) =
      if id = other then a.marks providers cursor id event else [] := by
  have named : ∀ mark ∈ a.marks providers cursor id event, mark.request = id := by
    intro mark member
    rcases List.mem_append.mp member with loaded | asked
    · split at loaded
      · cases List.mem_singleton.mp loaded
        rfl
      · cases loaded
    · obtain ⟨provider, _, rfl⟩ := List.mem_map.mp asked
      rfl
  split
  next same =>
    refine List.filter_eq_self.mpr fun mark member => ?_
    simp [named mark member, same]
  next apart =>
    refine List.filter_eq_nil_iff.mpr fun mark member => ?_
    simp [named mark member, apart]

inductive Trail (providers : Nat) (id : ι) : Attempt β → List (Mark ι) → Prop
  | waiting : Trail providers id waiting []
  | asking {first index : Nat} (later : first ≤ index) (inside : index < providers) :
    Trail providers id (asking first index) (Mark.route id first index)
  | refused {first index : Nat} {cause : NetworkError} (later : first ≤ index)
      (inside : index < providers) :
    Trail providers id (refused first index cause) (Mark.route id first index)
  | answered {first index : Nat} {r : Outcome NetworkError β} (later : first ≤ index)
      (inside : index < providers) :
    Trail providers id (answered r) (Mark.route id first index)

omit [DecidableEq ι] in
theorem Trail.step {id : ι} {seen : List (Mark ι)} (trail : a.Trail providers id seen)
    (low : cursor < providers) (moved : a.step? providers cursor event = some (a', cursor')) :
    a'.Trail providers id (seen ++ a.marks providers cursor id event) := by
  cases trail with
  | waiting =>
    cases event <;> cases moved
    have start : min cursor (providers - 1) = cursor := by omega
    have route : [Mark.loads id cursor, .asks id cursor] = Mark.route id cursor cursor := by
      simp [Mark.route]
    simp only [marks, contact?, start, Option.toList_some, List.map_singleton,
      List.singleton_append, List.nil_append, route]
    exact .asking (Nat.le_refl cursor) low
  | asking later inside =>
    cases event <;> cases moved
    simp only [marks, contact?, Option.toList_none, List.map_nil, List.append_nil, receive]
    split
    · exact .refused later inside
    · exact .answered later inside
  | refused later inside =>
    rename_i first index cause
    cases event <;> try cases moved
    simp only [step?, giveUp, Option.some.injEq] at moved
    split at moved <;> cases moved
    next more =>
      simp only [marks, contact?, more, if_true, Option.toList_some, List.map_singleton,
        List.nil_append, ← Mark.route_succ id later]
      exact .asking (Nat.le_succ_of_le later) more
    next last =>
      simp only [marks, contact?, last, if_false, Option.toList_none, List.map_nil,
        List.append_nil]
      exact .answered later inside
  | answered later inside => cases event <;> cases moved

omit [DecidableEq ι] in
theorem Trail.inside {id : ι} {seen : List (Mark ι)} (trail : a.Trail providers id seen) :
    a.Inside providers := by
  cases trail with
  | asking _ inside => exact inside
  | refused _ inside => exact inside
  | _ => trivial

theorem step?_cursor_lt (inside : a.Inside providers) (low : cursor < providers)
    (moved : a.step? providers cursor event = some (a', cursor')) : cursor' < providers := by
  cases a <;> cases event <;> try cases moved
  case waiting.start => exact low
  case asking.reply first index r => exact low
  case refused.move first index cause =>
    simp only [Inside] at inside
    simp only [step?, giveUp, Option.some.injEq] at moved
    split at moved <;> cases moved <;> unfold exchange <;> split <;> omega

-- the request has got no further than to the provider `final`, and the cursor is not behind it
def Led (may : Nat → Outcome NetworkError β → Prop) (final cursor : Nat) : Attempt β → Prop
  | waiting => True
  | asking _ index => index ≤ final ∧ index ≤ cursor
  | refused _ index _ => index < final ∧ index ≤ cursor
  | answered r => may final r ∧ cursor = final

variable {may : Nat → Outcome NetworkError β → Prop} {final : Nat}

theorem Led.mono (led : a.Led may final cursor) (forward : cursor ≤ cursor')
    (behind : cursor' ≤ final) : a.Led may final cursor' := by
  cases a with
  | waiting => trivial
  | asking first index => exact ⟨led.1, by have := led.2; omega⟩
  | refused first index cause => exact ⟨led.1, by have := led.2; omega⟩
  | answered r => exact ⟨led.1, by have := led.2; omega⟩

theorem Led.step (led : a.Led may final cursor) (known : final < providers)
    (behind : cursor ≤ final) (fails : ∀ i r, i < final → may i r → Retryable r)
    (settles : ∀ r, may final r → ¬ Retryable r) (told : Told may event a)
    (moved : a.step? providers cursor event = some (a', cursor')) :
    a'.Led may final cursor' ∧ cursor ≤ cursor' ∧ cursor' ≤ final ∧
      ∀ provider ∈ contact? providers cursor event a, provider ≤ final := by
  cases a <;> cases event <;> try cases moved
  case waiting.start =>
    refine ⟨⟨by omega, by omega⟩, Nat.le_refl _, behind, ?_⟩
    simp only [contact?, Option.mem_some_iff, forall_eq']
    omega
  case asking.reply first index r =>
    obtain ⟨upTo, reached⟩ := led
    refine ⟨?_, Nat.le_refl _, behind, by simp [contact?]⟩
    unfold receive
    by_cases here : index = final
    next =>
      subst here
      have word := retryCause?_eq_none_iff.mpr (settles r told)
      simp only [word]
      exact ⟨told, by omega⟩
    next =>
      obtain ⟨cause, refused⟩ := fails index r (by omega) told
      simp only [retryCause?_eq_some_iff.mpr refused]
      exact ⟨by omega, reached⟩
  case refused.move first index cause =>
    obtain ⟨before, reached⟩ := led
    have more : index + 1 < providers := by omega
    simp only [step?, giveUp, more, if_true, Option.some.injEq, Prod.mk.injEq] at moved
    obtain ⟨rfl, rfl⟩ := moved
    simp only [contact?, more, if_true, Option.mem_some_iff, forall_eq', Led]
    unfold exchange
    split <;> omega

end Attempt

namespace Requests

def set (s : Requests α) (id : ι) (a : Attempt (α id)) (cursor : Nat) : Requests α where
  cursor := cursor
  attempts := Function.update s.attempts id a

@[simp] theorem attempts_set (s : Requests α) (id : ι) (a : Attempt (α id)) (cursor : Nat) :
    (s.set id a cursor).attempts id = a := by
  simp only [set, Function.update_self]

theorem attempts_set_of_ne {id other : ι} (apart : other ≠ id) (s : Requests α)
    (a : Attempt (α id)) (cursor : Nat) :
    (s.set id a cursor).attempts other = s.attempts other := by
  simp only [set, Function.update_of_ne apart]

/-- All that requests can come to, and what is seen of them on the way: one or another of them goes
one step further, in any order. -/
inductive Reach (providers : Nat) (may : (id : ι) → Nat → Outcome NetworkError (α id) → Prop)
    (start : Requests α) : List (Mark ι) → Requests α → Prop
  | start : Reach providers may start [] start
  | step {s : Requests α} {seen : List (Mark ι)} {cursor : Nat}
      (reached : Reach providers may start seen s) (id : ι) {event : Attempt.Event (α id)}
      {a : Attempt (α id)} (told : (s.attempts id).Told (may id) event)
      (moved : (s.attempts id).step? providers s.cursor event = some (a, cursor)) :
    Reach providers may start (seen ++ (s.attempts id).marks providers s.cursor id event)
      (s.set id a cursor)

variable {providers : Nat} {may : (id : ι) → Nat → Outcome NetworkError (α id) → Prop}
  {start s later : Requests α} {seen more : List (Mark ι)}

theorem Reach.trans (reached : Reach providers may start seen s)
    (further : Reach providers may s more later) :
    Reach providers may start (seen ++ more) later := by
  induction further with
  | start => rwa [List.append_nil]
  | step _ id told moved ih =>
    rw [← List.append_assoc]
    exact ih.step id told moved

theorem Reach.answered {id : ι} {r : Outcome NetworkError (α id)}
    (reached : Reach providers may start seen s) (isOver : start.attempts id = .answered r) :
    s.attempts id = .answered r := by
  induction reached with
  | start => exact isOver
  | @step s _ _ _ other event a _ moved ih =>
    by_cases same : id = other
    next =>
      subst same
      rw [ih] at moved
      cases event <;> cases moved
    next => rwa [attempts_set_of_ne same]

theorem Reach.trail (idle : ∀ id, start.attempts id = .waiting) (inside : start.cursor < providers)
    (reached : Reach providers may start seen s) :
    s.cursor < providers ∧ ∀ id, (s.attempts id).Trail providers id (Mark.own id seen) := by
  induction reached with
  | start => exact ⟨inside, fun id => idle id ▸ .waiting⟩
  | step _ id told moved ih =>
    obtain ⟨low, trail⟩ := ih
    refine ⟨Attempt.step?_cursor_lt (trail id).inside low moved, fun other => ?_⟩
    rw [Mark.own, List.filter_append]
    change Attempt.Trail providers other _
      (Mark.own other _ ++ Mark.own other (Attempt.marks _ _ _ _ _))
    rw [Attempt.own_marks]
    by_cases same : id = other
    next =>
      subst same
      rw [attempts_set, if_pos rfl]
      exact (trail id).step low moved
    next =>
      rw [attempts_set_of_ne (Ne.symm same), if_neg same, List.append_nil]
      exact trail other

theorem Reach.led {final : Nat} (idle : ∀ id, start.attempts id = .waiting)
    (known : final < providers) (before : start.cursor ≤ final)
    (fails : ∀ id i r, i < final → may id i r → Attempt.Retryable r)
    (settles : ∀ id r, may id final r → ¬ Attempt.Retryable r)
    (reached : Reach providers may start seen s) :
    s.cursor ≤ final ∧ (∀ id, (s.attempts id).Led (may id) final s.cursor) ∧
      ∀ id provider, .asks id provider ∈ seen → provider ≤ final := by
  induction reached with
  | start =>
    refine ⟨before, fun id => ?_, by simp⟩
    rw [idle id]
    trivial
  | @step s seen cursor _ id event a told moved ih =>
    obtain ⟨behind, led, asked⟩ := ih
    obtain ⟨next, forward, still, contacts⟩ :=
      (led id).step known behind (fails id) (settles id) told moved
    refine ⟨still, fun other => ?_, fun other provider member => ?_⟩
    · by_cases same : other = id
      next =>
        subst same
        rwa [attempts_set]
      next =>
        rw [attempts_set_of_ne same]
        exact (led other).mono forward still
    · rcases List.mem_append.mp member with old | new
      · exact asked other provider old
      · rcases List.mem_append.mp new with loaded | contacted
        · split at loaded <;> simp at loaded
        · obtain ⟨index, contact, same⟩ := List.mem_map.mp contacted
          cases same
          exact contacts _ (Option.mem_toList.mp contact)

/-- Requests that overlap, none of which has begun, whatever they are answered: the cursor always
points to a provider, and each request asks neighbours from where it found the cursor. If the
providers before `final` always fail and that one never does, nobody is asked behind it, each result
is an answer of its, and once there is one the cursor stays there. -/
theorem cursor_of_reach (idle : ∀ id, start.attempts id = .waiting)
    (inside : start.cursor < providers) (reached : Reach providers may start seen s) :
    s.cursor < providers ∧
    (∀ id, Mark.own id seen = [] ∨ ∃ first index, first ≤ index ∧ index < providers ∧
      Mark.own id seen = Mark.route id first index) ∧
    ∀ final, final < providers → start.cursor ≤ final →
      (∀ id i r, i < final → may id i r → Attempt.Retryable r) →
      (∀ id r, may id final r → ¬ Attempt.Retryable r) →
        (∀ id provider, .asks id provider ∈ seen → provider ≤ final) ∧
        (∀ id r, s.attempts id = .answered r → may id final r) ∧
        ((∃ id r, s.attempts id = .answered r) → s.cursor = final ∧
          ∀ more later, Reach providers may s more later → later.cursor = final) := by
  obtain ⟨low, trail⟩ := reached.trail idle inside
  refine ⟨low, fun id => ?_, ?_⟩
  · have own := trail id
    generalize Mark.own id seen = marks, s.attempts id = a at own ⊢
    cases own with
    | waiting => exact .inl rfl
    | asking later inside => exact .inr ⟨_, _, later, inside, rfl⟩
    | refused later inside => exact .inr ⟨_, _, later, inside, rfl⟩
    | answered later inside => exact .inr ⟨_, _, later, inside, rfl⟩
  · intro final known before fails settles
    obtain ⟨behind, led, asked⟩ := reached.led idle known before fails settles
    refine ⟨asked, fun id r isOver => ?_, ?_⟩
    · have word := led id
      rw [isOver] at word
      exact word.1
    · rintro ⟨id, r, isOver⟩
      have here := led id
      rw [isOver] at here
      refine ⟨here.2, fun more later further => ?_⟩
      -- the request stays over, so what holds of it here holds of it later
      have still : later.attempts id = .answered r := further.answered isOver
      have there := ((reached.trans further).led idle known before fails settles).2.1 id
      rw [still] at there
      exact there.2

end Requests

namespace Sample

-- the first provider is slow, and all others answer
def secondOn (_ : Bool) (provider : Nat) (r : Outcome NetworkError String) : Prop :=
  r = if provider = 0 then .fail (.timeout "slow") else .ok "block"

def idle : Requests fun _ : Bool => String where
  cursor := 0
  attempts := fun _ => .waiting

-- two requests start at the slow provider, and the second one to leave it finds the cursor moved
theorem cursor_of_reach_overlapping :
    ∃ seen s, Requests.Reach 3 secondOn idle seen s ∧
      s.attempts true = .answered (.ok "block") ∧ s.attempts false = .asking 0 1 ∧
      s.cursor = 1 ∧ ∀ id provider, .asks id provider ∈ seen → provider ≤ 1 := by
  have next {seen : List (Mark Bool)} {s : Requests fun _ : Bool => String} {cursor : Nat}
      {a : Attempt String} (reached : Requests.Reach 3 secondOn idle seen s) (id : Bool)
      (event : Attempt.Event String) (told : (s.attempts id).Told (secondOn id) event)
      (moved : (s.attempts id).step? 3 s.cursor event = some (a, cursor)) :=
    reached.step id told moved
  have slow : Requests.Reach 3 secondOn idle _ _ :=
    next (next (next (next .start false .start trivial rfl) true .start trivial rfl)
      false (.reply (.fail (.timeout "slow"))) rfl rfl) true (.reply (.fail (.timeout "slow"))) rfl rfl
  have moved := next (next slow false .move trivial rfl) true .move trivial rfl
  have reached := next moved true (.reply (.ok "block")) rfl rfl
  have fails : ∀ id i r, i < 1 → secondOn id i r → Attempt.Retryable r := by
    rintro _ _ _ first rfl
    rw [if_pos (by omega)]
    exact ⟨_, rfl, rfl⟩
  have settles : ∀ id r, secondOn id 1 r → ¬ Attempt.Retryable r := by
    rintro _ _ rfl
    simp [Attempt.Retryable, Outcome.fail]
  obtain ⟨_, _, moreover⟩ := Requests.cursor_of_reach (fun _ => rfl) (by decide) reached
  obtain ⟨asked, _, stays⟩ := moreover 1 (by decide) (by decide) fails settles
  exact ⟨_, _, reached, rfl, rfl, (stays ⟨true, _, rfl⟩).1, asked⟩

end Sample

end CoinWallet
