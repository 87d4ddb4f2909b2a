import CoinWallet.Proofs.Session.Turn

set_option autoImplicit false

namespace CoinWallet

-- each entry fits what stands before it
def EachAfter {α : Type} (fits : List α → α → Prop) (seen : List α) : Prop :=
  ∀ before entry after, seen = before ++ entry :: after → fits before entry

theorem eachAfter_nil {α : Type} (fits : List α → α → Prop) : EachAfter fits [] := by
  simp [EachAfter]

theorem eachAfter_singleton {α : Type} {fits : List α → α → Prop} {entry : α}
    (new : fits [] entry) : EachAfter fits [entry] := by
  intro before other after split
  cases before with
  | nil =>
    cases split
    exact new
  | cons first rest => simp at split

theorem EachAfter.append {α : Type} {fits : List α → α → Prop} {seen more : List α}
    (old : EachAfter fits seen) (new : EachAfter (fun before => fits (seen ++ before)) more) :
    EachAfter fits (seen ++ more) := by
  intro before entry after split
  rcases List.append_eq_append_iff.mp split with ⟨rest, rfl, tail⟩ | ⟨rest, head, tail⟩
  · exact new rest entry after tail
  · cases rest with
    | nil =>
      rw [List.append_nil] at head
      subst head
      simpa using new [] entry after tail.symm
    | cons first rest =>
      cases tail
      exact old before entry rest head

namespace Debouncer

variable {ε : Type} {d d' : Debouncer} {id : CallId} {now : Nat} {event : Event ε}
  {stage stage' : Stage ε} {forced : Bool}

inductive Step (d : Debouncer) (id : CallId) (now : Nat) :
    Event ε → Stage ε → Debouncer → Stage ε → Prop
  | join {forced : Bool} : Step d id now .proceed (.called forced) (d.join id) (.waiting forced)
  | skip {forced : Bool} (turn : d.line.isHeldBy id = true) (fresh : d.skips forced now = true) :
    Step d id now .proceed (.waiting forced) (d.leave id) (.finished (.ok .skipped))
  | run {forced : Bool} (turn : d.line.isHeldBy id = true) (due : d.skips forced now = false) :
    Step d id now .proceed (.waiting forced) d .running
  | finish {r : Except ε Unit} :
    Step d id now (.ended r) .running (d.complete id r.isOk now)
      (.finished (r.map fun _ => .executed))

theorem step_of_step? (moved : d.step? id now event stage = some (d', stage')) :
    Step d id now event stage d' stage' := by
  cases event with
  | proceed =>
    cases stage with
    | called forced =>
      cases moved
      exact .join
    | waiting forced =>
      simp only [step?] at moved
      split at moved
      next turn =>
        split at moved <;> cases moved
        next fresh => exact .skip turn fresh
        next due => exact .run turn (Bool.not_eq_true _ ▸ due)
      next => cases moved
    | running => cases moved
    | finished r => cases moved
  | ended r =>
    cases stage <;> cases moved
    exact .finish

-- a success that is not younger than the window leaves the operation due, also if the window is
-- empty
theorem skips_eq_false_iff (past : ∀ success ∈ d.lastCompleted, success ≤ now) :
    d.skips forced now = false ↔
      forced = true ∨ ∀ success ∈ d.lastCompleted, success + d.window ≤ now := by
  unfold skips
  split
  next success last =>
    have before := past success last
    cases forced with
    | true => simp
    | false =>
      simp only [Bool.not_false, Bool.true_and, decide_eq_false_iff_not, Bool.false_eq_true,
        false_or, last, Option.mem_def, Option.some.injEq, forall_eq']
      omega
  next last => simp [last]

def Stage.standing : Stage ε → Standing
  | called _ | finished _ => .away
  | waiting _ => .waiting
  | running => .inside false

-- a debouncer has no phase
def lane (d : Debouncer) : Lane := ⟨d.line, false⟩

theorem Step.turned (step : Step d id now event stage d' stage') :
    Turned id d.lane stage.standing d'.lane stage'.standing := by
  cases step with
  | join => exact .join
  | skip turn _ => exact .skip turn
  | run turn _ => exact .enter turn
  | finish => exact .leave

end Debouncer

-- invocations have their place in the list as their number
structure Invocations (ε : Type) where
  debouncer : Debouncer
  stages : List (Debouncer.Stage ε) := []

namespace Invocations

open Debouncer (Stage)

variable {ε : Type}

inductive Sight (ε : Type)
  | called (forced : Bool)
  | joined
  | turned (forced runs : Bool)
  | ended (r : Except ε Unit)

structure Entry (ε : Type) where
  time : Nat
  id : CallId
  sight : Sight ε

def own (id : CallId) (seen : List (Entry ε)) : List (Sight ε) :=
  (seen.filter fun entry => entry.id = id).map (·.sight)

def Entry.success? (entry : Entry ε) : Option Nat :=
  match entry.sight with
  | .ended (.ok _) => some entry.time
  | _ => none

def lastSuccess (seen : List (Entry ε)) : Option Nat :=
  (seen.filterMap Entry.success?).getLast?

def sight : Debouncer.Event ε → Stage ε → Stage ε → Sight ε
  | .ended r, _, _ => .ended r
  | .proceed, .waiting forced, .running => .turned forced true
  | .proceed, .waiting forced, _ => .turned forced false
  | .proceed, _, _ => .joined

/-- All that invocations of a new debouncer can come to, and what is seen of them on the way. Time
never goes back. -/
inductive Reach (window : Nat) : Nat → List (Entry ε) → Invocations ε → Prop
  | start : Reach window 0 [] ⟨{ window := window }, []⟩
  | call {now time : Nat} {seen : List (Entry ε)} {s : Invocations ε}
      (reached : Reach window now seen s) (later : now ≤ time) (forced : Bool) :
    Reach window time (seen ++ [⟨time, s.stages.length, .called forced⟩])
      { s with stages := s.stages ++ [.called forced] }
  | step {now time : Nat} {seen : List (Entry ε)} {s : Invocations ε}
      (reached : Reach window now seen s) (later : now ≤ time) {id : CallId}
      {event : Debouncer.Event ε} {stage stage' : Stage ε} {d : Debouncer}
      (found : s.stages[id]? = some stage)
      (moved : s.debouncer.step? id time event stage = some (d, stage')) :
    Reach window time (seen ++ [⟨time, id, sight event stage stage'⟩])
      ⟨d, s.stages.set id stage'⟩

variable {window now : Nat} {seen : List (Entry ε)} {s : Invocations ε}

theorem own_snoc (id : CallId) (seen : List (Entry ε)) (entry : Entry ε) :
    own id (seen ++ [entry]) = own id seen ++ if entry.id = id then [entry.sight] else [] := by
  by_cases same : entry.id = id <;> simp [own, same]

theorem lastSuccess_snoc (seen : List (Entry ε)) (entry : Entry ε) :
    lastSuccess (seen ++ [entry]) = entry.success?.or (lastSuccess seen) := by
  cases ended : entry.success? <;>
    simp [lastSuccess, List.filterMap_append, ended, Option.or]

inductive Trail : Option (Stage ε) → List (Sight ε) → Prop
  | absent : Trail none []
  | called (forced : Bool) : Trail (some (.called forced)) [.called forced]
  | waiting (forced : Bool) : Trail (some (.waiting forced)) [.called forced, .joined]
  | running (forced : Bool) :
    Trail (some .running) [.called forced, .joined, .turned forced true]
  | skipped :
    Trail (some (.finished (.ok .skipped))) [.called false, .joined, .turned false false]
  | ended (forced : Bool) (r : Except ε Unit) :
    Trail (some (.finished (r.map fun _ => .executed)))
      [.called forced, .joined, .turned forced true, .ended r]

theorem Trail.step {d d' : Debouncer} {id : CallId} {event : Debouncer.Event ε}
    {stage stage' : Stage ε} {sights : List (Sight ε)} (trail : Trail (some stage) sights)
    (step : Debouncer.Step d id now event stage d' stage') :
    Trail (some stage') (sights ++ [sight event stage stage']) := by
  cases step with
  | join =>
    cases trail
    exact .waiting _
  | @skip forced turn fresh =>
    cases trail
    -- only an invocation that is not forced is ever skipped
    cases forced with
    | true =>
      unfold Debouncer.skips at fresh
      split at fresh <;> simp at fresh
    | false => exact .skipped
  | run =>
    cases trail
    exact .running _
  | finish =>
    cases trail
    exact .ended _ _

theorem Reach.trail (reached : Reach window now seen s) (id : CallId) :
    Trail s.stages[id]? (own id seen) := by
  induction reached with
  | start => exact .absent
  | @call _ time seen s _ _ forced ih =>
    rw [own_snoc]
    by_cases here : s.stages.length = id
    next =>
      subst here
      rw [List.getElem?_eq_none (Nat.le_refl _)] at ih
      generalize own s.stages.length seen = sights at ih ⊢
      cases ih
      simpa using .called forced
    next =>
      have same : (s.stages ++ [.called forced])[id]? = s.stages[id]? := by
        rcases Nat.lt_or_gt_of_ne here with beyond | old
        · rw [List.getElem?_eq_none (Nat.le_of_lt beyond), List.getElem?_eq_none]
          simp only [List.length_append, List.length_singleton]
          omega
        · exact List.getElem?_append_left old
      simpa [here, same] using ih
  | @step _ _ _ s _ _ other _ stage stage' _ found moved ih =>
    rw [own_snoc]
    by_cases here : other = id
    next =>
      subst here
      have inside := (List.getElem?_eq_some_iff.mp found).1
      rw [found] at ih
      simpa [inside] using ih.step (Debouncer.step_of_step? moved)
    next => simpa [here] using ih

theorem Reach.lined (reached : Reach window now seen s) :
    Lined s.debouncer.lane (standingAt Stage.standing s.stages) := by
  induction reached with
  | start => exact .of_away rfl rfl fun _ => rfl
  | call _ _ forced ih =>
    rw [standingAt_snoc rfl]
    exact ih
  | step _ _ found moved ih =>
    have turned := (Debouncer.step_of_step? moved).turned
    have stood : standingAt Stage.standing _ _ = Stage.standing _ := standingAt_of_getElem? found
    rw [standingAt_set found]
    rw [← stood] at turned
    exact ih.step turned

theorem Reach.running_unique (reached : Reach window now seen s) {id other : CallId}
    (here : s.stages[id]? = some .running) (there : s.stages[other]? = some .running) :
    id = other := by
  have inside {id : CallId} (found : s.stages[id]? = some .running) :
      s.debouncer.line.isHeldBy id = true :=
    reached.lined.held id false (standingAt_of_getElem? found)
  exact Line.eq_of_isHeldBy (inside here) (inside there)

-- the head of the line can go on, and so can a call that is not in line yet
theorem Reach.exists_step? (reached : Reach window now seen s)
    (busy : ∃ stage ∈ s.stages, ∀ r, stage ≠ .finished r) :
    ∃ id stage, s.stages[id]? = some stage ∧ ∀ time r, ∃ event,
      (event = .proceed ∨ event = .ended r) ∧
        (s.debouncer.step? id time event stage).isSome = true := by
  obtain ⟨stage, member, busy⟩ := busy
  obtain ⟨id, found⟩ := List.getElem?_of_mem member
  by_cases called : ∃ forced, stage = .called forced
  next =>
    obtain ⟨forced, rfl⟩ := called
    exact ⟨id, _, found, fun time r => ⟨.proceed, .inl rfl, rfl⟩⟩
  next =>
    have inLine : standingAt Stage.standing s.stages id ≠ .away := by
      rw [standingAt_of_getElem? found]
      cases stage with
      | called forced => exact absurd ⟨forced, rfl⟩ called
      | finished r => exact absurd rfl (busy r)
      | _ => simp [Stage.standing]
    obtain ⟨head, held, present⟩ := reached.lined.exists_head inLine
    cases there : s.stages[head]? with
    | none => simp [standingAt, there] at present
    | some first =>
      rw [standingAt_of_getElem? there] at present
      refine ⟨head, first, there, fun time r => ?_⟩
      change s.debouncer.line.isHeldBy head = true at held
      cases first with
      | waiting forced =>
        refine ⟨.proceed, .inl rfl, ?_⟩
        simp only [Debouncer.step?, held, if_true]
        split <;> rfl
      | running => exact ⟨.ended r, .inr rfl, rfl⟩
      | _ => exact absurd rfl present

theorem lastCompleted_of_step {d d' : Debouncer} {id : CallId} {event : Debouncer.Event ε}
    {stage stage' : Stage ε} (step : Debouncer.Step d id now event stage d' stage') :
    d'.lastCompleted =
      (Entry.success? ⟨now, id, sight event stage stage'⟩).or d.lastCompleted := by
  cases step with
  | @finish r => cases r <;> rfl
  | _ => rfl

theorem time_of_success? {entry : Entry ε} {success : Nat} (ended : success ∈ entry.success?) :
    success = entry.time := by
  unfold Entry.success? at ended
  split at ended <;> simp_all

theorem window_of_step {d d' : Debouncer} {id : CallId} {event : Debouncer.Event ε}
    {stage stage' : Stage ε} (step : Debouncer.Step d id now event stage d' stage') :
    d'.window = d.window := by
  cases step <;> rfl

theorem Reach.window_eq (reached : Reach window now seen s) : s.debouncer.window = window := by
  induction reached with
  | start => rfl
  | call _ _ _ ih => exact ih
  | step _ _ _ moved ih => exact (window_of_step (Debouncer.step_of_step? moved)).trans ih

theorem Reach.lastCompleted_eq (reached : Reach window now seen s) :
    s.debouncer.lastCompleted = lastSuccess seen := by
  induction reached with
  | start => rfl
  | call _ _ _ ih => simpa [lastSuccess_snoc, Entry.success?] using ih
  | step _ _ _ moved ih =>
    rw [lastCompleted_of_step (Debouncer.step_of_step? moved), lastSuccess_snoc, ih]

theorem Reach.lastSuccess_le (reached : Reach window now seen s) :
    ∀ success ∈ lastSuccess seen, success ≤ now := by
  induction reached with
  | start => simp [lastSuccess]
  | call _ later _ ih =>
    intro success last
    have before := ih success (by simpa [lastSuccess_snoc, Entry.success?] using last)
    omega
  | step _ later _ _ ih =>
    intro success last
    rw [lastSuccess_snoc, Option.mem_def, Option.or_eq_some_iff] at last
    rcases last with here | ⟨_, before⟩
    · exact Nat.le_of_eq (time_of_success? here)
    · exact Nat.le_trans (ih success before) later

-- at its turn an invocation runs as it should
def Timely (window : Nat) (before : List (Entry ε)) (entry : Entry ε) : Prop :=
  ∀ forced runs, entry.sight = .turned forced runs →
    (runs = true ↔ forced = true ∨ ∀ success ∈ lastSuccess before, success + window ≤ entry.time)

theorem Reach.timely (reached : Reach window now seen s) : EachAfter (Timely window) seen := by
  induction reached with
  | start => exact eachAfter_nil _
  | call _ _ _ ih => exact ih.append (eachAfter_singleton fun forced runs turned => by cases turned)
  | @step _ time seen s before later id event stage stage' d found moved ih =>
    refine ih.append (eachAfter_singleton fun forced runs turned => ?_)
    have past : ∀ success ∈ s.debouncer.lastCompleted, success ≤ time := by
      rw [before.lastCompleted_eq]
      exact fun success last => Nat.le_trans (before.lastSuccess_le success last) later
    rw [List.append_nil, ← before.lastCompleted_eq, ← before.window_eq,
      ← Debouncer.skips_eq_false_iff past]
    cases Debouncer.step_of_step? moved with
    | join => cases turned
    | skip _ fresh =>
      cases turned
      simp [fresh]
    | run _ free =>
      cases turned
      simp [free]
    | finish => cases turned

/-- Invocations of one debouncer in any order, whatever their operations come to. One operation runs
at a time. An invocation that is forced runs its own when its turn comes, and another one does
exactly if there was no success yet or the last one is a window ago; it is told what became of it.
Only a success is noted, and as long as one invocation is not over some can go on. -/
theorem runs_iff_of_reach (reached : Reach window now seen s) :
    (∀ id other : CallId, s.stages[id]? = some .running → s.stages[other]? = some .running → id = other) ∧
    (∀ id : CallId, Trail s.stages[id]? (own id seen)) ∧
    (∀ before time id forced runs after,
      seen = before ++ ⟨time, id, .turned forced runs⟩ :: after →
        (runs = true ↔ forced = true ∨ ∀ success ∈ lastSuccess before, success + window ≤ time)) ∧
    s.debouncer.lastCompleted = lastSuccess seen ∧
    ((∃ stage ∈ s.stages, ∀ r, stage ≠ .finished r) →
      ∃ (id : CallId) (stage : Stage ε), s.stages[id]? = some stage ∧ ∀ time r, ∃ event,
        (event = .proceed ∨ event = .ended r) ∧
          (s.debouncer.step? id time event stage).isSome = true) := by
  refine ⟨fun _ _ => reached.running_unique, reached.trail, ?_, reached.lastCompleted_eq,
    reached.exists_step?⟩
  intro before time id forced runs after split
  exact reached.timely before _ after split forced runs rfl

end Invocations

namespace Sample

-- a success at 2, then a forced operation that fails; one invocation comes too early, and the next
-- one at the very end of the window
theorem runs_iff_of_reach_boundary :
    ∃ (seen : List (Invocations.Entry String)) (s : Invocations String),
      Invocations.Reach 10 12 seen s ∧
      s.stages = [.finished (.ok .executed), .finished (.error "down"), .finished (.ok .skipped),
        .running] ∧
      s.debouncer.lastCompleted = some 2 ∧ Invocations.lastSuccess seen = some 2 ∧
      (true = true ↔ false = true ∨ ∀ success ∈ some 2, success + 10 ≤ 12) := by
  have step {now : Nat} {seen : List (Invocations.Entry String)} {s : Invocations String}
      {stage stage' : Debouncer.Stage String} {d : Debouncer}
      (reached : Invocations.Reach 10 now seen s) (time : Nat) (later : now ≤ time) (id : CallId)
      (event : Debouncer.Event String) (found : s.stages[id]? = some stage)
      (moved : s.debouncer.step? id time event stage = some (d, stage')) :=
    reached.step later found moved
  have four : Invocations.Reach (ε := String) 10 0 _ _ :=
    .call (.call (.call (.call .start (Nat.le_refl 0) false) (Nat.le_refl 0) true)
      (Nat.le_refl 0) false) (Nat.le_refl 0) false
  have joined := step (step (step (step four 0 (by decide) 0 .proceed rfl rfl)
    0 (by decide) 1 .proceed rfl rfl) 0 (by decide) 2 .proceed rfl rfl)
    0 (by decide) 3 .proceed rfl rfl
  have succeeded := step (step joined 1 (by decide) 0 .proceed rfl rfl)
    2 (by decide) 0 (.ended (.ok ())) rfl rfl
  have failed := step (step succeeded 3 (by decide) 1 .proceed rfl rfl)
    10 (by decide) 1 (.ended (.error "down")) rfl rfl
  have skipped := step failed 11 (by decide) 2 .proceed rfl rfl
  have reached := step skipped 12 (by decide) 3 .proceed rfl rfl
  obtain ⟨_, _, timely, noted, _⟩ := Invocations.runs_iff_of_reach reached
  exact ⟨_, _, reached, rfl, rfl, noted.symm, timely _ 12 3 false true [] rfl⟩

end Sample

end CoinWallet
