import CoinWallet.Proofs.Debouncer.Window
import CoinWallet.Proofs.Session.History
import CoinWallet.Proofs.Session.Noted

set_option autoImplicit false

namespace CoinWallet

open Note (own sights span course)

namespace Session

variable {m : Manager} {seen : List Note} {s : Session}

namespace Reach

-- the last sight before a write is what its own call has read, and the update is computed from it
def Current (chain : Chain) (before : List Note) (note : Note) : Prop :=
  ∀ id update, note = .wrote id update → ∃ w, (sights before).getLast? = some (.read id w) ∧
    ∃ replies, (chain.refreshPlan w).conclude replies = .ok update

theorem current (rest : m.AtRest) (reached : Reach m seen s) : EachAfter (Current m.chain) seen := by
  induction reached with
  | start => exact eachAfter_nil _
  | drop _ _ ih => exact ih
  | @act seen s s' now action before moved ih =>
    refine ih.append fun earlier note later split id update wrote => ?_
    subst wrote
    have member : Note.wrote id update ∈ s.notes s' now action := split ▸ by simp
    cases action with
    | step other event =>
      obtain ⟨call, call', m', found, inner, rfl⟩ := step?_eq_some moved
      rw [notes_step found] at split member
      have shown : Note.wrote id update ∈ call.shows s.manager now other event := by
        refine (List.mem_append.mp member).resolve_left fun phase => ?_
        have sight : Note.wrote id update ∈ sights (s.manager.published m' other) :=
          List.mem_filter.mpr ⟨phase, rfl⟩
        rw [Manager.sights_published] at sight
        cases sight
      obtain ⟨rfl, rfl, rfl⟩ := Call.eq_of_wrote_mem_shows shown
      obtain ⟨w, _, last, concluded⟩ := (before.noted rest).told id _ found
      rw [before.chain_eq] at concluded
      have silent : s.manager.published m' id = [] := by
        cases inner
        exact Manager.published_eq_nil rfl rfl id
      rw [silent, List.nil_append] at split
      cases earlier with
      | nil => exact ⟨w, by rwa [List.append_nil], concluded⟩
      | cons first more => simp [Call.shows, Call.writes, Note.ofWrite?] at split
    | _ => cases member

end Reach

/-- What the phases of a manager tell of its calls, and what each call shows over time. -/
structure Phased (chain : Chain) (seen : List Note) (s : Session) : Prop where
  updating : s.manager.updatePhase = .updating ↔ ∃ id, s.standing .refresh id = .inside true
  sending : s.manager.sendPhase ≠ .idle ↔ ∃ id, s.standing .send id = .inside true
  held : ∀ turn id, s.standing turn id = .inside true → (s.manager.lane turn).line.isHeldBy id = true
  single : ∀ turn id other, s.standing turn id = .inside true →
    s.standing turn other = .inside true → id = other
  current : EachAfter (Reach.Current chain) seen
  -- a refresh at work has published its phase and read the wallet, and may have written
  refreshing : ∀ (id : CallId) (r : Refresh), s.calls[id]? = some (.refresh r) →
    r.standing = .inside true → ∃ w written, own id seen = span id w written
  refreshed : ∀ (id : CallId) (r : Refresh), s.calls[id]? = some (.refresh r) →
    r.standing ≠ .inside true → own id seen = [] ∨
      ∃ w written, own id seen = span id w written ++ [.updatePhase id .idle]
  -- the last phase that a payment at work has published is the present one
  paying : ∀ (id : CallId) (p : Send), s.calls[id]? = some (.send p) → p.standing = .inside true →
    ∃ steps, own id seen = course id (steps + 1) ∧
      (own id seen).getLast? = some (.sendPhase id s.manager.sendPhase)
  paid : ∀ (id : CallId) (p : Send), s.calls[id]? = some (.send p) → p.standing ≠ .inside true →
    own id seen = [] ∨ ∃ steps, own id seen = course id (steps + 1) ++ [.sendPhase id .idle]
  idle : s.Over → s.manager.updatePhase = .idle ∧ s.manager.sendPhase = .idle

/-- Whatever calls are made to a new manager, and however they end or are dropped: a phase is busy
exactly while one call, which holds the lock, is at work between the publication of the phase and
the way out. A refresh writes an update of the wallet that was read last of all, so writes follow
each other as the reads do. A payment publishes first phases of its course, and idle at the end.
With all calls over, both phases are idle. -/
theorem phased_of_reach {wallet : Wallet} {chain : Chain} {builder : Builder} {window : Nat}
    (made : Manager.new wallet chain builder window = .ok m) (reached : Reach m seen s) :
    s.Phased chain seen := by
  have rest := Manager.atRest_of_new made
  have noted := reached.noted rest
  have same : m.chain = chain := by
    unfold Manager.new at made
    split at made <;> cases made
    rfl
  refine
    { updating := ?_
      sending := ?_
      held := fun turn id inside => (noted.lined turn).held id true inside
      single := ?_
      current := same ▸ reached.current rest
      refreshing := fun id r found inside => Refresh.Told.at_work (noted.told id _ found) inside
      refreshed := fun id r found outside => Refresh.Told.off_work (noted.told id _ found) outside
      paying := fun id p found inside => Send.Told.at_work (noted.told id _ found) inside
      paid := fun id p found outside => Send.Told.off_work (noted.told id _ found) outside
      idle := ?_ }
  next =>
    rw [← (noted.lined .refresh).busy_iff]
    cases phase : s.manager.updatePhase <;> simp [Manager.lane, phase]
  next =>
    rw [← (noted.lined .send).busy_iff]
    simp [Manager.lane]
  next =>
    intro turn id other here there
    have held := (noted.lined turn).held id true here
    exact Line.eq_of_isHeldBy held ((noted.lined turn).held other true there)
  next =>
    intro isOver
    have idle := isOver.atRest noted.lined
    exact ⟨by simpa [Manager.lane] using (idle .refresh).2, by simpa [Manager.lane] using (idle .send).2⟩

end Session

namespace Sample

-- one refresh asks while the next one waits, and a payment is being signed
def opening : List (Moment × Action) :=
  [(moment, .make (.refresh false)), (moment, .make (.refresh false)),
      (moment, .make (.send (payload outputs)))] ++
    (Session.stepsOf 0 (timed [.proceed]) ++ Session.stepsOf 1 (timed [.proceed]) ++
      Session.stepsOf 0 (timed [.proceed, .proceed]) ++
      Session.stepsOf 2 (timed [.proceed, .proceed, .proceed, .proceed]))

-- what is left of the first refresh, and the second one up to its questions
def resuming : List (Moment × Action) :=
  Session.stepsOf 0 (timed [.proceed, .proceed]) ++ Session.stepsOf 1 (timed [.proceed, .proceed])

def dropping (s : Session) (id : CallId) : Session :=
  (s.drop? id).getD s

theorem drop?_dropping {s : Session} {id : CallId} (done : (s.drop? id).isSome = true) :
    s.drop? id = some (dropping s id) := by
  obtain ⟨s', gone⟩ := Option.isSome_iff_exists.mp done
  simp [dropping, gone]

theorem phased_of_reach_dropped :
    ∃ seen s, Session.Reach (manager outputs) seen s ∧ s.manager.updatePhase = .updating ∧
      s.manager.sendPhase = .signing ∧ s.standing .refresh 1 = .inside true ∧
      s.Phased outputs seen := by
  have opened : Session.run? ⟨manager outputs, []⟩ opening = some (runs _ _) :=
    run?_runs (by decide +kernel)
  have dropped : (runs ⟨manager outputs, []⟩ opening).drop? 0 = some (dropping _ 0) :=
    drop?_dropping (by decide +kernel)
  have resumed : (dropping (runs ⟨manager outputs, []⟩ opening) 0).run? resuming =
    some (runs _ _) := run?_runs (by decide +kernel)
  obtain ⟨_, started⟩ := Session.Reach.start.run opened
  obtain ⟨_, reached⟩ := (started.drop dropped).run resumed
  exact ⟨_, _, reached, by decide +kernel, by decide +kernel, rfl,
    Session.phased_of_reach (made outputs) reached⟩

end Sample

end CoinWallet
