import CoinWallet.Proofs.Session.History
import CoinWallet.Proofs.Session.Winding

set_option autoImplicit false

namespace CoinWallet

variable {m m' : Manager} {now : Moment} {id : CallId} {event : Event} {call call' : Call}

def Action.isOwn : Action → Bool
  | .step _ event => event.isOwn
  | _ => true

namespace Session

variable {s s' : Session} {action : Action} {actions : List (Moment × Action)}

-- a call that can be cancelled only goes on by that; the tokens of the wallet stay
def Prompt (s : Session) : Action → Prop
  | .step id event =>
    ∀ call, s.calls[id]? = some call → call.isCancellable = true → event = .cancel
  | .addToken _ | .removeToken _ => False
  | .make _ | .shutDown => True

theorem Prompt.of_found (found : s.calls[id]? = some call) (free : call.isCancellable = false) :
    s.Prompt (.step id event) := by
  refine (forall_found_iff found).mpr fun cancellable => ?_
  cases free.symm.trans cancellable

def Pending (s : Session) (id : CallId) : Prop :=
  ∀ call, s.calls[id]? = some call → call.fate? = none

/-- Nobody is asked, nothing is written, and what was open is called off. -/
structure Final (s : Session) (later : List (Moment × Action)) (s' : Session) : Prop where
  asks : ∀ entry ∈ later, entry.2.isOwn = true
  writes : s.writes later = []
  results : ∀ id call r, s.Pending id → s'.calls[id]? = some call → call.result? = some r →
    Call.isCalledOff r = true

inductive Closing : Session → List (Moment × Action) → Session → Prop
  | stay (s : Session) : Closing s [] s
  | act {s next s' : Session} {now : Moment} {action : Action} {rest : List (Moment × Action)}
      (prompt : s.Prompt action) (moved : s.act? now action = some next)
      (later : Closing next rest s') : Closing s ((now, action) :: rest) s'

theorem act?_down (down : s.manager.isShutDown = true) (moved : s.act? now action = some s') :
    s'.manager.isShutDown = true := by
  rw [act?_isShutDown moved, down, Bool.true_or]

theorem Prompt.winds {next : Session} (prompt : s.Prompt (.step id event))
    (down : s.manager.isShutDown = true) (found : s.calls[id]? = some call)
    (moved : call.step? s.manager now id event = some (next.manager, call')) :
    Winds s.manager event call call' :=
  Call.step?_winds down (prompt call found) moved

theorem Prompt.isOwn (prompt : s.Prompt action) (down : s.manager.isShutDown = true)
    (moved : s.act? now action = some s') : action.isOwn = true := by
  cases action with
  | step id event =>
    obtain ⟨call, call', m', found, inner, rfl⟩ := step?_eq_some moved
    exact (Call.step?_winds down (prompt call found) inner).own
  | _ => rfl

theorem run?_refused (down : s.manager.isShutDown = true) (ran : s.run? actions = some s')
    (refused : ∀ call, s.calls[id]? = some call → call.IsRefused) :
    (∀ call, s'.calls[id]? = some call → call.IsRefused) ∧
      ∀ entry ∈ actions, entry.2.isStepOf id = true → entry.2.isOwn = true := by
  induction actions generalizing s with
  | nil =>
    cases ran
    exact ⟨refused, by simp⟩
  | cons head rest ih =>
    obtain ⟨now, action⟩ := head
    obtain ⟨next, moved, ran⟩ := run?_cons ran
    have still : ∀ call, next.calls[id]? = some call → call.IsRefused := by
      intro call found
      cases act?_origin moved found with
      | made fresh same => exact .inl ⟨_, same⟩
      | stayed before _ => exact refused call before
      | stepped before inner =>
        exact ((refused _ before).step down (Call.step_of_step? inner)).2
    obtain ⟨later, own⟩ := ih (act?_down down moved) ran still
    refine ⟨later, fun entry member => ?_⟩
    rcases List.mem_cons.mp member with rfl | member
    next =>
      intro here
      cases action with
      | step other event =>
        obtain rfl : other = id := by simpa [Action.isStepOf] using here
        obtain ⟨call, call', m', found, inner, rfl⟩ := step?_eq_some moved
        exact ((refused call found).step down (Call.step_of_step? inner)).1
      | _ => rfl
    next => exact own entry member

-- a call that is not there yet may take as many steps as one can
def rankOf (s : Session) (id : CallId) : Nat :=
  match s.calls[id]? with
  | some call => call.rank
  | none => 7

theorem rankOf_le (s : Session) (id : CallId) : s.rankOf id ≤ 7 := by
  unfold rankOf
  split
  · exact Call.rank_le _
  · exact Nat.le_refl 7

theorem act?_rankOf (prompt : s.Prompt action) (down : s.manager.isShutDown = true)
    (moved : s.act? now action = some s') (id : CallId) :
    (if action.isStepOf id then 1 else 0) + s'.rankOf id ≤ s.rankOf id := by
  cases found : s'.calls[id]? with
  | none =>
    have none : s.calls[id]? = none := by
      by_contra there
      obtain ⟨call, before⟩ := Option.ne_none_iff_exists'.mp there
      obtain ⟨call', after⟩ := act?_found moved before
      cases found.symm.trans after
    have apart : action.isStepOf id = false := by
      cases action with
      | step other event =>
        obtain ⟨call, _, _, before, _, _⟩ := step?_eq_some moved
        refine decide_eq_false fun same => ?_
        cases (same ▸ none).symm.trans before
      | _ => rfl
    simp [rankOf, found, none, apart]
  | some call' =>
    cases act?_origin moved found with
    | made fresh same => simpa [rankOf, found, fresh, Action.isStepOf] using call'.rank_le
    | stayed before apart => simp [rankOf, found, before, apart]
    | stepped before inner =>
      have less := (prompt.winds down before inner).rank
      simp only [rankOf, found, before, Action.isStepOf, decide_true, if_true]
      omega

namespace Closing

theorem run? (closing : s.Closing actions s') : s.run? actions = some s' := by
  induction closing with
  | stay s => rfl
  | act prompt moved later ih => simpa [Session.run?, moved] using ih

theorem isOwn (closing : s.Closing actions s') (down : s.manager.isShutDown = true) :
    ∀ entry ∈ actions, entry.2.isOwn = true := by
  induction closing with
  | stay s => simp
  | act prompt moved later ih =>
    intro entry member
    rcases List.mem_cons.mp member with rfl | member
    · exact prompt.isOwn down moved
    · exact ih (act?_down down moved) entry member

theorem down (closing : s.Closing actions s') (down : s.manager.isShutDown = true) :
    s'.manager.isShutDown = true := by
  rw [run?_isShutDown closing.run?, down, Bool.true_or]

theorem countP_le (closing : s.Closing actions s') (down : s.manager.isShutDown = true)
    (id : CallId) :
    actions.countP (fun entry => entry.2.isStepOf id) + s'.rankOf id ≤ s.rankOf id := by
  induction closing with
  | stay s => simp
  | act prompt moved later ih =>
    have first := act?_rankOf prompt down moved id
    have rest := ih (act?_down down moved)
    simp only [List.countP_cons]
    omega

end Closing

theorem exists_prompt (down : s.manager.isShutDown = true) (lined : s.Lined) (busy : ¬ s.Over)
    (now : Moment) :
    ∃ id event next, s.Prompt (.step id event) ∧ s.act? now (.step id event) = some next := by
  -- a call that does not wait for others will do
  have go (id : CallId) (call : Call) (found : s.calls[id]? = some call)
      (pending : call.result? = none) (turn : ∀ turn, call.standing turn = .waiting →
        (s.manager.lane turn).line.isHeldBy id = true) :
      ∃ id event next, s.Prompt (.step id event) ∧ s.act? now (.step id event) = some next := by
    obtain ⟨event, prompt, some⟩ := Call.exists_step? now down pending turn
    obtain ⟨⟨m', call'⟩, moved⟩ := Option.isSome_iff_exists.mp some
    exact ⟨id, event, ⟨m', s.calls.set id call'⟩, (forall_found_iff found).mpr prompt,
      by simp [act?, step?, found, moved]⟩
  simp only [Over, not_forall, not_not] at busy
  obtain ⟨call, member, pending⟩ := busy
  obtain ⟨id, found⟩ := List.getElem?_of_mem member
  by_cases free : ∀ turn, call.standing turn = .waiting →
      (s.manager.lane turn).line.isHeldBy id = true
  next => exact go id call found pending free
  next =>
    simp only [not_forall] at free
    obtain ⟨turn, waiting, _⟩ := free
    have inLine : s.standing turn id ≠ .away := by
      rw [standing_of_getElem? found, waiting]
      simp
    obtain ⟨head, held, present⟩ := (lined turn).exists_head inLine
    cases there : s.calls[head]? with
    | none => simp [standing, there] at present
    | some first =>
      rw [standing_of_getElem? there] at present
      have pending : first.result? = none := by
        by_contra isOver
        exact present (Call.standing_of_result? isOver turn)
      refine go head first there pending fun turn' waits => ?_
      have same : turn' = turn := Call.turn_eq (by simp [waits]) present
      exact same ▸ held

def rank : List Call → Nat
  | [] => 0
  | call :: rest => call.rank + rank rest

theorem rank_set_lt {calls : List Call} (less : call'.rank < call.rank)
    (found : calls[id]? = some call) : rank (calls.set id call') < rank calls := by
  induction calls generalizing id with
  | nil => cases found
  | cons first rest ih =>
    cases id with
    | zero =>
      cases found
      simpa [rank] using less
    | succ id => simpa [rank] using ih found

theorem Prompt.rank_lt (prompt : s.Prompt (.step id event)) (down : s.manager.isShutDown = true)
    (moved : s.act? now (.step id event) = some s') : rank s'.calls < rank s.calls := by
  obtain ⟨call, call', m', found, inner, rfl⟩ := step?_eq_some moved
  exact rank_set_lt (Call.step?_winds down (prompt call found) inner).rank found

theorem exists_closing (s : Session) (down : s.manager.isShutDown = true) (lined : s.Lined) :
    ∃ actions s', s.Closing actions s' ∧ s'.Over := by
  by_cases isOver : s.Over
  next => exact ⟨[], s, .stay s, isOver⟩
  next =>
    obtain ⟨id, event, next, prompt, moved⟩ := exists_prompt down lined isOver ⟨0, ⟨0, 0⟩⟩
    have less := prompt.rank_lt down moved
    obtain ⟨actions, s', later, ends⟩ :=
      exists_closing next (act?_down down moved) (act?_lined lined moved)
    exact ⟨_, s', .act prompt moved later, ends⟩
termination_by rank s.calls

def YieldsAt (s : Session) (id : CallId) : Prop :=
  ∀ call, s.calls[id]? = some call → call.Yields s.manager.builder s.manager.wallet

theorem yieldsAt_of_found (found : s.calls[id]? = some call) :
    s.YieldsAt id ↔ call.Yields s.manager.builder s.manager.wallet :=
  forall_found_iff found

theorem yieldsAt_of_none (none : s.calls[id]? = none) : s.YieldsAt id := by
  intro call found
  cases none.symm.trans found

theorem pending_of_act? (moved : s.act? now action = some s') (pending : s'.Pending id) :
    s.Pending id := by
  intro call found
  by_contra settled
  obtain ⟨r, settled⟩ := Option.ne_none_iff_exists'.mp settled
  obtain ⟨call', after⟩ := act?_found moved found
  have still := pending call' after
  cases act?_origin moved after with
  | made fresh _ => cases fresh.symm.trans found
  | stayed before _ =>
    cases found.symm.trans before
    cases settled.symm.trans still
  | stepped before inner =>
    cases found.symm.trans before
    cases (Call.fate?_of_step settled (Call.step_of_step? inner)).symm.trans still

theorem yieldsAt_iff (prompt : s.Prompt action) (down : s.manager.isShutDown = true)
    (moved : s.act? now action = some s') (silent : s.actWrites now action = []) (id : CallId) :
    s'.YieldsAt id ↔ s.YieldsAt id := by
  have wallet : s'.manager.wallet = s.manager.wallet := by
    rw [act?_wallet moved, silent, Wallet.after_nil]
  cases after : s'.calls[id]? with
  | none =>
    refine iff_of_true (yieldsAt_of_none after) fun call before => ?_
    obtain ⟨call', there⟩ := act?_found moved before
    cases after.symm.trans there
  | some call' =>
    rw [yieldsAt_of_found after, act?_builder moved, wallet]
    cases act?_origin moved after with
    | made fresh same => exact iff_of_true (same ▸ Call.yields_call _ _ _) (yieldsAt_of_none fresh)
    | stayed before _ => exact (yieldsAt_of_found before).symm
    | stepped before inner =>
      exact (prompt.winds down before inner).yields.trans (yieldsAt_of_found before).symm

theorem Closing.yieldsAt_iff (closing : s.Closing actions s') (down : s.manager.isShutDown = true)
    (silent : s.writes actions = []) (id : CallId) : s'.YieldsAt id ↔ s.YieldsAt id := by
  induction closing with
  | stay s => exact .rfl
  | @act s next s' now action rest prompt moved later ih =>
    rw [writes_cons moved, List.append_eq_nil_iff] at silent
    exact (ih (act?_down down moved) silent.2).trans
      (Session.yieldsAt_iff prompt down moved silent.1 id)

theorem actWrites_of_yields (prompt : s.Prompt action)
    (calm : ∀ id, s.Pending id → s.YieldsAt id) : s.actWrites now action = [] := by
  cases action with
  | step id event =>
    cases found : s.calls[id]? with
    | none => simp [actWrites, found]
    | some call =>
      simp only [actWrites, found]
      cases settled : call.fate? with
      | some r => exact Call.writes_of_fate? settled
      | none =>
        have pending : s.Pending id := (forall_found_iff found).mpr settled
        exact ((yieldsAt_of_found found).mp (calm id pending)).writes
  | addToken _ | removeToken _ => cases prompt
  | _ => rfl

theorem Closing.writes_eq_nil (closing : s.Closing actions s') (down : s.manager.isShutDown = true)
    (calm : ∀ id, s.Pending id → s.YieldsAt id) : s.writes actions = [] := by
  induction closing with
  | stay s => rfl
  | @act s next s' now action rest prompt moved later ih =>
    have silent : s.actWrites now action = [] := actWrites_of_yields prompt calm
    rw [writes_cons moved, silent, List.nil_append]
    refine ih (act?_down down moved) fun id pending => ?_
    exact (Session.yieldsAt_iff prompt down moved silent id).mpr
      (calm id (pending_of_act? moved pending))

theorem final_iff (down : s.manager.isShutDown = true) (lined : s.Lined) :
    (∀ later s', s.Closing later s' → s.Final later s') ↔
      ∀ call ∈ s.calls, call.fate? = none → call.Yields s.manager.builder s.manager.wallet := by
  constructor
  next =>
    intro final call member settled
    obtain ⟨id, found⟩ := List.getElem?_of_mem member
    have pending : s.Pending id := (forall_found_iff found).mpr settled
    obtain ⟨later, s', closing, isOver⟩ := exists_closing s down lined
    obtain ⟨_, silent, results⟩ := final later s' closing
    have yields : s'.YieldsAt id := by
      intro call' there
      obtain ⟨r, ended⟩ :=
        Option.ne_none_iff_exists'.mp (isOver call' (List.mem_of_getElem? there))
      exact (Call.yields_iff_of_result? ended).mpr (results id call' r pending there ended)
    exact (closing.yieldsAt_iff down silent id).mp yields call found
  next =>
    intro calm later s' closing
    have yields : ∀ id, s.Pending id → s.YieldsAt id := fun id pending call found =>
      calm call (List.mem_of_getElem? found) (pending call found)
    have silent := closing.writes_eq_nil down yields
    refine ⟨closing.isOwn down, silent, fun id call r pending there ended => ?_⟩
    have still := (closing.yieldsAt_iff down silent id).mpr (yields id pending)
    exact (Call.yields_iff_of_result? ended).mp (still call there)

/-- After a shutdown, whatever has been before it. Calls that have not begun are refused. If calls
are cancelled wherever they can be, nobody is asked any more, and all calls get to their end in a
few steps; then the shutdown is final exactly if there is no call that writes or fails before it can
be cancelled. -/
theorem closing_of_shutDown {m : Manager} {earlier : List (Moment × Action)} (rest : m.AtRest)
    (ran : Session.run? ⟨m, []⟩ earlier = some s) (down : s.manager.isShutDown = true) :
    (∀ later s', s.run? later = some s' →
      ∀ id, (∀ call, s.calls[id]? = some call → call.IsRefused) →
        (∀ call, s'.calls[id]? = some call → call.IsRefused) ∧
        ∀ entry ∈ later, entry.2.isStepOf id = true → entry.2.isOwn = true) ∧
    (∀ later s', s.Closing later s' →
      (∀ entry ∈ later, entry.2.isOwn = true) ∧
      (∀ id, later.countP (fun entry => entry.2.isStepOf id) ≤ 7) ∧
      (¬ s'.Over → ∀ now, ∃ id event next,
        s'.Prompt (.step id event) ∧ s'.act? now (.step id event) = some next)) ∧
    ((∀ later s', s.Closing later s' → s.Final later s') ↔
      ∀ call ∈ s.calls, call.fate? = none →
        call.Yields s.manager.builder s.manager.wallet) := by
  have empty : Session.Over ⟨m, []⟩ := by simp [Over]
  have lined : s.Lined := run?_lined (empty.lined rest) ran
  refine ⟨?_, ?_, final_iff down lined⟩
  · intro later s' ran id refused
    exact run?_refused down ran refused
  · intro later s' closing
    refine ⟨closing.isOwn down, fun id => ?_, fun busy now => ?_⟩
    · have bound := closing.countP_le down id
      have rank := s.rankOf_le id
      omega
    · exact exists_prompt (closing.down down) (run?_lined lined closing.run?) busy now

end Session

namespace Sample

-- one payment is being signed and another one waits
def interrupted (m : Manager) (first second : Payload) : Session where
  manager :=
    { m with
      sendLine := ⟨[0, 1]⟩
      sendPhase := .signing
      isShutDown := true }
  calls := [.send (.signing ⟨first, m.wallet, [[]]⟩ []), .send (.waiting second)]

def interrupting (first second : Payload) : List (Moment × Action) :=
  [(moment, .make (.send first)), (moment, .make (.send second))] ++
    Session.stepsOf 0 (timed [.proceed, .proceed, .proceed, .proceed]) ++
    [(moment, .step 1 .proceed), (moment, .shutDown)]

theorem closing_of_shutDown_accepted :
    ∃ s, Session.run? ⟨manager outputs, []⟩ (interrupting (payload outputs) (payload outputs)) =
        some s ∧
      ∀ later s', s.Closing later s' → s.Final later s' := by
  have ran : Session.run? ⟨manager outputs, []⟩
      (interrupting (payload outputs) (payload outputs)) =
      some (interrupted (manager outputs) (payload outputs) (payload outputs)) := rfl
  have made : Manager.new (manager outputs).wallet outputs builder 0 = .ok (manager outputs) :=
    if_pos rfl
  have rest : (manager outputs).AtRest := Manager.atRest_of_new made
  refine ⟨_, ran, (Session.closing_of_shutDown rest ran rfl).2.2.mpr fun call member pending => ?_⟩
  rcases List.mem_cons.mp member with rfl | member
  · rfl
  · cases List.mem_singleton.mp member
    exact ⟨[[]], rfl, by simp⟩

-- a builder that cannot pay for anything elsewhere
def choosy : Manager :=
  { manager outputs with
    builder :=
      { builder with
        buildForSign := fun tx _ =>
          if tx.destination = "shop" then .ok [[]] else .error .noSpendableOutputs } }

def elsewhere : Payload :=
  ⟨{ (payload outputs).transaction with destination := "elsewhere" }, false⟩

theorem waiting_payment_not_final :
    (∃ s later s', Session.run? ⟨choosy, []⟩ (interrupting (payload outputs) elsewhere) = some s ∧
      s.manager.isShutDown = true ∧ s.Closing later s' ∧
      (s'.calls[1]?).bind Call.result? = some (.fail (.build .noSpendableOutputs)) ∧
      ¬ s.Final later s') ∧
    ∃ s later s', Session.run? ⟨manager outputs, []⟩
        (interrupting (payload outputs) (payload outputs)) = some s ∧
      s.manager.isShutDown = true ∧ s.run? later = some s' ∧
      s'.manager.wallet.recent.length = s.manager.wallet.recent.length + 1 ∧
      ¬ s.Final later s' := by
  constructor
  next =>
    have closing : (interrupted choosy (payload outputs) elsewhere).Closing
        (Session.stepsOf 0 (timed [.cancel, .proceed, .proceed]) ++
          Session.stepsOf 1 (timed [.proceed, .proceed, .proceed, .proceed, .proceed])) _ :=
      .act (fun _ _ _ => rfl) rfl <| .act (.of_found rfl rfl) rfl <|
        .act (.of_found rfl rfl) rfl <| .act (.of_found rfl rfl) rfl <|
        .act (.of_found rfl rfl) rfl <| .act (.of_found rfl rfl) rfl <|
        .act (.of_found rfl rfl) rfl <| .act (.of_found rfl rfl) rfl <| .stay _
    refine ⟨_, _, _, rfl, rfl, closing, rfl, fun final => ?_⟩
    have pending : (interrupted choosy (payload outputs) elsewhere).Pending 1 := by
      rintro _ ⟨⟩
      rfl
    cases final.results 1 _ _ pending rfl rfl
  next =>
    let start := interrupted (manager outputs) (payload outputs) (payload outputs)
    let late := Session.stepsOf 0 (timed [.cancel, .proceed, .proceed]) ++
      Session.stepsOf 1 (timed ((paying outputs "AB").drop 1))
    have ran : start.run? late = some (runs start late) := run?_runs (by decide +kernel)
    have recorded : (runs start late).manager.wallet.recent.length =
        start.manager.wallet.recent.length + 1 := by decide +kernel
    refine ⟨start, late, _, rfl, rfl, ran, recorded, fun final => ?_⟩
    rw [Session.run?_wallet ran, final.writes, Wallet.after_nil] at recorded
    omega

end Sample

end CoinWallet
