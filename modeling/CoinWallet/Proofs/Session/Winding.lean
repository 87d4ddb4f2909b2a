import CoinWallet.Proofs.Session.Action
import CoinWallet.Proofs.Session.Turn

set_option autoImplicit false

namespace CoinWallet

-- the call goes on by itself: it asks nobody, and nobody answers it
def Event.isOwn : Event → Bool
  | .proceed | .cancel => true
  | _ => false

namespace Call

def isCancellable : Call → Bool
  | refresh (.asking _) | send (.signing _ _) | send (.broadcasting _ _) => true
  | fee (.asking _) | signatureCount (.asking _ _) | tokens (.asking _) => true
  | _ => false

def fate? : Call → Option (Outcome ManagerError Result)
  | refresh (.leaving r) | refresh (.left r) => some (r.map fun _ => .refreshed .executed)
  | send (.leaving r) | send (.left r) => some (r.map .sent)
  | call => call.result?

def isCalledOff : Outcome ManagerError Result → Bool
  | .error (.failure .cancelled) | .ok (.refreshed .skipped) => true
  | _ => false

end Call

def Builder.Accepts (b : Builder) (payload : Payload) (w : Wallet) : Prop :=
  ∃ hashes, b.buildForSign payload.transaction w = .ok hashes ∧ hashes ≠ []

def Builder.Seals (b : Builder) (job : Signing) (signatures : List Bytes) : Prop :=
  ∃ bytes, b.buildForSend job.payload.transaction job.snapshot signatures = .ok bytes

/-- A shutdown makes an end of the call before it writes, and before it fails by itself. -/
def Call.Yields (b : Builder) (w : Wallet) : Call → Prop
  | refresh (.fetched _) | send (.accepted _ _) | tokens (.listed _) => False
  | send (.waiting payload) | send (.entered payload) => b.Accepts payload w
  | send (.building payload snapshot) => b.Accepts payload snapshot
  | send (.signed job signatures) =>
    signatures.length = job.hashes.length ∧ b.Seals job signatures
  | send (.sealing job signatures) => b.Seals job signatures
  | call => call.fate?.all isCalledOff = true

-- how many steps a call takes at most, if it is cancelled where it can be
def Call.rank : Call → Nat
  | refresh r =>
    match r with
    | .called _ => 6
    | .waiting _ => 5
    | .entered => 4
    | .asking _ | .fetched _ => 3
    | .leaving _ => 2
    | .left _ => 1
    | .finished _ => 0
  | send s =>
    match s with
    | .called _ => 7
    | .waiting _ => 6
    | .entered _ | .signed _ _ => 5
    | .building _ _ | .sealing _ _ => 4
    | .signing _ _ | .broadcasting _ _ | .accepted _ _ => 3
    | .leaving _ => 2
    | .left _ => 1
    | .finished _ => 0
  | fee (.called _ _) | signatureCount (.called _) | tokens .called => 2
  | fee (.asking _) | signatureCount (.asking _ _) | tokens (.asking _) | tokens (.listed _) => 1
  | fee (.finished _) | signatureCount (.finished _) | tokens (.finished _) => 0

variable {m m' : Manager} {now : Moment} {id : CallId} {event : Event} {call call' : Call}

structure Winds (m : Manager) (event : Event) (call call' : Call) : Prop where
  own : event.isOwn = true
  yields : call'.Yields m.builder m.wallet ↔ call.Yields m.builder m.wallet
  rank : call'.rank < call.rank

theorem Refresh.Step.winds {r r' : Refresh} (step : Step m now id event r m' r')
    (down : m.isShutDown = true)
    (prompt : (Call.refresh r).isCancellable = true → event = .cancel) :
    Winds m event (.refresh r) (.refresh r') := by
  cases step with
  | join up => cases down.symm.trans up
  | fetch _ | fail _ | request _ => cases prompt rfl
  | commit => exact ⟨rfl, iff_of_false Bool.false_ne_true not_false, by simp [Call.rank]⟩
  | @leave r => cases r <;> exact ⟨rfl, .rfl, by simp [Call.rank]⟩
  | _ => exact ⟨rfl, .rfl, by simp [Call.rank]⟩

theorem Send.Step.winds {s s' : Send} (step : Step m id event s m' s')
    (down : m.isShutDown = true)
    (prompt : (Call.send s).isCancellable = true → event = .cancel) :
    Winds m event (.send s) (.send s') := by
  cases step with
  | join up => cases down.symm.trans up
  | unsigned _ | signOne _ _ | signLast _ _ | unsignedAll _ | signAll _ => cases prompt rfl
  | accept _ | reject _ | request _ => cases prompt rfl
  | unbuilt built =>
    refine ⟨rfl, iff_of_false Bool.false_ne_true ?_, by simp [Call.rank]⟩
    rintro ⟨hashes, accepted, _⟩
    cases built.symm.trans accepted
  | nothingToSign built =>
    refine ⟨rfl, iff_of_false Bool.false_ne_true ?_, by simp [Call.rank]⟩
    rintro ⟨hashes, accepted, some⟩
    cases built.symm.trans accepted
    exact some rfl
  | sign built some => exact ⟨rfl, iff_of_true rfl ⟨_, built, some⟩, by simp [Call.rank]⟩
  | count right => exact ⟨rfl, (and_iff_right right).symm, by simp [Call.rank]⟩
  | miscount wrong =>
    refine ⟨rfl, iff_of_false Bool.false_ne_true ?_, by simp [Call.rank]⟩
    exact fun both => wrong both.1
  | unsealed built =>
    refine ⟨rfl, iff_of_false Bool.false_ne_true ?_, by simp [Call.rank]⟩
    rintro ⟨bytes, sealed⟩
    cases built.symm.trans sealed
  | broadcast built => exact ⟨rfl, iff_of_true rfl ⟨_, built⟩, by simp [Call.rank]⟩
  | record => exact ⟨rfl, iff_of_false Bool.false_ne_true not_false, by simp [Call.rank]⟩
  | _ => exact ⟨rfl, .rfl, by simp [Call.rank]⟩

theorem Call.step?_winds (down : m.isShutDown = true)
    (prompt : call.isCancellable = true → event = .cancel)
    (moved : call.step? m now id event = some (m', call')) : Winds m event call call' := by
  cases step_of_step? moved with
  | refresh step => exact step.winds down prompt
  | send step => exact step.winds down prompt
  | fee step =>
    cases step with
    | ask up _ | unplanned up _ => cases down.symm.trans up
    | settle _ | request _ => cases prompt rfl
    | _ => exact ⟨rfl, .rfl, by simp [Call.rank]⟩
  | signatureCount step =>
    cases step with
    | ask up => cases down.symm.trans up
    | settle _ | request _ => cases prompt rfl
    | _ => exact ⟨rfl, .rfl, by simp [Call.rank]⟩
  | tokens step =>
    cases step with
    | ask up _ | unsupported up _ => cases down.symm.trans up
    | list | unlisted => cases prompt rfl
    | adopt => exact ⟨rfl, iff_of_false Bool.false_ne_true not_false, by simp [Call.rank]⟩
    | _ => exact ⟨rfl, .rfl, by simp [Call.rank]⟩

namespace Call

theorem rank_le (call : Call) : call.rank ≤ 7 := by
  unfold rank
  split
  · split <;> omega
  · split <;> omega
  all_goals omega

theorem result?_of_step (step : Step m now id event m' call call') : call.result? = none := by
  cases step with
  | refresh step => cases step <;> rfl
  | send step => cases step <;> rfl
  | fee step => cases step <;> rfl
  | signatureCount step => cases step <;> rfl
  | tokens step => cases step <;> rfl

theorem fate?_of_step {r : Outcome ManagerError Result} (settled : call.fate? = some r)
    (step : Step m now id event m' call call') : call'.fate? = some r := by
  cases step with
  | refresh step =>
    cases step with
    | idle => exact settled
    | @leave r => cases r <;> exact settled
    | _ => cases settled
  | send step =>
    cases step with
    | idle | leave => exact settled
    | _ => cases settled
  | fee step => cases step <;> cases settled
  | signatureCount step => cases step <;> cases settled
  | tokens step => cases step <;> cases settled

theorem writes_of_fate? {r : Outcome ManagerError Result} (settled : call.fate? = some r) :
    call.writes now event = [] := by
  unfold writes
  split <;> first | rfl | cases settled

theorem Yields.writes {b : Builder} {w : Wallet} (yields : call.Yields b w) :
    call.writes now event = [] := by
  unfold Call.writes
  split <;> first | rfl | cases yields

theorem yields_iff_of_result? {b : Builder} {w : Wallet} {r : Outcome ManagerError Result}
    (isOver : call.result? = some r) : call.Yields b w ↔ isCalledOff r = true := by
  cases call with
  | refresh r => cases r <;> cases isOver; exact .rfl
  | send s => cases s <;> cases isOver; exact .rfl
  | fee i => cases i <;> cases isOver; exact .rfl
  | signatureCount i => cases i <;> cases isOver; exact .rfl
  | tokens i => cases i <;> cases isOver; exact .rfl

theorem yields_call (b : Builder) (w : Wallet) (demand : Demand) : demand.call.Yields b w := by
  cases demand <;> rfl

-- it has not begun, or was not let in
def IsRefused (call : Call) : Prop :=
  (∃ demand : Demand, call = demand.call) ∨ call.result? = some (.fail .cancelled)

theorem IsRefused.step (refused : call.IsRefused) (down : m.isShutDown = true)
    (step : Step m now id event m' call call') : event.isOwn = true ∧ call'.IsRefused := by
  rcases refused with ⟨demand, same⟩ | isOver
  next =>
    cases step with
    | refresh step =>
      cases step with
      | refuse _ => exact ⟨rfl, .inr rfl⟩
      | join up => cases down.symm.trans up
      | _ => cases demand <;> cases same
    | send step =>
      cases step with
      | refuse _ => exact ⟨rfl, .inr rfl⟩
      | join up => cases down.symm.trans up
      | _ => cases demand <;> cases same
    | fee step =>
      cases step with
      | refuse _ => exact ⟨rfl, .inr rfl⟩
      | ask up _ | unplanned up _ => cases down.symm.trans up
      | _ => cases demand <;> cases same
    | signatureCount step =>
      cases step with
      | refuse _ => exact ⟨rfl, .inr rfl⟩
      | ask up => cases down.symm.trans up
      | _ => cases demand <;> cases same
    | tokens step =>
      cases step with
      | refuse _ => exact ⟨rfl, .inr rfl⟩
      | ask up _ | unsupported up _ => cases down.symm.trans up
      | _ => cases demand <;> cases same
  next => cases isOver.symm.trans (result?_of_step step)

theorem step?_cancel (now : Moment) (id : CallId) (down : m.isShutDown = true)
    (cancellable : call.isCancellable = true) :
    (call.step? m now id .cancel).isSome = true := by
  unfold isCancellable at cancellable
  split at cancellable
  · simp [step?, Refresh.step?, down]
  · simp [step?, Send.step?, down]
  · simp [step?, Send.step?, down]
  · simp [step?, FeeInquiry.step?, down]
  · simp [step?, CountInquiry.step?, down]
  · simp [step?, TokenSearch.step?, down]
  · cases cancellable

theorem step?_proceed (now : Moment) (down : m.isShutDown = true) (pending : call.result? = none)
    (free : call.isCancellable = false)
    (turn : ∀ turn, call.standing turn = .waiting → (m.lane turn).line.isHeldBy id = true) :
    (call.step? m now id .proceed).isSome = true := by
  cases call with
  | refresh r =>
    cases r with
    | asking _ => cases free
    | finished _ => cases pending
    | waiting forced =>
      have held : m.debouncer.line.isHeldBy id = true := turn .refresh rfl
      simp only [step?, Refresh.step?, Refresh.proceed?, held, if_true]
      split <;> rfl
    | _ => simp [step?, Refresh.step?, Refresh.proceed?, down]
  | send s =>
    cases s with
    | signing _ _ | broadcasting _ _ => cases free
    | finished _ => cases pending
    | waiting payload =>
      have held : m.sendLine.isHeldBy id = true := turn .send rfl
      simp [step?, Send.step?, Send.proceed?, held]
    | building _ _ | signed _ _ | sealing _ _ =>
      simp only [step?, Send.step?, Send.proceed?]
      split <;> rfl
    | _ => simp [step?, Send.step?, Send.proceed?, down]
  | fee i =>
    cases i with
    | called _ _ => simp [step?, FeeInquiry.step?, down]
    | asking _ => cases free
    | finished _ => cases pending
  | signatureCount i =>
    cases i with
    | called _ => simp [step?, CountInquiry.step?, down]
    | asking _ _ => cases free
    | finished _ => cases pending
  | tokens i =>
    cases i with
    | called => simp [step?, TokenSearch.step?, down]
    | asking _ => cases free
    | listed _ => simp [step?, TokenSearch.step?]
    | finished _ => cases pending

-- a call that does not wait for others always gets further
theorem exists_step? (now : Moment) (down : m.isShutDown = true) (pending : call.result? = none)
    (turn : ∀ turn, call.standing turn = .waiting → (m.lane turn).line.isHeldBy id = true) :
    ∃ event, (call.isCancellable = true → event = .cancel) ∧
      (call.step? m now id event).isSome = true := by
  cases free : call.isCancellable with
  | true => exact ⟨.cancel, fun _ => rfl, step?_cancel now id down free⟩
  | false => exact ⟨.proceed, by simp, step?_proceed now down pending free turn⟩

end Call

end CoinWallet
