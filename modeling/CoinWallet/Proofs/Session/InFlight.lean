import CoinWallet.Proofs.Account.Commit
import CoinWallet.Proofs.Session.Assets
import CoinWallet.Proofs.Session.Fault

set_option autoImplicit false

namespace CoinWallet

-- powers are those of the core library
attribute [local instance (high)] instPowNat

-- a refresh that asks for the plan, or has made its update of what was told since
def Call.Reads (told : (q : Query) → Outcome NetworkError q.Reply → Prop) (plan : Plan Update) :
    Call → Prop
  | refresh (.asking fetch) => fetch.attempts.Relies told ∧ fetch.plan = plan
  | refresh (.fetched update) =>
    ∃ replies : Replies plan.queries, replies.All (fun q r => told q (.ok r)) ∧
      plan.conclude replies = .ok update
  | refresh (.leaving _) | refresh (.left _) | refresh (.finished _) => True
  | _ => False

theorem Call.Reads.step? {inputs : Inputs} {plan : Plan Update} {m m' : Manager} {now : Moment}
    {id : CallId} {event : Event} {call call' : Call} (reads : call.Reads inputs.told plan)
    (told : ∀ member provider, event = .request member (.reply provider) →
      ∀ q, inputs.told q (q.settle (provider q)))
    (moved : call.step? m now id event = some (m', call')) : call'.Reads inputs.told plan := by
  cases step_of_step? moved with
  | refresh step =>
    cases step with
    | @fetch fetch update settled =>
      obtain ⟨relies, rfl⟩ := reads
      obtain ⟨replies, outcome, concluded⟩ := Fetch.result?_ok settled
      exact ⟨replies, relies.all.outcome? outcome, concluded⟩
    | @request member answer fetch next m' inner =>
      obtain ⟨relies, same⟩ := reads
      refine ⟨relies.stepFetch? ?_ inner, (stepFetch?_plan inner).trans same⟩
      rintro provider rfl
      exact told member provider rfl
    | join | skip | enter | ask | refuse => exact reads.elim
    | _ => trivial
  | _ => exact reads.elim

namespace Session

variable {s s' : Session} {id : CallId}

theorem length_le_of_act? {now : Moment} {action : Action} (moved : s.act? now action = some s') :
    s.calls.length ≤ s'.calls.length := by
  cases action with
  | make demand =>
    cases moved
    simp [make]
  | step other event =>
    obtain ⟨call, call', m', _, _, rfl⟩ := step?_eq_some moved
    simp
  | _ =>
    cases moved
    exact Nat.le_refl _

structure Reads (inputs : Inputs) (plan : Plan Update) (id : CallId) (s : Session) : Prop where
  inside : id < s.calls.length
  call : ∀ call, s.calls[id]? = some call → call.Reads inputs.told plan

theorem reads_of_run {plan : Plan Update} {addresses : List Address}
    {actions : List (Moment × Action)} (start : s.Reads (.of addresses actions) plan id)
    (ran : s.run? actions = some s') : s'.Reads (.of addresses actions) plan id := by
  refine run?_kept (fun now action s s' present reads moved => ?_) start ran
  refine ⟨reads.inside.trans_le (length_le_of_act? moved), fun call' found => ?_⟩
  cases act?_origin moved found with
  | made fresh _ => exact absurd reads.inside (by simpa using fresh)
  | stayed before _ => exact reads.call _ before
  | @stepped event call before inner =>
    refine (reads.call _ before).step? ?_ inner
    rintro member provider rfl q
    exact ⟨provider, ⟨now, id, member, present⟩, rfl⟩

/-- A refresh of an account that begins with a wallet whose tokens differ in their contracts.
Whatever happens between its beginning and its commit, which other calls go on and which tokens are
added and removed: it writes what it was told of that wallet, to the tokens that are tracked by
then. -/
theorem committed_of_run {c : AccountChain} {update : Update} {began : Moment}
    {actions : List (Moment × Action)} (accounts : s.manager.chain = .account c)
    (consistent : s.manager.wallet.Consistent) (entered : s.calls[id]? = some (.refresh .entered))
    (ran : s.run? ((began, .step id .proceed) :: actions) = some s')
    (fetched : s'.calls[id]? = some (.refresh (.fetched update))) (ended : Moment) :
    ∃ done reading, s'.act? ended (.step id .proceed) = some done ∧
      Account.Reading.Of (Inputs.of s.manager.wallet.addresses actions).told s.manager.wallet reading ∧
      Account.Committed c.blockchain reading s'.manager.wallet done.manager.wallet := by
  obtain ⟨asked, first, ran⟩ := run?_cons ran
  have inside := (List.getElem?_eq_some_iff.mp entered).1
  have start : asked.Reads (.of s.manager.wallet.addresses actions)
      ((Account.refreshPlan c.blockchain s.manager.wallet).map .account) id := by
    simp only [act?, step?, entered, Call.step?, Refresh.step?, Refresh.proceed?, accounts,
      Chain.refreshPlan, Option.bind_eq_bind, Option.bind_some, Option.map_some, Option.pure_def,
      Option.some.injEq] at first
    subst first
    refine ⟨by simpa using inside, fun call found => ?_⟩
    rw [List.getElem?_set_self inside, Option.some.injEq] at found
    subst found
    exact ⟨Attempts.relies_waiting _, rfl⟩
  obtain ⟨replies, told, concluded⟩ := (reads_of_run start ran).call _ fetched
  obtain ⟨found, read, rfl⟩ := Outcome.map_eq_ok_iff.mp concluded
  obtain ⟨reading, of, tokens, balance, count, pending⟩ := Account.exists_reading told read
  have written : s'.act? ended (.step id .proceed) = some
      ⟨{ s'.manager with wallet := Account.commit s'.manager.wallet found ended.date },
        s'.calls.set id (.refresh (.leaving (.ok ())))⟩ := by
    simp [act?, step?, fetched, Call.step?, Refresh.step?, Refresh.proceed?, Update.commit]
  exact ⟨_, reading, written, of, Account.committed_commit (of.tokens ▸ consistent.contracts) tokens
    balance count pending s'.manager.wallet ended.date⟩

end Session

namespace Sample

def dropped : Token := ⟨"D", "0xDD", 6⟩
def kept : Token := ⟨"A", "0xAA", 18⟩
def respelled : Token := ⟨"A2", "0xaa", 6⟩

-- the second one has too many places, and the third one too large a balance
def watched : List Token :=
  [kept, ⟨"B", "0xBB", 30⟩, ⟨"C", "0xCC", 0⟩, dropped]

def teller : Provider
  | .balance _ => .ok 5000000000000000000
  | .transactionCount _ => .ok 7
  | .pendingCount _ => .ok 8
  | .tokenBalance _ t => .ok (some (if t.symbol = "C" then 2 ^ (100 : Nat) else 1500000))
  | _ => .fail (.domain (.unsupported "query"))

def beginning : List (Moment × Action) :=
  watched.map (fun t => (moment, .addToken t)) ++
    (moment, .make (.refresh true)) :: Session.stepsOf 0 (timed [.proceed, .proceed])

-- while all seven queries are under way, one token is tracked anew, one is dropped and one added
def meanwhile : List (Moment × Action) :=
  Session.stepsOf 0 (timed ((List.range 7).map fun member => .request member .start)) ++
    [(moment, .removeToken kept), (moment, .addToken respelled), (moment, .removeToken dropped),
      (moment, .addToken ⟨"E", "0xEE", 2⟩)] ++
    Session.stepsOf 0 (timed
      ((List.range 7).map (fun member => .request member (.reply teller)) ++ [.proceed]))

def entered : Session :=
  runs ⟨manager indexed, []⟩ beginning

def read : Session :=
  runs entered ((moment, .step 0 .proceed) :: meanwhile)

def brought : Session → Option Update
  | ⟨_, [.refresh (.fetched update)]⟩ => some update
  | _ => none

theorem exists_of_brought {s : Session} (some : (brought s).isSome = true) :
    ∃ update, s.calls[0]? = Option.some (.refresh (.fetched update)) := by
  unfold brought at some
  split at some
  next update => exact ⟨update, rfl⟩
  next => cases some

theorem committed_of_run_meanwhile :
    ∃ done reading, read.act? moment (.step 0 .proceed) = some done ∧
      done.manager.wallet.tokens =
        [⟨"B", "0xBB", 30⟩, ⟨"C", "0xCC", 0⟩, respelled, ⟨"E", "0xEE", 2⟩] ∧
      done.manager.wallet.amount? (.token respelled) =
        some (.ofToken kept { mantissa := 1500000, scale := 18 }) ∧
      done.manager.wallet.amount? (.token dropped) = none ∧
      Account.Committed .ethereum reading read.manager.wallet done.manager.wallet := by
  have begun : Session.run? ⟨manager indexed, []⟩ beginning = some entered :=
    run?_runs (by decide +kernel)
  have wallet : entered.manager.wallet = (manager indexed).wallet.changed (watched.map .addToken) := by
    decide +kernel
  have consistent : entered.manager.wallet.Consistent :=
    wallet ▸ (Wallet.Consistent.new _ _ _ _).changed _
  have ran : entered.run? ((moment, .step 0 .proceed) :: meanwhile) = some read :=
    run?_runs (by decide +kernel)
  obtain ⟨update, fetched⟩ := exists_of_brought (s := read) (by decide +kernel)
  obtain ⟨done, reading, written, _, committed⟩ :=
    Session.committed_of_run (Session.run?_chain begun) consistent (by rfl) ran fetched moment
  have shown : (read.act? moment (.step 0 .proceed)).map (fun done =>
      (done.manager.wallet.tokens, done.manager.wallet.amount? (.token respelled),
        done.manager.wallet.amount? (.token dropped))) =
      some ([⟨"B", "0xBB", 30⟩, ⟨"C", "0xCC", 0⟩, respelled, ⟨"E", "0xEE", 2⟩],
        some (.ofToken kept { mantissa := 1500000, scale := 18 }), none) := by decide +kernel
  simp only [written, Option.map_some, Option.some.injEq, Prod.mk.injEq] at shown
  exact ⟨done, reading, written, shown.1, shown.2.1, shown.2.2, committed⟩

end Sample

end CoinWallet
