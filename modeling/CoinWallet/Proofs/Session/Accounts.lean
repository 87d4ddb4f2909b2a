import CoinWallet.Proofs.Account.Checked
import CoinWallet.Proofs.Session.Assets
import CoinWallet.Proofs.Session.Balance
import CoinWallet.Proofs.Session.Fault
import CoinWallet.Proofs.Session.Return

set_option autoImplicit false

namespace CoinWallet

-- powers are those of the core library
attribute [local instance (high)] instPowNat

open Outcome

namespace Session

variable {c : AccountChain} {m : Manager} {actions : List (Moment × Action)}

/-- What a refresh of an account fails for. A balance of a token that is out of range is nothing of
it, and neither are its decimals. -/
inductive RefreshCause (actions : List (Moment × Action)) : ManagerError → Prop
  | cancelled : RefreshCause actions .cancelled
  | query {provider : Provider} {q : Query} {fault : NetworkError} {cause : ManagerError}
    (replied : Replied actions provider) (failed : provider q = .fail fault)
    (serious : ∀ address token text, q = .tokenBalance address token → fault ≠ .outOfRange text)
    (blamed : fault.BlamedBy cause) : RefreshCause actions cause
  | balance {provider : Provider} {address : String} {raw : Nat} {cause : ManagerError}
    (replied : Replied actions provider) (told : provider (.balance address) = .ok raw)
    (large : 2 ^ (96 : Nat) ≤ raw) : RefreshCause actions cause

inductive TokensCause (actions : List (Moment × Action)) : ManagerError → Prop
  | cancelled : TokensCause actions .cancelled
  | unsupported : TokensCause actions (.capabilityNotSupported .tokenFinder)
  | unlisted {now : Moment} {id : CallId} {fault : NetworkError}
    (failed : (now, .step id (.listed (.error fault))) ∈ actions) : TokensCause actions (.network fault)

structure Checked (actions : List (Moment × Action)) (s : Session) : Prop where
  room : ∀ call ∈ s.calls, call.result? ≠ some (.error .overflow)
  refresh : ∀ cause, .refresh (.finished (.fail cause)) ∈ s.calls → RefreshCause actions cause
  tokens : ∀ cause, .tokens (.finished (.fail cause)) ∈ s.calls → TokensCause actions cause
  returns : s.Returns

section Accounts

variable {addresses : List Address} {builder : Builder}

theorem refreshCause_of_fails {cause : ManagerError}
    (fails : Refresh.Fails (.of addresses actions) (.account c) (.failure cause)) :
    RefreshCause actions cause := by
  cases fails with
  | cancelled => exact .cancelled
  | fetch own ends =>
    obtain ⟨q, _, fault, told, blamed⟩ | ⟨replies, told, concluded⟩ := ends.blamed_or_concluded
    next =>
      obtain ⟨provider, replied, settled⟩ := told
      obtain ⟨failed, unexcused⟩ := Query.settle_eq_fail_iff.mp settled.symm
      exact .query replied failed (Query.excuse?_eq_none_iff.mp unexcused) blamed
    next =>
      have failed := map_eq_error_iff.mp concluded
      obtain ⟨raw, rest, rfl, none⟩ := Account.conclude_refreshPlan_eq_fail failed
      obtain ⟨provider, replied, settled⟩ := told.1
      rw [Query.settle_of_strict fun _ => rfl] at settled
      refine .balance replied settled.symm ?_
      simpa using (Decimal.ofScaled?_eq_none_iff (Blockchain.decimals_le _)).mp none

theorem ne_overflow_of_fails {call : Call} {fault : Fault ManagerError}
    (sound : ∀ q, ¬ (Inputs.of addresses actions).told q (.error .overflow))
    (fails : call.Fails (.of addresses actions) (.account c) builder fault) : fault ≠ .overflow := by
  cases call with
  | refresh r =>
    cases fails with
    | cancelled => nofun
    | fetch own ends =>
      refine ends.ne_overflow (fun q _ => sound q) fun replies _ => ?_
      exact mt map_eq_error_iff.mp (Account.conclude_refreshPlan_ne_overflow _ replies)
  | send s =>
    cases fails with
    | unsent cause => nofun
    | fetch ends => exact ends.ne_overflow (fun q _ => sound q) fun | .cons hash .nil, _ => nofun
  | fee i =>
    cases fails with
    | cancelled => nofun
    | unplanned prices => nofun
    | fetch prices ends =>
      obtain ⟨w, amount, destination, now, _, planned⟩ := prices
      exact ends.ne_overflow (fun q _ => sound q) fun replies _ =>
        Account.conclude_feePlan_ne_overflow planned replies
  | signatureCount i =>
    cases fails with
    | cancelled => nofun
    | mismatch expected actual => nofun
    | fetch own ends => exact ends.ne_overflow (fun q _ => sound q) fun | .cons count .nil, _ => nofun
  | tokens i => cases fails <;> nofun

end Accounts

/-- Providers tell a value or a cause, or what nodes answer, and the index tells anything; tokens
may have any decimals, amounts and settings any values. -/
theorem checked_of_run (accounts : m.chain = .account c) {s : Session}
    (ran : run? ⟨m, []⟩ actions = some s)
    (plain : ∀ provider, Replied actions provider → ∀ q,
      provider q ≠ .error .overflow ∨ JsonRpc.Answers q (provider q)) :
    s.Checked actions := by
  have told : ∀ q, ¬ (Inputs.of m.wallet.addresses actions).told q (.error .overflow) := by
    rintro q ⟨provider, replied, settled⟩
    have overflows := Query.settle_eq_overflow_iff.mp settled.symm
    rcases plain provider replied q with other | answers
    · exact other overflows
    · exact answers.ne_overflow overflows
  refine ⟨fun call member overflows => ?_, fun cause member => ?_, fun cause member => ?_, s.returns⟩
  next =>
    have fails := fails_of_run ran member overflows
    rw [accounts] at fails
    exact ne_overflow_of_fails told fails rfl
  next =>
    have fails : Refresh.Fails (.of m.wallet.addresses actions) m.chain (.failure cause) :=
      fails_of_run ran member rfl
    rw [accounts] at fails
    exact refreshCause_of_fails fails
  next =>
    have fails : TokenSearch.Fails (.of m.wallet.addresses actions) (.failure cause) :=
      fails_of_run ran member rfl
    cases fails with
    | cancelled => exact .cancelled
    | unsupported => exact .unsupported
    | unlisted listed =>
      obtain ⟨now, id, present⟩ := listed
      exact .unlisted present

end Session

namespace Sample

open Http

-- what is below zero, or lowers a price, is as good as anything else
def reckless : Chain :=
  .account
    ⟨.ethereum,
      { normalMultiplier := .neg .one
        limitMultiplier := some (.neg (.ofUInt64 3))
        minimalPrice := some (.neg (.ofUInt64 7)) },
      ["main"], true, ethereum_usesAccounts, main_ne_nil⟩

def quantity (text : String) : Except NetworkError Response :=
  document ("\x7b\"result\":\"" ++ text ++ "\"\x7d")

-- balances and prices of as many bits as a quantity can have
def extremes : Script where
  rules :=
    [{ parts := ["eth_getBalance"], answers := [quantity "0x5"] },
     { parts := ["eth_getTransactionCount"], answers := [quantity "0x1"] },
     { parts := ["eth_call"], answers := [quantity "0xffffffffffffffffffffffffffffffff"] },
     { parts := ["eth_estimateGas"], answers := [quantity "0xffffffffffffffff"] },
     { parts := ["eth_gasPrice"], answers := [quantity "0x80000000000000000000000000000000"] }]

def node : Provider := fun q =>
  match JsonRpc.dialogue? "main" 1 q with
  | some dialogue => ((dialogue.retrying 3).run Script.send extremes).1
  | none => .fail (.domain (.unsupported "query"))

theorem node_answers (q : Query) : node q ≠ .error .overflow ∨ JsonRpc.Answers q (node q) := by
  unfold node
  split
  next dialogue found => exact .inr ⟨"main", 1, dialogue, 3, found, Dialogue.yields_run _ _ _⟩
  next => exact .inl (fail_ne_overflow _)

def asking (count : Nat) : List Event :=
  (List.range count).flatMap fun member =>
    [.request member .start, .request member (.reply node)]

def unwieldy : Token := ⟨"A", "0xAB", 4294967295⟩

def extreme : List (Moment × Action) :=
  (moment, .addToken unwieldy) :: (moment, .make (.refresh true)) ::
    Session.stepsOf 0 (timed ([.proceed, .proceed, .proceed] ++ asking 4 ++ [.proceed] ++ writing)) ++
  (moment, .make (.fee (.ofToken unwieldy (.neg .one)) "shop")) ::
    Session.stepsOf 1 (timed [.proceed]) ++
  (moment, .make (.fee (.zeroCoin .ethereum) "shop")) ::
    Session.stepsOf 2 (timed ([.proceed] ++ asking 2 ++ [.proceed])) ++
  (moment, .make .tokens) ::
    Session.stepsOf 3 (timed
      [.proceed, .listed (.ok [(⟨"B", "0xCD", 4294967295⟩, 2 ^ (128 : Nat) - 1)]), .proceed]) ++
  (moment, .make (.signatureCount 1)) ::
    Session.stepsOf 4 (timed ([.proceed] ++ asking 1 ++ [.proceed]))

def succeeds (call : Call) : Option Bool :=
  call.result?.map Except.isOk

theorem checked_of_run_extreme :
    ∃ s, Session.run? ⟨manager reckless, []⟩ extreme = some s ∧
      s.calls.map succeeds = [some true, some false, some false, some true, some true] ∧
      s.Checked extreme := by
  have results : (Session.run? ⟨manager reckless, []⟩ extreme).map (·.calls.map succeeds) =
      some [some true, some false, some false, some true, some true] := by decide +kernel
  obtain ⟨s, ran, ended⟩ := Option.map_eq_some_iff.mp results
  refine ⟨s, ran, ended, Session.checked_of_run rfl ran ?_⟩
  rintro provider ⟨now, id, member, present⟩
  have same : provider = node := by
    simp [extreme, Session.stepsOf, timed, writing, asking, List.range, List.range.loop] at present
    tauto
  exact same ▸ node_answers

end Sample

end CoinWallet
