import CoinWallet.Http.Script
import CoinWallet.Proofs.Provider.Replies
import CoinWallet.Proofs.Session.Action
import CoinWallet.Proofs.Session.Assets
import CoinWallet.Proofs.Utxo.Balance

set_option autoImplicit false

namespace CoinWallet

-- powers and sums are those of the core library
attribute [local instance (high)] instPowNat Zero.ofOfNat0

def Update.Tallied : Update → Prop
  | utxo info => Tally info.unspentOutputs info.balance
  | account _ => True

def Call.Tallied : Call → Prop
  | refresh (.asking fetch) => fetch.attempts.All fun q r => q.Tallied r
  | refresh (.fetched update) => update.Tallied
  | _ => True

theorem Update.tallied_of_conclude {chain : Chain} {w : Wallet} {update : Update}
    {replies : Replies (chain.refreshPlan w).queries}
    (all : replies.All fun q r => q.Tallied r)
    (concluded : (chain.refreshPlan w).conclude replies = .ok update) : update.Tallied := by
  cases chain with
  | account c =>
    simp only [Chain.refreshPlan, Plan.map, Outcome.map_eq_ok_iff] at concluded
    obtain ⟨_, _, rfl⟩ := concluded
    trivial
  | utxo c =>
    simp only [Chain.refreshPlan, Plan.map, Outcome.map_eq_ok_iff, Utxo.refreshPlan,
      Outcome.ofOption_eq_ok_iff] at concluded
    obtain ⟨info, merged, rfl⟩ := concluded
    refine AddressInfo.tally_merge? (fun told member => ?_) merged
    obtain ⟨a, r, tallied, rfl⟩ := all.of_mem_toList member
    exact tallied

section

variable {chain : Blockchain} (uses : chain.usesOutputs = true)
include uses

theorem Call.step?_tallied {m m' : Manager} {now : Moment} {id : CallId} {event : Event}
    {call call' : Call} (founded : call.Founded m.chain) (tallied : call.Tallied)
    (servers : ∀ member provider, event = .request member (.reply provider) →
      Esplora.Serves chain provider)
    (moved : call.step? m now id event = some (m', call')) : call'.Tallied := by
  cases step_of_step? moved with
  | refresh step =>
    cases step with
    | ask => exact Attempts.all_waiting _
    | @fetch fetch update settled =>
      obtain ⟨w, plan⟩ := founded
      obtain ⟨replies, outcome, concluded⟩ := Fetch.result?_ok settled
      obtain ⟨plan', attempts⟩ := fetch
      cases plan
      exact Update.tallied_of_conclude (Attempts.All.outcome? tallied outcome) concluded
    | @request member event fetch next m' inner =>
      simp only [Manager.stepFetch?, Option.map_eq_some_iff, Prod.mk.injEq] at inner
      obtain ⟨⟨next, cursor⟩, inner, _, rfl⟩ := inner
      refine Attempts.All.fetch_step? tallied (fun provider reply q r => ?_) inner
      exact (servers member provider (by rw [reply])).tallied uses
    | _ => trivial
  | _ => trivial

theorem Session.run?_tallied {s s' : Session} {actions : List (Moment × Action)}
    (founded : s.Founded) (tallied : ∀ call ∈ s.calls, call.Tallied)
    (servers : ∀ now id member provider,
      (now, .step id (.request member (.reply provider))) ∈ actions →
        Esplora.Serves chain provider)
    (ran : s.run? actions = some s') : ∀ call ∈ s'.calls, call.Tallied := by
  have both := run?_kept (P := fun s => s.Founded ∧ ∀ call ∈ s.calls, call.Tallied)
    (fun now action s s' present ⟨founded, tallied⟩ moved => ?_) ⟨founded, tallied⟩ ran
  next => exact both.2
  refine ⟨act?_founded founded moved, ?_⟩
  refine act?_forall (fun demand => by cases demand <;> trivial) ?_ tallied moved
  intro id event call call' m' same member before inner
  refine Call.step?_tallied uses (founded call member) before (fun member provider reply => ?_) inner
  exact servers now id member provider (by rwa [same, reply] at present)

end

namespace Wallet

variable {w : Wallet}

structure Balanced (w : Wallet) : Prop where
  tally : Tally w.unspentOutputs (w.funds .coin)
  few : w.unspentOutputs.length < 2 ^ (32 : Nat)
  count : ∀ n, w.outputsCount = some n → n = w.unspentOutputs.length

theorem balanced_new (id : WalletId) (chain : Blockchain) (key : PublicKey)
    (addresses : List Address) : (new id chain key addresses).Balanced where
  tally := .nil
  few := by simp [new]
  count := by simp [new]

-- what a change leaves alone that is about tokens or the history
structure SameBalance (w w' : Wallet) : Prop where
  coin : w'.funds .coin = w.funds .coin
  outputs : w'.unspentOutputs = w.unspentOutputs
  count : w'.outputsCount = w.outputsCount

namespace SameBalance

variable {w' w'' : Wallet}

theorem refl (w : Wallet) : w.SameBalance w := ⟨rfl, rfl, rfl⟩

theorem trans (first : w.SameBalance w') (last : w'.SameBalance w'') : w.SameBalance w'' where
  coin := last.coin.trans first.coin
  outputs := last.outputs.trans first.outputs
  count := last.count.trans first.count

theorem balanced (same : w.SameBalance w') (balanced : w.Balanced) : w'.Balanced where
  tally := by
    rw [same.coin, same.outputs]
    exact balanced.tally
  few := by
    rw [same.outputs]
    exact balanced.few
  count := by
    rw [same.outputs, same.count]
    exact balanced.count

end SameBalance

theorem sameBalance_addToken (w : Wallet) (t : Token) : w.SameBalance (w.addToken t) := by
  have coin : (w.addToken t).funds .coin = w.funds .coin := by
    simp only [funds, amount?_addToken]
  refine ⟨coin, ?_, ?_⟩ <;> unfold addToken <;> split <;> rfl

theorem sameBalance_setToken (w : Wallet) (t : Token) (value : Decimal) :
    w.SameBalance (w.setToken t value) where
  coin := by simp [funds, amount?_setToken, AmountType.sameAsset]
  outputs := (w.sameBalance_addToken t).outputs
  count := (w.sameBalance_addToken t).count

theorem sameBalance_removeToken (w : Wallet) (t : Token) : w.SameBalance (w.removeToken t) where
  coin := by simp [funds, amount?_removeToken, AmountType.sameAsset]
  outputs := rfl
  count := rfl

theorem sameBalance_adopt (w : Wallet) (tokens : List (Token × Decimal)) :
    w.SameBalance (Account.adopt w tokens) := by
  unfold Account.adopt
  induction tokens generalizing w with
  | nil => exact .refl w
  | cons head rest ih => exact (w.sameBalance_setToken head.1 head.2).trans (ih _)

theorem sameBalance_commitHistory (w : Wallet) (info : AddressInfo) (now : Timestamp) :
    w.SameBalance (Utxo.commitHistory w info now) := by
  obtain ⟨recent, committed⟩ := commitHistory_eq w info now
  rw [committed]
  exact ⟨rfl, rfl, rfl⟩

theorem balanced_commit (w : Wallet) {info : AddressInfo}
    (tally : Tally info.unspentOutputs info.balance)
    (few : info.unspentOutputs.length < 2 ^ (32 : Nat)) (now : Timestamp) :
    (Utxo.commit w info now).Balanced := by
  have coin : (w.setCoin info.balance).funds .coin = info.balance := by
    simp [funds, amount?_setCoin, AmountType.sameAsset, Amount.withValue]
  have balanced : Balanced
      { w.setCoin info.balance with
        outputsCount := some info.unspentOutputs.length
        unspentOutputs := info.unspentOutputs } :=
    ⟨coin.symm ▸ tally, few, fun n told => (Option.some.inj told).symm⟩
  exact (sameBalance_commitHistory _ info now).balanced balanced

namespace Balanced

theorem apply {x : Write} (balanced : w.Balanced)
    (told : ∀ update now, x = .commit update now → ∃ info, update = .utxo info ∧
      Tally info.unspentOutputs info.balance ∧ info.unspentOutputs.length < 2 ^ (32 : Nat)) :
    (x.apply w).Balanced := by
  cases x with
  | commit update now =>
    obtain ⟨info, rfl, tally, few⟩ := told update now rfl
    exact balanced_commit w tally few now
  | record payload hash =>
    have same : w.SameBalance (w.recordOutgoing (payload.sent hash)) := ⟨rfl, rfl, rfl⟩
    exact same.balanced balanced
  | adopt tokens => exact (w.sameBalance_adopt tokens).balanced balanced
  | track t => exact (w.sameBalance_addToken t).balanced balanced
  | untrack t => exact (w.sameBalance_removeToken t).balanced balanced

theorem after {writes : List Write} (balanced : w.Balanced)
    (told : ∀ update now, .commit update now ∈ writes → ∃ info, update = .utxo info ∧
      Tally info.unspentOutputs info.balance ∧ info.unspentOutputs.length < 2 ^ (32 : Nat)) :
    (w.after writes).Balanced := by
  induction writes generalizing w with
  | nil => exact balanced
  | cons x rest ih =>
    refine ih (balanced.apply fun update now same => ?_) fun update now later => ?_
    next => exact told update now (same ▸ List.mem_cons_self)
    next => exact told update now (List.mem_cons_of_mem x later)

theorem unspentBalance? (balanced : w.Balanced) :
    ∃ total, w.unspentBalance? = some total ∧ total.toRat = w.coinAmount.value.toRat := by
  obtain ⟨total, summed, whole, units⟩ := Tally.sum? balanced.tally.words balanced.few
  refine ⟨total, summed, ?_⟩
  rw [coinAmount_value, whole.toRat_eq, units, (balanced.tally.whole balanced.few).toRat_eq,
    balanced.tally.units balanced.few]

end Balanced

end Wallet

/-- In every state of a session on a chain of outputs whose providers are servers of it, and where
no refresh brought more outputs than their number has bits for, the coin amount is the exact sum of
the unspent outputs. So is the sum that the wallet takes itself, and the outputs have been counted
right. -/
theorem Session.balanced_of_run {id : WalletId} {blockchain : Blockchain} {key : PublicKey}
    {addresses : List Address} {c : UtxoChain} {builder : Builder} {window : Nat} {m : Manager}
    {actions : List (Moment × Action)} {s : Session}
    (made : Manager.new (.new id blockchain key addresses) (.utxo c) builder window = .ok m)
    (servers : ∀ now id member provider,
      (now, .step id (.request member (.reply provider))) ∈ actions →
        Esplora.Serves c.blockchain provider)
    (few : ∀ info now, .commit (.utxo info) now ∈ Session.writes ⟨m, []⟩ actions →
      info.unspentOutputs.length < 2 ^ (32 : Nat))
    (ran : run? ⟨m, []⟩ actions = some s) :
    s.manager.wallet.coinAmount.value.toRat =
        (s.manager.wallet.unspentOutputs.map (·.amount.toRat)).sum ∧
      (∃ total, s.manager.wallet.unspentBalance? = some total ∧
        total.toRat = s.manager.wallet.coinAmount.value.toRat) ∧
      ∀ n, s.manager.wallet.outputsCount = some n → n = s.manager.wallet.unspentOutputs.length := by
  have chain : m.chain = .utxo c ∧ m.wallet = .new id blockchain key addresses := by
    unfold Manager.new at made
    split at made <;> cases made
    exact ⟨rfl, rfl⟩
  have told (update : Update) (now : Timestamp)
      (written : .commit update now ∈ Session.writes ⟨m, []⟩ actions) :
      ∃ info, update = .utxo info ∧ Tally info.unspentOutputs info.balance ∧
        info.unspentOutputs.length < 2 ^ (32 : Nat) := by
    obtain ⟨before, after, middle, rfl, ran, held⟩ := exists_fetched_of_mem_writes ran written
    have start : Founded ⟨m, []⟩ := fun call member => by cases member
    have tallied := run?_tallied c.usesOutputs start (fun call member => by cases member)
      (fun now id member provider present =>
        servers now id member provider (List.mem_append_left after present)) ran _ held
    cases update with
    | utxo info => exact ⟨info, rfl, tallied, few info now written⟩
    | account update =>
      have brought : middle.manager.chain.Brings (.account update) := run?_founded start ran _ held
      obtain ⟨other, accounts⟩ := brought.account
      rw [run?_chain ran, chain.1] at accounts
      cases accounts
  have balanced : s.manager.wallet.Balanced := by
    rw [run?_wallet ran, chain.2]
    exact (Wallet.balanced_new id blockchain key addresses).after told
  refine ⟨?_, balanced.unspentBalance?, balanced.count⟩
  rw [Wallet.coinAmount_value]
  exact balanced.tally.toRat_eq balanced.few

namespace Sample

open Http

def document (body : String) : Except NetworkError Response :=
  .ok { status := 200, body := .ok body }

-- two outputs whose sum is beyond 64 bits, told by a server that is slow at first
def script : Script where
  rules :=
    [{ parts := ["/utxo"]
       answers :=
        [document ("[\x7b\"txid\":\"aa\",\"vout\":0,\"value\":18446744073709551615\x7d," ++
          "\x7b\"txid\":\"bb\",\"vout\":1,\"value\":1\x7d]")] },
     { parts := ["/txs"], answers := [document "[]"] },
     { parts := ["/address"]
       answers :=
        [.error (.timeout "read"),
          document ("\x7b\"chain_stats\":\x7b\"spent_txo_count\":0,\"tx_count\":2\x7d," ++
            "\"mempool_stats\":\x7b\"spent_txo_count\":0,\"tx_count\":0\x7d\x7d")] }]

def server : Provider := fun q =>
  match Esplora.dialogue? "main" .bitcoin q with
  | some dialogue => ((dialogue.retrying 3).run Script.send script).1
  | none => .fail (.domain (.unsupported "query"))

theorem serves_server : Esplora.Serves .bitcoin server := by
  intro q r answered
  unfold server at answered
  split at answered
  next dialogue found =>
    refine ⟨"main", dialogue, 3, found, ?_⟩
    rw [← answered]
    exact Dialogue.yields_run _ _ _
  next => cases answered

def served : List (Moment × Action) :=
  (moment, .make (.refresh false)) ::
    Session.stepsOf 0 (timed
      ([.proceed, .proceed, .proceed, .request 0 .start, .request 0 (.reply server), .proceed] ++
        writing))

def fits : Write → Bool
  | .commit (.utxo info) _ => info.unspentOutputs.length < 2 ^ (32 : Nat)
  | _ => true

theorem balanced_of_run_served :
    ∃ s, Session.run? ⟨manager outputs, []⟩ served = some s ∧
      s.manager.wallet.coinAmount.value = { mantissa := 18446744073709551616, scale := 8 } ∧
      s.manager.wallet.unspentOutputs.length = 2 ∧
      s.manager.wallet.coinAmount.value.toRat =
        (s.manager.wallet.unspentOutputs.map (·.amount.toRat)).sum := by
  have ran : Session.run? ⟨manager outputs, []⟩ served = some (runs _ _) :=
    run?_runs (by decide +kernel)
  have few : (Session.writes ⟨manager outputs, []⟩ served).all fits = true := by decide +kernel
  have held : (runs ⟨manager outputs, []⟩ served).manager.wallet.coinAmount.value =
        { mantissa := 18446744073709551616, scale := 8 } ∧
      (runs ⟨manager outputs, []⟩ served).manager.wallet.unspentOutputs.length = 2 := by
    decide +kernel
  refine ⟨_, ran, held.1, held.2, ?_⟩
  refine (Session.balanced_of_run (made outputs) ?_ ?_ ran).1
  next =>
    intro now id member provider present
    have same : now = moment ∧ id = 0 ∧ member = 0 ∧ provider = server := by
      simpa [served, Session.stepsOf, timed, writing] using present
    exact same.2.2.2 ▸ serves_server
  next =>
    intro info now written
    exact of_decide_eq_true (List.all_eq_true.mp few _ written)

end Sample

end CoinWallet
