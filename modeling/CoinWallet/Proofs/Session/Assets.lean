import CoinWallet.Proofs.Account.Commit
import CoinWallet.Proofs.Session.History

set_option autoImplicit false

namespace CoinWallet

open Wallet (Change)

-- a refresh passes over tokens that are not tracked any more
def Write.changes (w : Wallet) : Write → List Change
  | commit (.utxo info) _ => [.setCoin info.balance]
  | commit (.account update) _ =>
    .setCoin update.balance ::
      (update.tokens.filter fun entry => w.tracks entry.1).map fun entry =>
        .setToken entry.1 entry.2
  | record _ _ => []
  | adopt tokens => tokens.map fun entry => .setToken entry.1 entry.2
  | track t => [.addToken t]
  | untrack t => [.removeToken t]

namespace Wallet

theorem changed_adopt (w : Wallet) (tokens : List (Token × Decimal)) :
    Account.adopt w tokens = w.changed (tokens.map fun entry => .setToken entry.1 entry.2) := by
  unfold Account.adopt
  induction tokens generalizing w with
  | nil => rfl
  | cons head rest ih => exact ih _

theorem commitHistory_eq (w : Wallet) (info : AddressInfo) (now : Timestamp) :
    ∃ recent, Utxo.commitHistory w info now = { w with recent := recent } := by
  unfold Utxo.commitHistory
  split
  · split <;> exact ⟨_, rfl⟩
  · exact ⟨_, rfl⟩

theorem sameAssets_apply (w : Wallet) (x : Write) :
    (w.changed (x.changes w)).SameAssets (x.apply w) := by
  cases x with
  | commit update now =>
    cases update with
    | utxo info =>
      obtain ⟨recent, committed⟩ := commitHistory_eq
        { w.setCoin info.balance with
          outputsCount := some info.unspentOutputs.length
          unspentOutputs := info.unspentOutputs } info now
      rw [Write.apply, Update.commit, Utxo.commit, committed]
      exact ⟨rfl, rfl, rfl⟩
    | account update =>
      have refreshed := changed_tokens (w.setCoin update.balance) update.tokens
      simp only [Write.changes, changed_cons, Change.apply, Write.apply, Update.commit,
        Account.commit, refreshed]
      split <;> exact ⟨rfl, rfl, rfl⟩
  | record payload hash => exact ⟨rfl, rfl, rfl⟩
  | adopt tokens =>
    rw [Write.apply, changed_adopt]
    exact .refl _
  | track t => exact .refl _
  | untrack t => exact .refl _

def changesOf (w : Wallet) : List Write → List Change
  | [] => []
  | x :: rest => x.changes w ++ (x.apply w).changesOf rest

theorem sameAssets_after {w w' : Wallet} (same : w.SameAssets w') (writes : List Write) :
    (w.changed (w'.changesOf writes)).SameAssets (w'.after writes) := by
  induction writes generalizing w w' with
  | nil => exact same
  | cons x rest ih =>
    rw [changesOf, changed_append]
    exact ih ((same.changed (x.changes w')).trans (sameAssets_apply w' x))

end Wallet

/-- A new wallet after changes of its assets, and in every state of a session. Its tokens differ in
their contracts, its table has one amount for the coin and at most one for each of the tokens, and
what is looked up is what was set last, in whatever order the table is searched. -/
theorem Session.tabulates_of_run (id : WalletId) (blockchain : Blockchain) (key : PublicKey)
    (addresses : List Address) :
    (∀ changes, ((Wallet.new id blockchain key addresses).changed changes).Tabulates changes) ∧
    ∀ {m : Manager} {actions : List (Moment × Action)} {s : Session},
      m.wallet = .new id blockchain key addresses → run? ⟨m, []⟩ actions = some s →
      s.manager.wallet.Tabulates (m.wallet.changesOf (Session.writes ⟨m, []⟩ actions)) := by
  refine ⟨Wallet.tabulates_changed id blockchain key addresses, fun {m actions s} fresh ran => ?_⟩
  have same := Wallet.sameAssets_after (.refl m.wallet) (Session.writes ⟨m, []⟩ actions)
  rw [run?_wallet ran]
  refine same.tabulates ?_
  rw [fresh]
  exact Wallet.tabulates_changed id blockchain key addresses _

namespace Sample

def indexed : Chain :=
  .account ⟨.ethereum, {}, ["main"], true, ethereum_usesAccounts, main_ne_nil⟩

-- a token is tracked, found under another spelling of its contract, and the other one is dropped
-- again
def finding : List (Moment × Action) :=
  (moment, .addToken ⟨"A", "0xAB", 6⟩) :: (moment, .make .tokens) ::
    Session.stepsOf 0 (timed
      [.proceed, .listed (.ok [(⟨"A", "0xab", 6⟩, 1500000), (⟨"B", "0xCD", 0⟩, 7)]), .proceed]) ++
    [(moment, .removeToken ⟨"B", "0xcd", 0⟩)]

theorem tabulates_of_run_finding :
    ∃ s, Session.run? ⟨manager indexed, []⟩ finding = some s ∧
      s.manager.wallet.tokens = [⟨"A", "0xAB", 6⟩] ∧ s.manager.wallet.Consistent ∧
      s.manager.wallet.funds (.token ⟨"A", "0xAB", 6⟩) = { mantissa := 1500000, scale := 6 } ∧
      s.manager.wallet.funds (.token ⟨"B", "0xCD", 0⟩) = .zero ∧
      s.manager.wallet.funds .coin = .zero := by
  have ran : Session.run? ⟨manager indexed, []⟩ finding = some (runs _ _) :=
    run?_runs (by decide +kernel)
  have table := (Session.tabulates_of_run ⟨0⟩ .ethereum ⟨[], none⟩ [⟨"home", .standard⟩]).2 rfl ran
  refine ⟨_, ran, by decide +kernel, table.consistent, ?_, ?_, ?_⟩
  · exact (table.funds _).trans (by decide +kernel)
  · exact (table.funds _).trans (by decide +kernel)
  · exact (table.funds _).trans (by decide +kernel)

end Sample

end CoinWallet
