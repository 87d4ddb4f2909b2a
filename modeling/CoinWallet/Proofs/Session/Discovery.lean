import CoinWallet.Proofs.Amount.BaseUnits
import CoinWallet.Proofs.Lists
import CoinWallet.Proofs.Session.Action
import CoinWallet.Proofs.Session.Assets

set_option autoImplicit false

namespace CoinWallet

-- powers are those of the core library
attribute [local instance (high)] instPowNat

open Wallet (Change Table)

def Token.firsts : List Token → List Token
  | [] => []
  | t :: rest => t :: (firsts rest).filter fun other => !t.sameContract other

namespace Account

def representable (listing : Token × Nat) : Bool :=
  decide (listing.2 < 2 ^ (96 : Nat) ∧ listing.1.decimals.toNat ≤ 28)

def kept (found : List (Token × Nat)) : List (Token × Nat) :=
  found.filter representable

structure Values (listing : Token × Nat) (entry : Token × Decimal) : Prop where
  token : entry.1 = listing.1
  value : entry.2.toRat = listing.2 / 10 ^ listing.1.decimals.toNat

theorem isSome_iff_representable (listing : Token × Nat) :
    (Decimal.ofBaseUnits? listing.2 listing.1.decimals).isSome ↔ representable listing = true := by
  rw [Decimal.isSome_ofBaseUnits?_iff, representable, decide_eq_true_eq]

theorem values_discovered (found : List (Token × Nat)) :
    List.Forall₂ Values (kept found) (discovered found) := by
  induction found with
  | nil => exact .nil
  | cons listing rest ih =>
    have possible := isSome_iff_representable listing
    cases held : Decimal.ofBaseUnits? listing.2 listing.1.decimals with
    | none =>
      rw [held] at possible
      have left : discovered (listing :: rest) = discovered rest := by
        simp [discovered, tokenValue?, held]
      rw [left, kept, List.filter_cons_of_neg fun within => by simpa using possible.mpr within]
      exact ih
    | some value =>
      rw [held] at possible
      have read : discovered (listing :: rest) = (listing.1, value) :: discovered rest := by
        simp [discovered, tokenValue?, held]
      rw [read, kept, List.filter_cons_of_pos (possible.mp rfl)]
      exact .cons ⟨rfl, Decimal.toRat_of_ofBaseUnits? held⟩ ih

theorem map_discovered (found : List (Token × Nat)) :
    (discovered found).map (·.1) = (kept found).map (·.1) := by
  rw [← List.forall₂_eq_eq_eq, List.forall₂_map_left_iff, List.forall₂_map_right_iff]
  exact (values_discovered found).flip.imp fun _ _ values => values.token

end Account

namespace Wallet

variable {w : Wallet} {entries : List (Token × Decimal)} {t : Token}

theorem tracks_of_sameContract {other : Token} (same : t.sameContract other = true) :
    w.tracks t = w.tracks other := by
  simp only [Token.sameContract_iff] at same
  rw [Bool.eq_iff_iff]
  simp only [tracks_iff, Token.sameContract_iff, same]

theorem tokens_setToken (w : Wallet) (t : Token) (value : Decimal) :
    (w.setToken t value).tokens = if w.tracks t then w.tokens else w.tokens ++ [t] := by
  simp only [setToken, addToken]
  split <;> rfl

theorem tokens_setTokens (w : Wallet) (entries : List (Token × Decimal)) :
    (w.setTokens entries).tokens =
      w.tokens ++ (Token.firsts (entries.map (·.1))).filter fun t => !w.tracks t := by
  induction entries generalizing w with
  | nil => simp [setTokens, Token.firsts]
  | cons entry rest ih =>
    obtain ⟨t, value⟩ := entry
    rw [setTokens_cons, ih, List.map_cons, Token.firsts]
    by_cases known : w.tracks t = true
    next =>
      -- of a contract that is tracked nothing is added, so it makes no difference that `t` hides
      -- the later ones
      have others (other : Token) : (!w.tracks other && !t.sameContract other) = !w.tracks other := by
        by_cases same : t.sameContract other = true
        next => simp [← tracks_of_sameContract same, known]
        next => simp [Bool.not_eq_true _ ▸ same]
      simp only [tokens_setToken, tracks_setToken known, known, if_true, List.filter_cons, Bool.not_true,
        List.filter_filter, others, Bool.false_eq_true, if_false]
    next =>
      have longer : (w.setToken t value).tokens = w.tokens ++ [t] := by rw [tokens_setToken, if_neg known]
      have tracks (other : Token) :
          (w.setToken t value).tracks other = (w.tracks other || t.sameContract other) := by
        simp only [Wallet.tracks, longer, List.any_append, List.any_cons, List.any_nil, Bool.or_false]
      simp [longer, tracks, known, List.filter_filter]

-- the last of the entries about an asset decides on it
theorem amount?_setTokens_of_last {before after : List (Token × Decimal)} {entry : Token × Decimal}
    {kind : AmountType} (same : (AmountType.token entry.1).sameAsset kind = true)
    (last : ∀ later ∈ after, (AmountType.token later.1).sameAsset kind = false) (w : Wallet) :
    (w.setTokens (before ++ entry :: after)).amount? kind = some (.ofToken entry.1 entry.2) := by
  have split : w.setTokens (before ++ entry :: after) =
      ((w.setTokens before).setToken entry.1 entry.2).setTokens after := by
    simp only [setTokens, List.map_append, List.map_cons, changed_append, changed_cons, Change.apply]
  rw [split, amount?_setTokens_of_apart last, amount?_setToken, if_pos same]

theorem mem_amounts_setTokens {entry : AmountType × Amount}
    (apart : ∀ other ∈ entries, entry.1.sameAsset (.token other.1) = false) (w : Wallet) :
    entry ∈ (w.setTokens entries).amounts ↔ entry ∈ w.amounts := by
  induction entries generalizing w with
  | nil => rfl
  | cons head rest ih =>
    have first := apart head List.mem_cons_self
    have distinct : entry ≠ (.token head.1, .ofToken head.1 head.2) := by
      rintro rfl
      rw [AmountType.sameAsset_refl] at first
      contradiction
    have kept : (w.addToken head.1).amounts = w.amounts := by
      unfold addToken
      split <;> rfl
    rw [setTokens_cons, ih fun other later => apart other (List.mem_cons_of_mem head later), setToken,
      Table.mem_put, kept]
    simp only [first, and_true, distinct, or_false]

theorem rest_setTokens (w : Wallet) (entries : List (Token × Decimal)) :
    w.setTokens entries =
      { w with tokens := (w.setTokens entries).tokens, amounts := (w.setTokens entries).amounts } := by
  induction entries generalizing w with
  | nil => rfl
  | cons entry rest ih =>
    rw [setTokens_cons, ih]
    simp only [setToken, addToken]
    split <;> rfl

theorem Consistent.exists_tracked (consistent : w.Consistent) (known : w.tracks t = true) :
    ∃ u, w.tokens.filter (fun other => other.sameContract t) = [u] := by
  obtain ⟨u, member, same⟩ := tracks_iff.mp known
  have distinct : (w.tokens.map fun other => Text.asciiFold other.contract).Nodup := by
    rw [List.Nodup, List.pairwise_map]
    refine consistent.contracts.imp fun apart equal => ?_
    rw [(Token.sameContract_iff _ _).mpr equal] at apart
    contradiction
  refine ⟨u, filter_eq_singleton distinct member fun other => ?_⟩
  simp only [Token.sameContract_iff] at same ⊢
  rw [same]

theorem Consistent.tracks_of_amount? {amount : Amount} (consistent : w.Consistent)
    (held : w.amount? (.token t) = some amount) : w.tracks t = true := by
  obtain ⟨⟨kind, value⟩, found, _⟩ := Option.map_eq_some_iff.mp held
  have member := List.mem_of_find?_eq_some found
  have same := List.find?_some found
  cases kind with
  | token u =>
    rw [← tracks_of_sameContract same]
    exact consistent.tracked _ member u rfl
  | coin => cases same
  | reserve => cases same

end Wallet

namespace Account

variable {w : Wallet} {found : List (Token × Nat)}

def IsLast (t : Token) (listings : List (Token × Nat)) (last : Token × Nat) : Prop :=
  ∃ before after, listings = before ++ last :: after ∧ last.1.sameContract t = true ∧
    ∀ later ∈ after, later.1.sameContract t = false

/-- The wallet `w'` is `w` after a discovery. -/
structure Discovered (found : List (Token × Nat)) (w w' : Wallet) : Prop where
  consistent : w'.Consistent
  once : ∀ listing ∈ kept found, (w'.tokens.countP fun t => t.sameContract listing.1) = 1
  tokens : w'.tokens =
    w.tokens ++ (Token.firsts ((kept found).map (·.1))).filter fun t => !w.tracks t
  amount : ∀ listing ∈ kept found, ∃ last value, IsLast listing.1 (kept found) last ∧
    w'.amount? (.token listing.1) = some (.ofToken last.1 value) ∧
    value.toRat = last.2 / 10 ^ last.1.decimals.toNat
  others : ∀ entry : AmountType × Amount,
    (∀ listing ∈ kept found, entry.1.sameAsset (.token listing.1) = false) →
      (entry ∈ w'.amounts ↔ entry ∈ w.amounts)
  rest : w' = { w with tokens := w'.tokens, amounts := w'.amounts }

theorem exists_amount (w : Wallet) {listing : Token × Nat} (member : listing ∈ kept found) :
    ∃ last value, IsLast listing.1 (kept found) last ∧
      (w.setTokens (discovered found)).amount? (.token listing.1) = some (.ofToken last.1 value) ∧
      value.toRat = last.2 / 10 ^ last.1.decimals.toNat := by
  have values := values_discovered found
  obtain ⟨before, last, after, split, same, none⟩ := exists_last
    (p := fun other => other.1.sameContract listing.1) member (AmountType.sameAsset_refl (.token _))
  rw [split] at values
  obtain ⟨first, entry, later, entries, value, others⟩ := exists_split values
  refine ⟨last, entry.2, ⟨before, after, split, same, none⟩, ?_, value.value⟩
  rw [entries, ← value.token]
  refine Wallet.amount?_setTokens_of_last (value.token ▸ same) (fun other member => ?_) w
  obtain ⟨source, present, same⟩ := exists_mem_of_mem others.flip member
  rw [same.token]
  exact none source present

theorem discovered_adopt (consistent : w.Consistent) (found : List (Token × Nat)) :
    Discovered found w (adopt w (discovered found)) := by
  rw [Wallet.changed_adopt, ← Wallet.setTokens]
  have after : (w.setTokens (discovered found)).Consistent := consistent.changed _
  refine ⟨after, fun listing member => ?_, ?_, fun listing member => exists_amount w member,
    fun entry apart => ?_, Wallet.rest_setTokens w _⟩
  next =>
    obtain ⟨_, _, _, held, _⟩ := exists_amount w member
    obtain ⟨u, single⟩ := after.exists_tracked (after.tracks_of_amount? held)
    rw [List.countP_eq_length_filter, single, List.length_singleton]
  next => rw [Wallet.tokens_setTokens, map_discovered]
  next =>
    refine Wallet.mem_amounts_setTokens (fun other member => ?_) w
    obtain ⟨listing, present, value⟩ := exists_mem_of_mem (values_discovered found).flip member
    rw [value.token]
    exact apart listing present

end Account

namespace Session

theorem consistent_of_run {s s' : Session} {actions : List (Moment × Action)}
    (consistent : s.manager.wallet.Consistent) (ran : s.run? actions = some s') :
    s'.manager.wallet.Consistent := by
  have same := Wallet.sameAssets_after (.refl s.manager.wallet) (s.writes actions)
  rw [run?_wallet ran]
  exact same.consistent (consistent.changed _)

/-- A search that the index answers, whatever other calls do before it goes on: it returns the
tokens whose balance a decimal can hold, and changes only what the wallet keeps track of and holds
of these. -/
theorem discovered_of_run {s : Session} {id : CallId} {address : String}
    (consistent : s.manager.wallet.Consistent)
    (asking : s.calls[id]? = some (.tokens (.asking address))) (found : List (Token × Nat))
    (now : Moment) :
    ∃ told, s.step? now id (.listed (.ok found)) = some told ∧ told.manager = s.manager ∧
      ∀ actions later, told.run? actions = some later →
        (∀ moment action, (moment, action) ∈ actions → action.isStepOf id = false) →
        ∀ moment, ∃ after, later.step? moment id .proceed = some after ∧
          after.calls[id]? = some (.tokens (.finished (.ok ((Account.kept found).map (·.1))))) ∧
          after.manager = { later.manager with wallet := after.manager.wallet } ∧
          Account.Discovered found later.manager.wallet after.manager.wallet := by
  have inside := (List.getElem?_eq_some_iff.mp asking).1
  let listed : Call := .tokens (.listed (Account.discovered found))
  refine ⟨⟨s.manager, s.calls.set id listed⟩, ?_, rfl, fun actions later ran apart moment => ?_⟩
  next => simp [step?, asking, Call.step?, TokenSearch.step?, listed]
  next =>
    have ready : later.calls[id]? = some listed := run?_found_of_apart apart ran (by simp [inside])
    have there := (List.getElem?_eq_some_iff.mp ready).1
    have held : later.manager.wallet.Consistent :=
      consistent_of_run (s := ⟨s.manager, s.calls.set id listed⟩) consistent ran
    have adopted := Account.discovered_adopt held found
    refine ⟨⟨{ later.manager with
      wallet := Account.adopt later.manager.wallet (Account.discovered found) }, later.calls.set id
        (.tokens (.finished (.ok ((Account.kept found).map (·.1)))))⟩, ?_, by simp [there], rfl, adopted⟩
    simp [step?, ready, listed, Call.step?, TokenSearch.step?, Account.map_discovered]

end Session

namespace Sample

-- a contract under two spellings, one that is kept track of, and two balances that no decimal can
-- hold
def listings : List (Token × Nat) :=
  [(⟨"B", "0xCD", 0⟩, 7), (⟨"A", "0xab", 6⟩, 1500000), (⟨"C", "0xEF", 29⟩, 1),
    (⟨"b", "0xcd", 3⟩, 9), (⟨"D", "0x01", 0⟩, 2 ^ (96 : Nat))]

def searching : List (Moment × Action) :=
  [(moment, .addToken ⟨"A", "0xAB", 6⟩), (moment, .make .tokens), (moment, .step 0 .proceed)]

theorem discovered_of_run_spelled :
    ∃ s told after, Session.run? ⟨manager indexed, []⟩ searching = some s ∧
      s.step? moment 0 (.listed (.ok listings)) = some told ∧
      told.step? moment 0 .proceed = some after ∧
      after.calls[0]? = some (.tokens (.finished
        (.ok [⟨"B", "0xCD", 0⟩, ⟨"A", "0xab", 6⟩, ⟨"b", "0xcd", 3⟩]))) ∧
      after.manager.wallet.tokens = [⟨"A", "0xAB", 6⟩, ⟨"B", "0xCD", 0⟩] ∧
      after.manager.wallet.Consistent := by
  have ran : Session.run? ⟨manager indexed, []⟩ searching = some (runs _ _) :=
    run?_runs (by decide +kernel)
  have asking : (runs ⟨manager indexed, []⟩ searching).calls[0]? =
      some (.tokens (.asking "home")) := by
    rfl
  have consistent := Session.consistent_of_run
    (Wallet.Consistent.new ⟨0⟩ .ethereum ⟨[], none⟩ [⟨"home", .standard⟩]) ran
  obtain ⟨told, listed, same, goes⟩ := Session.discovered_of_run consistent asking listings moment
  obtain ⟨after, adopts, finished, _, discovered⟩ := goes [] told rfl (by simp) moment
  refine ⟨_, told, after, ran, listed, adopts, finished, ?_, discovered.consistent⟩
  rw [discovered.tokens, same]
  decide +kernel

end Sample

end CoinWallet
