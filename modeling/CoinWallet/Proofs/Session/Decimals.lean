import CoinWallet.Proofs.Session.Discovery
import CoinWallet.Proofs.Session.InFlight

set_option autoImplicit false

namespace CoinWallet

-- powers are those of the core library
attribute [local instance (high)] instPowNat

open Wallet (Change Table)

namespace Wallet

def trackedToken? (w : Wallet) (t : Token) : Option Token :=
  w.tokens.find? fun other => other.sameContract t

def valuedToken? (w : Wallet) (t : Token) : Option Token :=
  (w.amount? (.token t)).bind (·.kind.token?)

def Change.tracked (t : Token) (known : Option Token) : Change → Option Token
  | setCoin _ => known
  | setToken u _ | addToken u => if u.sameContract t then known.or (some u) else known
  | removeToken u => if u.sameContract t then none else known

def Change.valued (t : Token) (known : Option Token) : Change → Option Token
  | setCoin _ | addToken _ => known
  | setToken u _ => if u.sameContract t then some u else known
  | removeToken u => if u.sameContract t then none else known

-- the first token of the contract that changes name, since they removed it last
def firstNamed (t : Token) (known : Option Token) (changes : List Change) : Option Token :=
  changes.foldl (Change.tracked t) known

-- the last token of the contract that changes set, unless they removed it since
def lastSet (t : Token) (known : Option Token) (changes : List Change) : Option Token :=
  changes.foldl (Change.valued t) known

variable {w w' : Wallet} {t u : Token}

theorem trackedToken?_addToken (w : Wallet) (t u : Token) :
    (w.addToken u).trackedToken? t =
      if u.sameContract t then (w.trackedToken? t).or (some u) else w.trackedToken? t := by
  unfold addToken trackedToken?
  by_cases known : w.tracks u = true
  next =>
    rw [if_pos known]
    split
    next same =>
      rw [tracks_of_sameContract same, tracks, ← List.isSome_find?] at known
      obtain ⟨other, found⟩ := Option.isSome_iff_exists.mp known
      rw [found, Option.some_or]
    next => rfl
  next =>
    rw [if_neg known, List.find?_append, List.find?_singleton]
    split <;> simp

theorem trackedToken?_removeToken (w : Wallet) (t u : Token) :
    (w.removeToken u).trackedToken? t = if u.sameContract t then none else w.trackedToken? t := by
  unfold removeToken trackedToken?
  rw [List.find?_filter]
  simp only [Token.sameContract_iff, Bool.not_eq_true', Bool.eq_false_iff, ne_eq]
  split
  next same =>
    refine List.find?_eq_none.mpr fun other _ both => ?_
    simp only [decide_eq_true_eq, same] at both
    exact both.1 both.2
  next apart =>
    congr 1
    funext other
    rw [Bool.eq_iff_iff, decide_eq_true_eq, Token.sameContract_iff, and_iff_right_iff_imp]
    exact fun here there => apart (there.symm.trans here)

theorem trackedToken?_apply (w : Wallet) (x : Change) (t : Token) :
    (x.apply w).trackedToken? t = x.tracked t (w.trackedToken? t) := by
  cases x with
  | setCoin value => rfl
  | setToken u value => exact trackedToken?_addToken w t u
  | addToken u => exact trackedToken?_addToken w t u
  | removeToken u => exact trackedToken?_removeToken w t u

theorem valuedToken?_apply (w : Wallet) (x : Change) (t : Token) :
    (x.apply w).valuedToken? t = x.valued t (w.valuedToken? t) := by
  unfold valuedToken?
  cases x with
  | setCoin value => rw [Change.apply, amount?_setCoin]; rfl
  | setToken u value =>
    rw [Change.apply, amount?_setToken, AmountType.sameAsset, Change.valued]
    split <;> rfl
  | addToken u => rw [Change.apply, amount?_addToken]; rfl
  | removeToken u =>
    rw [Change.apply, amount?_removeToken, AmountType.sameAsset, Change.valued]
    split <;> rfl

theorem trackedToken?_changed (w : Wallet) (changes : List Change) (t : Token) :
    (w.changed changes).trackedToken? t = firstNamed t (w.trackedToken? t) changes := by
  induction changes generalizing w with
  | nil => rfl
  | cons x rest ih => rw [changed_cons, ih, trackedToken?_apply]; rfl

theorem valuedToken?_changed (w : Wallet) (changes : List Change) (t : Token) :
    (w.changed changes).valuedToken? t = lastSet t (w.valuedToken? t) changes := by
  induction changes generalizing w with
  | nil => rfl
  | cons x rest ih => rw [changed_cons, ih, valuedToken?_apply]; rfl

theorem Consistent.trackedToken? (consistent : w.Consistent) (known : w.tracks t = true) :
    ∃ u, w.tokens.filter (fun other => other.sameContract t) = [u] ∧ w.trackedToken? t = some u := by
  obtain ⟨u, single⟩ := consistent.exists_tracked known
  refine ⟨u, single, ?_⟩
  rw [Wallet.trackedToken?, ← List.head?_filter, single, List.head?_singleton]

theorem Consistent.valuedToken? {amount : Amount} (consistent : w.Consistent)
    (member : (.token t, amount) ∈ w.amounts) : w.valuedToken? t = some t := by
  have kind : amount.kind = .token t := (consistent.labelled _ member t rfl).1
  have found : (w.amounts.find? fun entry => entry.1.sameAsset (.token t)) = some (.token t, amount) :=
    consistent.distinct.find?_eq_some_iff.mpr ⟨member, AmountType.sameAsset_refl _⟩
  rw [Wallet.valuedToken?, amount?, found, Option.map_some, Option.bind_some, kind]
  rfl

end Wallet

namespace Session

variable {start : Wallet} {actions : List (Moment × Action)} {t : Token}

inductive Tells (actions : List (Moment × Action)) (t : Token) (raw : Nat) : Prop
  | listed {now : Moment} {id : CallId} {found : List (Token × Nat)}
    (present : (now, .step id (.listed (.ok found))) ∈ actions) (member : (t, raw) ∈ found) :
    Tells actions t raw
  | read {provider : Provider} {address : String} (replied : Replied actions provider)
    (told : provider (.tokenBalance address t) = .ok (some raw)) : Tells actions t raw

inductive Named (start : Wallet) (actions : List (Moment × Action)) (t : Token) : Prop
  | tracked (member : t ∈ start.tokens) : Named start actions t
  | held {amount : Amount} (member : (.token t, amount) ∈ start.amounts) : Named start actions t
  | added {now : Moment} (present : (now, .addToken t) ∈ actions) : Named start actions t
  | listed {now : Moment} {id : CallId} {found : List (Token × Nat)} {raw : Nat}
    (present : (now, .step id (.listed (.ok found))) ∈ actions)
    (member : (t, raw) ∈ Account.kept found) : Named start actions t

structure Valued (start : Wallet) (actions : List (Moment × Action)) (t : Token) (value : Decimal) :
    Prop where
  named : Named start actions t
  told : ∃ raw, Tells actions t raw ∧ value.toRat = raw / 10 ^ t.decimals.toNat

end Session

open Session (Named Valued)

namespace Wallet

variable {start w w' : Wallet} {actions : List (Moment × Action)}

structure Sourced (start : Wallet) (actions : List (Moment × Action)) (w : Wallet) : Prop where
  tokens : ∀ t ∈ w.tokens, Named start actions t
  amounts : ∀ t amount, (.token t, amount) ∈ w.amounts →
    (.token t, amount) ∈ start.amounts ∨ Valued start actions t amount.value

def Change.Sourced (start : Wallet) (actions : List (Moment × Action)) : Change → Prop
  | setToken t value => Valued start actions t value
  | addToken t => Named start actions t
  | setCoin _ | removeToken _ => True

theorem Sourced.addToken (sourced : Sourced start actions w) {t : Token}
    (named : Named start actions t) : Sourced start actions (w.addToken t) := by
  unfold Wallet.addToken
  split
  next => exact sourced
  next =>
    refine ⟨fun u member => ?_, sourced.amounts⟩
    rcases List.mem_append.mp member with old | new
    · exact sourced.tokens u old
    · exact List.mem_singleton.mp new ▸ named

theorem Sourced.apply (sourced : Sourced start actions w) {x : Change}
    (given : x.Sourced start actions) : Sourced start actions (x.apply w) := by
  cases x with
  | setCoin value =>
    refine ⟨sourced.tokens, fun t amount member => ?_⟩
    obtain ⟨old, _⟩ | same := Table.mem_put.mp member
    · exact sourced.amounts t amount old
    · cases same
  | setToken u value =>
    have added := sourced.addToken given.named
    refine ⟨added.tokens, fun t amount member => ?_⟩
    obtain ⟨old, _⟩ | same := Table.mem_put.mp member
    · exact added.amounts t amount old
    · cases same
      exact .inr given
  | addToken u => exact sourced.addToken given
  | removeToken u =>
    exact ⟨fun t member => sourced.tokens t (List.mem_of_mem_filter member),
      fun t amount member => sourced.amounts t amount (List.mem_of_mem_filter member)⟩

theorem Sourced.changed (sourced : Sourced start actions w) {changes : List Change}
    (given : ∀ x ∈ changes, x.Sourced start actions) : Sourced start actions (w.changed changes) := by
  induction changes generalizing w with
  | nil => exact sourced
  | cons x rest ih =>
    exact ih (sourced.apply (given x List.mem_cons_self)) fun other later =>
      given other (List.mem_cons_of_mem x later)

theorem SameAssets.sourced (same : w.SameAssets w') (sourced : Sourced start actions w) :
    Sourced start actions w' where
  tokens := same.tokens ▸ sourced.tokens
  amounts := same.amounts ▸ sourced.amounts

end Wallet

def Write.Sourced (start : Wallet) (actions : List (Moment × Action)) : Write → Prop
  | commit (.account update) _ => ∀ entry ∈ update.tokens, Valued start actions entry.1 entry.2
  | adopt tokens => ∀ entry ∈ tokens, Valued start actions entry.1 entry.2
  | track t => Named start actions t
  | commit (.utxo _) _ | record _ _ | untrack _ => True

variable {start : Wallet} {actions : List (Moment × Action)}

theorem Write.Sourced.changes {x : Write} (given : x.Sourced start actions) (w : Wallet) :
    ∀ change ∈ x.changes w, change.Sourced start actions := by
  intro change member
  cases x with
  | commit update now =>
    cases update with
    | utxo info =>
      cases List.mem_singleton.mp member
      trivial
    | account update =>
      rcases List.mem_cons.mp member with rfl | set
      · trivial
      · obtain ⟨entry, listed, rfl⟩ := List.mem_map.mp set
        exact given entry (List.mem_of_mem_filter listed)
  | record payload hash => cases member
  | adopt tokens =>
    obtain ⟨entry, listed, rfl⟩ := List.mem_map.mp member
    exact given entry listed
  | track t =>
    cases List.mem_singleton.mp member
    exact given
  | untrack t =>
    cases List.mem_singleton.mp member
    trivial

theorem Wallet.Sourced.write {w : Wallet} (sourced : Sourced start actions w) {x : Write}
    (given : x.Sourced start actions) : Sourced start actions (x.apply w) :=
  (Wallet.sameAssets_apply w x).sourced (sourced.changed (given.changes w))

theorem Wallet.Sourced.after {w : Wallet} (sourced : Sourced start actions w) {writes : List Write}
    (given : ∀ x ∈ writes, x.Sourced start actions) : Sourced start actions (w.after writes) := by
  induction writes generalizing w with
  | nil => exact sourced
  | cons x rest ih =>
    exact ih (sourced.write (given x List.mem_cons_self)) fun other later =>
      given other (List.mem_cons_of_mem x later)

def Call.Sourced (start : Wallet) (actions : List (Moment × Action)) (chain : Chain) : Call → Prop
  | refresh (.asking fetch) =>
    ∃ w : Wallet, (∀ t ∈ w.tokens, Named start actions t) ∧
      (refresh (.asking fetch)).Reads (Inputs.of start.addresses actions).told (chain.refreshPlan w)
  | refresh (.fetched (.account update)) =>
    ∀ entry ∈ update.tokens, Valued start actions entry.1 entry.2
  | tokens (.listed found) => ∀ entry ∈ found, Valued start actions entry.1 entry.2
  | _ => True

theorem valued_of_concluded {chain : Chain} {w : Wallet} {update : AccountUpdate}
    (named : ∀ t ∈ w.tokens, Named start actions t)
    {replies : Replies (chain.refreshPlan w).queries}
    (told : replies.All fun q r => (Inputs.of start.addresses actions).told q (.ok r))
    (concluded : (chain.refreshPlan w).conclude replies = .ok (.account update)) :
    ∀ entry ∈ update.tokens, Valued start actions entry.1 entry.2 := by
  obtain ⟨c, rfl⟩ := Chain.Brings.account ⟨w, replies, concluded⟩
  obtain ⟨found, read, same⟩ := Outcome.map_eq_ok_iff.mp concluded
  cases same
  obtain ⟨reading, of, tokens, _⟩ := Account.exists_reading told read
  intro entry member
  rw [tokens] at member
  obtain ⟨⟨t, raw⟩, shown, made⟩ := List.mem_filterMap.mp member
  obtain ⟨units, rfl, held, rfl⟩ := Account.tokenValue?_eq_some_iff.mp made
  obtain ⟨provider, replied, settled⟩ := of.raw _ shown
  have told := Query.eq_of_settle_tokenBalance settled.symm
  have own : entry.1 ∈ w.tokens := by
    rw [← of.tokens]
    exact List.mem_map_of_mem shown
  exact ⟨named _ own, units, .read replied told, Decimal.toRat_of_ofBaseUnits? held⟩

theorem valued_of_listed {found : List (Token × Nat)}
    {now : Moment} {id : CallId} (present : (now, .step id (.listed (.ok found))) ∈ actions) :
    ∀ entry ∈ Account.discovered found, Valued start actions entry.1 entry.2 := by
  intro entry member
  obtain ⟨⟨t, raw⟩, kept, values⟩ :=
    exists_mem_of_mem (Account.values_discovered found).flip member
  rw [values.token]
  exact ⟨.listed present kept, raw, .listed present (List.mem_of_mem_filter kept), values.value⟩

theorem Call.Sourced.step? {m m' : Manager} {now : Moment} {id : CallId} {event : Event}
    {call call' : Call} (sourced : call.Sourced start actions m.chain)
    (wallet : Wallet.Sourced start actions m.wallet) (present : (now, .step id event) ∈ actions)
    (moved : call.step? m now id event = some (m', call')) : call'.Sourced start actions m.chain := by
  have told : ∀ member provider, event = .request member (.reply provider) →
      ∀ q, (Inputs.of start.addresses actions).told q (q.settle (provider q)) := by
    rintro member provider rfl q
    exact ⟨provider, ⟨now, id, member, present⟩, rfl⟩
  have stepped := step_of_step? moved
  cases stepped with
  | refresh step =>
    cases step with
    | ask => exact ⟨m.wallet, wallet.tokens, Attempts.relies_waiting _, rfl⟩
    | @fetch fetch update settled =>
      -- `w` is the wallet that was asked about, which may have other tokens by now
      obtain ⟨w, named, reads⟩ := sourced
      obtain ⟨replies, told, concluded⟩ := reads.step? told moved
      cases update with
      | utxo info => trivial
      | account update => exact valued_of_concluded named told concluded
    | request inner =>
      obtain ⟨w, named, reads⟩ := sourced
      exact ⟨w, named, reads.step? told moved⟩
    | _ => trivial
  | tokens step =>
    cases step with
    | list => exact valued_of_listed present
    | _ => trivial
  | _ => trivial

namespace Session

structure Sourced (start : Wallet) (actions : List (Moment × Action)) (s : Session) : Prop where
  wallet : Wallet.Sourced start actions s.manager.wallet
  calls : ∀ call ∈ s.calls, call.Sourced start actions s.manager.chain

variable {s s' : Session} {now : Moment} {action : Action}

theorem Sourced.writes (sourced : s.Sourced start actions) (present : (now, action) ∈ actions) :
    ∀ x ∈ s.actWrites now action, x.Sourced start actions := by
  intro x member
  cases action with
  | step id event =>
    simp only [actWrites] at member
    split at member
    next call found =>
      have given := sourced.calls call (List.mem_of_getElem? found)
      unfold Call.writes at member
      split at member
      · cases List.mem_singleton.mp member
        rename_i update
        cases update with
        | utxo info => trivial
        | account update => exact given
      · cases List.mem_singleton.mp member
        trivial
      · cases List.mem_singleton.mp member
        exact given
      · cases member
    next => cases member
  | addToken t =>
    cases List.mem_singleton.mp member
    exact .added present
  | removeToken t =>
    cases List.mem_singleton.mp member
    trivial
  | make demand => cases member
  | shutDown => cases member

theorem Sourced.act? (sourced : s.Sourced start actions) (present : (now, action) ∈ actions)
    (moved : s.act? now action = some s') : s'.Sourced start actions where
  wallet := by
    rw [act?_wallet moved]
    exact sourced.wallet.after (sourced.writes present)
  calls := by
    rw [act?_chain moved]
    refine act?_forall (fun demand => by cases demand <;> trivial) ?_ sourced.calls moved
    rintro id event call call' m' rfl _ before inner
    exact before.step? sourced.wallet present inner

theorem sourced_of_run {m : Manager} (ran : run? ⟨m, []⟩ actions = some s) :
    s.Sourced m.wallet actions := by
  have start : Sourced m.wallet actions ⟨m, []⟩ :=
    ⟨⟨fun t member => .tracked member, fun t amount member => .inl member⟩, by simp⟩
  exact run?_kept (fun now action s s' present sourced moved => sourced.act? present moved) start ran

-- how the amount of a token stands to the token under which its contract is kept track of
structure Scaled (m : Manager) (actions : List (Moment × Action)) (w : Wallet) (t : Token)
    (amount : Amount) (u : Token) : Prop where
  single : w.tokens.filter (fun other => other.sameContract t) = [u]
  first : Wallet.firstNamed t (m.wallet.trackedToken? t)
    (m.wallet.changesOf (writes ⟨m, []⟩ actions)) = some u
  last : Wallet.lastSet t (m.wallet.valuedToken? t)
    (m.wallet.changesOf (writes ⟨m, []⟩ actions)) = some t
  own : amount.decimals = t.decimals
  value : (.token t, amount) ∈ m.wallet.amounts ∨
    ∃ raw, Tells actions t raw ∧ amount.value.toRat = raw / 10 ^ amount.decimals.toNat
  named : Named m.wallet actions t ∧ Named m.wallet actions u
  agree : (∀ a b, Named m.wallet actions a → Named m.wallet actions b →
      a.sameContract t = true → b.sameContract t = true → a.decimals = b.decimals) →
    amount.decimals = u.decimals

/-- In every state of a session, an amount of a token is scaled by its own decimals, and those are
of the token that was set last. What is kept track of is one token of the same contract, the first
that was named; the two have the same decimals if all tokens of the contract that were ever named
have. -/
theorem decimals_of_run {m : Manager} (consistent : m.wallet.Consistent)
    (ran : run? ⟨m, []⟩ actions = some s) {t : Token} {amount : Amount}
    (member : (.token t, amount) ∈ s.manager.wallet.amounts) :
    ∃ u, Scaled m actions s.manager.wallet t amount u := by
  have held : s.manager.wallet.Consistent := consistent_of_run (s := ⟨m, []⟩) consistent ran
  obtain ⟨u, single, tracked⟩ := held.trackedToken? (held.tracked _ member t rfl)
  have valued := held.valuedToken? member
  have same := Wallet.sameAssets_after (.refl m.wallet) (writes ⟨m, []⟩ actions)
  rw [← run?_wallet (s := ⟨m, []⟩) ran] at same
  have first : s.manager.wallet.trackedToken? t = Wallet.firstNamed t (m.wallet.trackedToken? t)
      (m.wallet.changesOf (writes ⟨m, []⟩ actions)) := by
    rw [← Wallet.trackedToken?_changed, Wallet.trackedToken?, same.tokens, Wallet.trackedToken?]
  have last : s.manager.wallet.valuedToken? t = Wallet.lastSet t (m.wallet.valuedToken? t)
      (m.wallet.changesOf (writes ⟨m, []⟩ actions)) := by
    rw [← Wallet.valuedToken?_changed, Wallet.valuedToken?, same.amount?, Wallet.valuedToken?]
  have own : amount.decimals = t.decimals := (held.labelled _ member t rfl).2.1
  have sourced := (sourced_of_run ran).wallet
  have within : u ∈ s.manager.wallet.tokens ∧ u.sameContract t = true :=
    List.mem_filter.mp (single ▸ List.mem_singleton_self u)
  have origin := sourced.amounts t amount member
  have namedT : Named m.wallet actions t := origin.elim .held fun valued => valued.named
  have namedU := sourced.tokens u within.1
  refine ⟨u, single, first ▸ tracked, last ▸ valued, own, origin.imp_right fun valued => ?_,
    ⟨namedT, namedU⟩, fun agreed => ?_⟩
  next => exact own ▸ valued.told
  next => exact own.trans (agreed t u namedT namedU (AmountType.sameAsset_refl (.token t)) within.2)

end Session

namespace Sample

theorem named_finding {t : Token} (named : Session.Named (manager indexed).wallet finding t) :
    t ∈ [(⟨"A", "0xAB", 6⟩ : Token), ⟨"A", "0xab", 6⟩, ⟨"B", "0xCD", 0⟩] := by
  cases named with
  | tracked member => cases member
  | held member => simp [manager, Wallet.new] at member
  | added present =>
    simp [finding, Session.stepsOf, timed] at present
    simp [present.2]
  | @listed now id found raw present member =>
    have same : found = [(⟨"A", "0xab", 6⟩, 1500000), (⟨"B", "0xCD", 0⟩, 7)] := by
      simp [finding, Session.stepsOf, timed] at present
      exact present.2.2
    have listed := List.mem_of_mem_filter member
    rw [same] at listed
    rcases (by simpa using listed) with ⟨rfl, _⟩ | ⟨rfl, _⟩ <;> simp

theorem decimals_of_run_finding :
    ∃ s, Session.run? ⟨manager indexed, []⟩ finding = some s ∧ s.manager.wallet.amounts.length = 2 ∧
      ∀ t amount, (.token t, amount) ∈ s.manager.wallet.amounts →
        ∃ u ∈ s.manager.wallet.tokens, u.sameContract t = true ∧ amount.decimals = u.decimals := by
  have ran : Session.run? ⟨manager indexed, []⟩ finding = some (runs _ _) :=
    run?_runs (by decide +kernel)
  have consistent : (manager indexed).wallet.Consistent := Wallet.Consistent.new _ _ _ _
  have alike : ∀ a ∈ [(⟨"A", "0xAB", 6⟩ : Token), ⟨"A", "0xab", 6⟩, ⟨"B", "0xCD", 0⟩],
      ∀ b ∈ [(⟨"A", "0xAB", 6⟩ : Token), ⟨"A", "0xab", 6⟩, ⟨"B", "0xCD", 0⟩],
        a.sameContract b = true → a.decimals = b.decimals := by decide +kernel
  refine ⟨_, ran, by decide +kernel, fun t amount member => ?_⟩
  obtain ⟨u, scaled⟩ := Session.decimals_of_run consistent ran member
  obtain ⟨tracked, same⟩ := List.mem_filter.mp (scaled.single ▸ List.mem_singleton_self u)
  refine ⟨u, tracked, same, scaled.agree fun a b first second left right => ?_⟩
  refine alike a (named_finding first) b (named_finding second) ?_
  simp only [Token.sameContract_iff] at left right ⊢
  rw [left, right]

-- what was added with six places is listed with eighteen
def rescaled : List (Moment × Action) :=
  (moment, .addToken ⟨"A", "0xAB", 6⟩) :: (moment, .make .tokens) ::
    Session.stepsOf 0 (timed [.proceed, .listed (.ok [(⟨"A", "0xab", 18⟩, 1500000)]), .proceed])

theorem listed_with_other_decimals :
    ∃ s amount, Session.run? ⟨manager indexed, []⟩ rescaled = some s ∧
      s.manager.wallet.tokens = [⟨"A", "0xAB", 6⟩] ∧
      s.manager.wallet.amount? (.token ⟨"A", "0xAB", 6⟩) = some amount ∧
      (.token ⟨"A", "0xab", 18⟩, amount) ∈ s.manager.wallet.amounts ∧ amount.decimals = 18 := by
  have ran : Session.run? ⟨manager indexed, []⟩ rescaled = some (runs _ _) :=
    run?_runs (by decide +kernel)
  exact ⟨_, .ofToken ⟨"A", "0xab", 18⟩ { mantissa := 1500000, scale := 18 }, ran, by decide +kernel,
    by decide +kernel, by decide +kernel, rfl⟩

end Sample

end CoinWallet
