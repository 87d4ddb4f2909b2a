import CoinWallet.Account.Refresh
import CoinWallet.Chain
import CoinWallet.Proofs.Decimal.Exact
import CoinWallet.Proofs.Provider.Replies
import CoinWallet.Proofs.Wallet.Assets
import CoinWallet.Proofs.Wallet.Recent

set_option autoImplicit false

namespace CoinWallet

-- powers and sums are those of the core library
attribute [local instance (high)] instPowNat Zero.ofOfNat0

namespace History

@[simp] theorem hasUnconfirmed_confirmAll (h : History) : h.confirmAll.hasUnconfirmed = false := by
  simp [hasUnconfirmed, confirmAll]

@[simp] theorem hasUnconfirmed_addPlaceholder (h : History) (coin : Amount) (now : Timestamp) :
    (h.addPlaceholder coin now).hasUnconfirmed = true := by
  unfold addPlaceholder
  split
  next pending => exact pending
  next => simp [hasUnconfirmed, placeholder, Transaction.isConfirmed]

end History

namespace Wallet

theorem tracks_setToken {w : Wallet} {t : Token} (known : w.tracks t = true) (value : Decimal)
    (other : Token) : (w.setToken t value).tracks other = w.tracks other := by
  have same : w.addToken t = w := if_pos known
  simp only [setToken, same, tracks]

theorem changed_tokens (w : Wallet) (tokens : List (Token × Decimal)) :
    tokens.foldl (fun w (t, value) => if w.tracks t then w.setToken t value else w) w =
      w.changed ((tokens.filter fun entry => w.tracks entry.1).map fun entry =>
        .setToken entry.1 entry.2) := by
  induction tokens generalizing w with
  | nil => rfl
  | cons head rest ih =>
    obtain ⟨t, value⟩ := head
    rw [List.foldl_cons, ih]
    by_cases known : w.tracks t = true
    next => simp only [known, if_true, tracks_setToken, List.filter_cons, List.map_cons,
      changed_cons, Change.apply]
    next => simp only [known, if_false, List.filter_cons, Bool.false_eq_true]

structure Settable (w : Wallet) (entries : List (Token × Decimal)) : Prop where
  tracked : ∀ entry ∈ entries, w.tracks entry.1 = true
  contracts : entries.Pairwise fun a b => a.1.sameContract b.1 = false

def setTokens (w : Wallet) (entries : List (Token × Decimal)) : Wallet :=
  w.changed (entries.map fun entry => .setToken entry.1 entry.2)

variable {w : Wallet} {entries : List (Token × Decimal)}

theorem setTokens_cons (w : Wallet) (entry : Token × Decimal) (entries : List (Token × Decimal)) :
    w.setTokens (entry :: entries) = (w.setToken entry.1 entry.2).setTokens entries := rfl

theorem Settable.tail {entry : Token × Decimal} (settable : w.Settable (entry :: entries)) :
    (w.setToken entry.1 entry.2).Settable entries where
  tracked other member := by
    rw [tracks_setToken (settable.tracked entry List.mem_cons_self)]
    exact settable.tracked other (List.mem_cons_of_mem entry member)
  contracts := settable.contracts.of_cons

theorem Settable.tokens (settable : w.Settable entries) : (w.setTokens entries).tokens = w.tokens := by
  induction entries generalizing w with
  | nil => rfl
  | cons entry rest ih =>
    have known := settable.tracked entry List.mem_cons_self
    have same : (w.setToken entry.1 entry.2).tokens = w.tokens := by simp [setToken, addToken, known]
    rw [setTokens_cons, ih settable.tail, same]

theorem amount?_setTokens_of_apart {kind : AmountType}
    (apart : ∀ entry ∈ entries, (AmountType.token entry.1).sameAsset kind = false) :
    (w.setTokens entries).amount? kind = w.amount? kind := by
  induction entries generalizing w with
  | nil => rfl
  | cons entry rest ih =>
    have first : (w.setToken entry.1 entry.2).amount? kind = w.amount? kind := by
      simp [amount?_setToken, apart entry List.mem_cons_self]
    rw [setTokens_cons, ih fun other later => apart other (List.mem_cons_of_mem entry later), first]

theorem Settable.amount? (settable : w.Settable entries) {entry : Token × Decimal}
    (member : entry ∈ entries) {kind : AmountType}
    (same : (AmountType.token entry.1).sameAsset kind = true) :
    (w.setTokens entries).amount? kind = some (.ofToken entry.1 entry.2) := by
  induction entries generalizing w with
  | nil => cases member
  | cons head rest ih =>
    rcases List.mem_cons.mp member with rfl | later
    next =>
      -- no other entry is about the same contract
      have first : (w.setToken entry.1 entry.2).amount? kind = some (.ofToken entry.1 entry.2) := by
        simp [amount?_setToken, same]
      rw [setTokens_cons, amount?_setTokens_of_apart, first]
      intro other member
      have apart := List.rel_of_pairwise_cons settable.contracts member
      rw [Bool.eq_false_iff] at apart ⊢
      intro here
      rw [AmountType.sameAsset_comm] at here
      exact apart (AmountType.sameAsset_trans same here)
    next =>
      rw [setTokens_cons]
      exact ih settable.tail later

end Wallet

namespace Account

structure Reading where
  balance : Nat
  count : UInt64
  pending : UInt64
  tokens : List (Token × Option Nat)

namespace Reading

structure Of (told : (q : Query) → Outcome NetworkError q.Reply → Prop) (w : Wallet)
    (reading : Reading) : Prop where
  balance : told (.balance w.primaryAddress) (.ok reading.balance)
  count : told (.transactionCount w.primaryAddress) (.ok reading.count)
  pending : told (.pendingCount w.primaryAddress) (.ok reading.pending)
  tokens : reading.tokens.map Prod.fst = w.tokens
  raw : ∀ entry ∈ reading.tokens, told (.tokenBalance w.primaryAddress entry.1) (.ok entry.2)

structure Shows (reading : Reading) (t : Token) (raw : Nat) : Prop where
  read : (t, some raw) ∈ reading.tokens
  small : raw < 2 ^ (96 : Nat)
  few : t.decimals.toNat ≤ 28

def values (reading : Reading) : List (Token × Decimal) :=
  reading.tokens.filterMap fun entry => tokenValue? entry.1 entry.2

end Reading

theorem tokenValue?_eq_some_iff {t : Token} {raw : Option Nat} {entry : Token × Decimal} :
    tokenValue? t raw = some entry ↔
      ∃ units, raw = some units ∧ Decimal.ofBaseUnits? units t.decimals = some entry.2 ∧
        t = entry.1 := by
  obtain ⟨other, value⟩ := entry
  cases raw with
  | none => simp [tokenValue?]
  | some units => simp [tokenValue?, Option.bind_eq_some_iff, and_comm]

theorem Reading.Shows.value {reading : Reading} {t : Token} {raw : Nat} (shows : reading.Shows t raw) :
    ∃ value, (t, value) ∈ reading.values ∧ value.toRat = raw / 10 ^ t.decimals.toNat := by
  let value : Decimal := ⟨raw, t.decimals.toNat, shows.small, shows.few⟩
  have held : Decimal.ofBaseUnits? raw t.decimals = some value := by
    simp [Decimal.ofBaseUnits?, Decimal.ofScaled?, shows.small, shows.few, value]
  refine ⟨value, List.mem_filterMap.mpr ⟨_, shows.read, ?_⟩, Decimal.toRat_of_ofScaled? held⟩
  exact tokenValue?_eq_some_iff.mpr ⟨raw, rfl, held, rfl⟩

theorem Reading.shows_of_mem_values {reading : Reading} {entry : Token × Decimal}
    (member : entry ∈ reading.values) : ∃ raw, reading.Shows entry.1 raw := by
  obtain ⟨⟨t, _⟩, read, made⟩ := List.mem_filterMap.mp member
  obtain ⟨raw, rfl, held, rfl⟩ := tokenValue?_eq_some_iff.mp made
  obtain ⟨fits, _⟩ := Option.dite_none_right_eq_some.mp held
  exact ⟨raw, read, fits.1, fits.2⟩

theorem exists_reading {chain : Blockchain} {w : Wallet} {found : AccountUpdate}
    {Told : (q : Query) → Outcome NetworkError q.Reply → Prop}
    {replies : Replies (refreshPlan chain w).queries}
    (told : replies.All fun q r => Told q (.ok r))
    (concluded : (refreshPlan chain w).conclude replies = .ok found) :
    ∃ reading : Reading, reading.Of Told w ∧ found.tokens = reading.values ∧
      Decimal.ofBaseUnits? reading.balance chain.decimals = some found.balance ∧
      found.transactionCount = reading.count ∧ found.pendingCount = reading.pending := by
  match replies with
  | .cons balance (.cons count (.cons pending tokens)) =>
    let read := tokens.toList (tokenQuery w.primaryAddress) Prod.mk w.tokens
    obtain ⟨toldBalance, toldCount, toldPending, toldTokens⟩ := told
    have same : (read.map fun entry => tokenValue? entry.1 entry.2) =
        tokens.toList (tokenQuery w.primaryAddress) tokenValue? w.tokens :=
      Replies.map_toList (β := Token × Option Nat) Prod.mk _ tokens
    have values : (Reading.mk balance count pending read).values =
        (read.map fun entry => tokenValue? entry.1 entry.2).filterMap id := by
      rw [List.filterMap_map]
      rfl
    refine ⟨⟨balance, count, pending, read⟩, ⟨toldBalance, toldCount, toldPending, ?_, ?_⟩, ?_⟩
    next =>
      exact (Replies.map_toList (β := Token × Option Nat) Prod.mk Prod.fst tokens).trans
        tokens.toList_self
    next =>
      intro entry member
      obtain ⟨t, raw, told, rfl⟩ := toldTokens.of_mem_toList member
      exact told
    next =>
      rw [values, same]
      simp only [refreshPlan, update, Outcome.ofExcept_eq_ok_iff] at concluded
      split at concluded <;> cases concluded
      next held => exact ⟨rfl, held, rfl, rfl⟩

/-- A wallet before and after a reading of it is written. -/
structure Committed (chain : Blockchain) (reading : Reading) (before after : Wallet) : Prop where
  tokens : after.tokens = before.tokens
  coin : after.coinAmount.value.toRat = reading.balance / 10 ^ chain.decimals.toNat
  token : ∀ t ∈ before.tokens, ∀ known raw, reading.Shows known raw → known.sameContract t = true →
    ∃ value, after.amount? (.token t) = some (.ofToken known value) ∧
      value.toRat = raw / 10 ^ known.decimals.toNat
  other : ∀ kind, kind ≠ .coin →
    (∀ t ∈ before.tokens, ∀ known raw, reading.Shows known raw → known.sameContract t = true →
      (AmountType.token t).sameAsset kind = false) →
    after.amount? kind = before.amount? kind
  nonce : after.nonce = some reading.count
  pending : after.recent.hasUnconfirmed = true ↔ reading.count ≠ reading.pending

theorem sameAssets_commit (w : Wallet) (found : AccountUpdate) (now : Timestamp) :
    ((w.setCoin found.balance).setTokens (found.tokens.filter fun entry => w.tracks entry.1)).SameAssets
      (commit w found now) := by
  have set := Wallet.changed_tokens (w.setCoin found.balance) found.tokens
  simp only [commit, set]
  split <;> exact ⟨rfl, rfl, rfl⟩

theorem nonce_commit (w : Wallet) (found : AccountUpdate) (now : Timestamp) :
    (commit w found now).nonce = some found.transactionCount := by
  simp only [commit]
  split <;> rfl

theorem hasUnconfirmed_commit (w : Wallet) (found : AccountUpdate) (now : Timestamp) :
    (commit w found now).recent.hasUnconfirmed = true ↔
      found.transactionCount ≠ found.pendingCount := by
  have turns := Update.turns_commit w (.account found) now
  change Update.Turns w.recent now (.account found) (commit w found now).recent at turns
  generalize (commit w found now).recent = recent at turns ⊢
  cases turns with
  | confirm equal => simp [equal]
  | wait coin apart => simp [apart]

variable {chain : Blockchain} {reading : Reading} {found : AccountUpdate}

theorem settable_values {w : Wallet}
    (contracts : (reading.tokens.map Prod.fst).Pairwise fun a b => a.sameContract b = false) :
    w.Settable (reading.values.filter fun entry => w.tracks entry.1) where
  tracked entry member := (List.mem_filter.mp member).2
  contracts := by
    refine List.Pairwise.filter _ (List.Pairwise.filterMap _ ?_ (List.pairwise_map.mp contracts))
    rintro ⟨t, raw⟩ ⟨t', raw'⟩ apart entry made entry' made'
    obtain ⟨_, _, _, rfl⟩ := tokenValue?_eq_some_iff.mp made
    obtain ⟨_, _, _, rfl⟩ := tokenValue?_eq_some_iff.mp made'
    exact apart

theorem committed_commit
    (contracts : (reading.tokens.map Prod.fst).Pairwise fun a b => a.sameContract b = false)
    (tokens : found.tokens = reading.values)
    (balance : Decimal.ofBaseUnits? reading.balance chain.decimals = some found.balance)
    (count : found.transactionCount = reading.count) (pending : found.pendingCount = reading.pending)
    (w : Wallet) (now : Timestamp) : Committed chain reading w (commit w found now) := by
  have same := sameAssets_commit w found now
  rw [tokens] at same
  have settable : (w.setCoin found.balance).Settable
      (reading.values.filter fun entry => w.tracks entry.1) := settable_values contracts
  constructor
  case tokens => exact same.tokens.trans settable.tokens
  case coin =>
    have amount : (commit w found now).amount? .coin = some (w.coinAmount.withValue found.balance) := by
      rw [same.amount?, Wallet.amount?_setTokens_of_apart fun _ _ => rfl, Wallet.amount?_setCoin]
      rfl
    rw [Wallet.coinAmount_value, Wallet.funds_eq, amount]
    exact Decimal.toRat_of_ofScaled? balance
  case token =>
    intro t tracked known raw shows contract
    obtain ⟨value, member, units⟩ := shows.value
    have kept : w.tracks known = true :=
      Wallet.tracks_iff.mpr ⟨t, tracked, by rwa [Token.sameContract_comm]⟩
    refine ⟨value, ?_, units⟩
    rw [same.amount?]
    exact settable.amount? (List.mem_filter.mpr ⟨member, kept⟩) contract
  case other =>
    intro kind coin apart
    rw [same.amount?, Wallet.amount?_setTokens_of_apart, Wallet.amount?_setCoin, if_neg]
    next => rwa [AmountType.sameAsset_comm, AmountType.sameAsset_coin, beq_iff_eq]
    intro entry member
    obtain ⟨member, kept⟩ := List.mem_filter.mp member
    obtain ⟨raw, shows⟩ := Reading.shows_of_mem_values member
    obtain ⟨t, tracked, contract⟩ := Wallet.tracks_iff.mp kept
    have away := apart t tracked entry.1 raw shows (by rwa [Token.sameContract_comm])
    rw [Bool.eq_false_iff] at away ⊢
    have asset : (AmountType.token t).sameAsset (.token entry.1) = true := contract
    exact fun here => away (AmountType.sameAsset_trans asset here)
  case nonce => rw [nonce_commit, count]
  case pending => rw [hasUnconfirmed_commit, count, pending]

end Account

end CoinWallet
