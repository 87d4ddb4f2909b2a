import CoinWallet.Wallet
import Mathlib.Data.List.Basic

set_option autoImplicit false

namespace CoinWallet

theorem AmountType.sameAsset_coin (kind : AmountType) : kind.sameAsset .coin = (kind == .coin) := by
  cases kind <;> rfl

theorem Token.sameContract_comm (a b : Token) : a.sameContract b = b.sameContract a :=
  AmountType.sameAsset_comm (.token a) (.token b)

namespace Wallet

abbrev Table := List (AmountType × Amount)

def Table.lookup (amounts : Table) (kind : AmountType) : Option Amount :=
  (amounts.find? fun entry => entry.1.sameAsset kind).map (·.2)

def Table.Distinct (amounts : Table) : Prop :=
  amounts.Pairwise fun a b => a.1.sameAsset b.1 = false

namespace Table

variable {amounts other : Table} {kind dropped : AmountType} {entry : AmountType × Amount}

theorem lookup_drop (amounts : Table) (dropped kind : AmountType) :
    lookup (amounts.filter fun entry => !entry.1.sameAsset dropped) kind =
      if dropped.sameAsset kind then none else lookup amounts kind := by
  unfold lookup
  rw [List.find?_filter]
  by_cases same : dropped.sameAsset kind = true
  next =>
    rw [if_pos same, List.find?_eq_none.mpr, Option.map_none]
    intro entry _ both
    simp only [decide_eq_true_eq, Bool.not_eq_true'] at both
    rw [AmountType.sameAsset_comm] at same
    have here := AmountType.sameAsset_trans both.2 same
    rw [both.1] at here
    contradiction
  next =>
    rw [if_neg same]
    congr 2
    funext entry
    rw [Bool.eq_iff_iff, decide_eq_true_eq, Bool.not_eq_true', and_iff_right_iff_imp]
    intro here
    refine Bool.eq_false_iff.mpr fun there => same ?_
    rw [AmountType.sameAsset_comm] at there
    exact AmountType.sameAsset_trans there here

theorem lookup_put (amounts : Table) (put : AmountType) (amount : Amount) (kind : AmountType) :
    lookup (putAmount amounts put amount) kind =
      if put.sameAsset kind then some amount else lookup amounts kind := by
  have rest := lookup_drop amounts put kind
  unfold lookup at rest ⊢
  rw [putAmount, List.find?_append, Option.map_or, rest]
  by_cases same : put.sameAsset kind = true <;> simp [same]

theorem Distinct.find?_eq_some_iff (distinct : amounts.Distinct) :
    (amounts.find? fun entry => entry.1.sameAsset kind) = some entry ↔
      entry ∈ amounts ∧ entry.1.sameAsset kind = true := by
  constructor
  next =>
    intro found
    have same := List.find?_some found
    exact ⟨List.mem_of_find?_eq_some found, same⟩
  next =>
    rintro ⟨member, same⟩
    obtain ⟨before, after, rfl⟩ := List.append_of_mem member
    refine List.find?_eq_some_iff_append.mpr ⟨same, before, after, rfl, fun earlier first => ?_⟩
    have apart := (List.pairwise_append.mp distinct).2.2 earlier first entry List.mem_cons_self
    rw [Bool.not_eq_true', Bool.eq_false_iff]
    intro here
    rw [AmountType.sameAsset_comm] at same
    rw [AmountType.sameAsset_trans here same] at apart
    contradiction

theorem Distinct.perm (distinct : amounts.Distinct) (perm : amounts.Perm other) :
    other.Distinct :=
  perm.pairwise distinct fun {a b} apart => by rwa [AmountType.sameAsset_comm]

theorem Distinct.lookup_perm (distinct : amounts.Distinct) (perm : amounts.Perm other)
    (kind : AmountType) : other.lookup kind = amounts.lookup kind := by
  unfold lookup
  congr 1
  refine Option.ext fun entry => ?_
  rw [(distinct.perm perm).find?_eq_some_iff, distinct.find?_eq_some_iff, perm.mem_iff]

theorem Distinct.drop (distinct : amounts.Distinct) (dropped : AmountType) :
    Distinct (amounts.filter fun entry => !entry.1.sameAsset dropped) :=
  List.Pairwise.filter _ distinct

theorem Distinct.put (distinct : amounts.Distinct) (put : AmountType) (amount : Amount) :
    Distinct (putAmount amounts put amount) := by
  refine List.pairwise_append.mpr ⟨distinct.drop put, List.pairwise_singleton _ _, ?_⟩
  intro entry member last here
  rw [List.mem_singleton.mp here]
  simpa using (List.mem_filter.mp member).2

theorem mem_put {put : AmountType} {amount : Amount} :
    entry ∈ putAmount amounts put amount ↔
      (entry ∈ amounts ∧ entry.1.sameAsset put = false) ∨ entry = (put, amount) := by
  simp [putAmount, List.mem_filter]

theorem countP_coin_drop (amounts : Table) (t : Token) :
    (amounts.filter fun entry => !entry.1.sameAsset (.token t)).countP (fun entry => entry.1 == .coin) =
      amounts.countP fun entry => entry.1 == .coin := by
  rw [List.countP_filter]
  refine List.countP_congr fun entry _ => ?_
  simp only [Bool.and_eq_true, beq_iff_eq, Bool.not_eq_true', and_iff_left_iff_imp]
  intro coin
  rw [coin]
  rfl

end Table

inductive Change
  | setCoin (value : Decimal)
  | setToken (t : Token) (value : Decimal)
  | addToken (t : Token)
  | removeToken (t : Token)

def Change.apply (w : Wallet) : Change → Wallet
  | setCoin value => w.setCoin value
  | setToken t value => w.setToken t value
  | addToken t => w.addToken t
  | removeToken t => w.removeToken t

def changed (w : Wallet) (changes : List Change) : Wallet :=
  changes.foldl Change.apply w

@[simp] theorem changed_nil (w : Wallet) : w.changed [] = w := rfl

@[simp] theorem changed_cons (w : Wallet) (x : Change) (changes : List Change) :
    w.changed (x :: changes) = (x.apply w).changed changes := rfl

theorem changed_append (w : Wallet) (first last : List Change) :
    w.changed (first ++ last) = (w.changed first).changed last :=
  List.foldl_append

-- the value that a change gives an asset, or that it takes it away; none if it is about another one
def Change.word? (kind : AmountType) : Change → Option (Option Decimal)
  | setCoin value => if AmountType.coin.sameAsset kind then some (some value) else none
  | setToken t value => if (AmountType.token t).sameAsset kind then some (some value) else none
  | removeToken t => if (AmountType.token t).sameAsset kind then some none else none
  | addToken _ => none

def lastValue (kind : AmountType) (changes : List Change) : Option Decimal :=
  (changes.filterMap (Change.word? kind)).getLast?.join

theorem lastValue_snoc (kind : AmountType) (changes : List Change) (x : Change) :
    lastValue kind (changes ++ [x]) = (x.word? kind).getD (lastValue kind changes) := by
  cases word : x.word? kind <;> simp [lastValue, List.filterMap_append, word]

theorem amount?_eq (w : Wallet) (kind : AmountType) : w.amount? kind = Table.lookup w.amounts kind :=
  rfl

theorem amount?_addToken (w : Wallet) (t : Token) (kind : AmountType) :
    (w.addToken t).amount? kind = w.amount? kind := by
  unfold addToken
  split <;> rfl

theorem amount?_setCoin (w : Wallet) (value : Decimal) (kind : AmountType) :
    (w.setCoin value).amount? kind =
      if AmountType.coin.sameAsset kind then some (w.coinAmount.withValue value)
      else w.amount? kind :=
  Table.lookup_put _ _ _ _

theorem amount?_setToken (w : Wallet) (t : Token) (value : Decimal) (kind : AmountType) :
    (w.setToken t value).amount? kind =
      if (AmountType.token t).sameAsset kind then some (.ofToken t value) else w.amount? kind := by
  rw [← amount?_addToken w t kind]
  exact Table.lookup_put _ _ _ _

theorem amount?_removeToken (w : Wallet) (t : Token) (kind : AmountType) :
    (w.removeToken t).amount? kind =
      if (AmountType.token t).sameAsset kind then none else w.amount? kind :=
  Table.lookup_drop _ _ _

theorem amount?_apply (w : Wallet) (x : Change) (kind : AmountType) :
    ((x.apply w).amount? kind).map (·.value) =
      (x.word? kind).getD ((w.amount? kind).map (·.value)) := by
  cases x with
  | setCoin value =>
    rw [Change.apply, amount?_setCoin]
    by_cases same : AmountType.coin.sameAsset kind = true <;>
      simp [Change.word?, same, Amount.withValue]
  | setToken t value =>
    rw [Change.apply, amount?_setToken]
    by_cases same : (AmountType.token t).sameAsset kind = true <;>
      simp [Change.word?, same, Amount.ofToken]
  | addToken t => exact congrArg _ (amount?_addToken w t kind)
  | removeToken t =>
    rw [Change.apply, amount?_removeToken]
    by_cases same : (AmountType.token t).sameAsset kind = true <;> simp [Change.word?, same]

/-- One amount for the coin, at most one for each contract that is kept track of, and each under its
own name and scale. -/
structure Consistent (w : Wallet) : Prop where
  contracts : w.tokens.Pairwise fun a b => a.sameContract b = false
  distinct : Table.Distinct w.amounts
  coin : w.amounts.countP (fun entry => entry.1 == .coin) = 1
  reserve : ∀ entry ∈ w.amounts, entry.1 ≠ .reserve
  tracked : ∀ entry ∈ w.amounts, ∀ t, entry.1 = .token t → w.tracks t = true
  labelled : ∀ entry ∈ w.amounts, ∀ t, entry.1 = .token t →
    entry.2.kind = .token t ∧ entry.2.decimals = t.decimals ∧ entry.2.symbol = t.symbol

theorem tracks_iff {w : Wallet} {t : Token} :
    w.tracks t = true ↔ ∃ other ∈ w.tokens, other.sameContract t = true :=
  List.any_eq_true

theorem tracks_addToken {w : Wallet} {t other : Token}
    (tracked : w.tracks other = true ∨ other = t) : (w.addToken t).tracks other = true := by
  unfold addToken
  by_cases known : w.tracks t = true
  next =>
    rw [if_pos known]
    rcases tracked with before | rfl
    · exact before
    · exact known
  next =>
    rw [if_neg known, tracks, List.any_append, Bool.or_eq_true]
    rcases tracked with before | rfl
    · exact .inl before
    · exact .inr (by simp)

namespace Consistent

variable {w : Wallet}

theorem new (id : WalletId) (chain : Blockchain) (key : PublicKey) (addresses : List Address) :
    Consistent (.new id chain key addresses) where
  contracts := .nil
  distinct := List.pairwise_singleton _ _
  coin := rfl
  reserve := by simp [Wallet.new]
  tracked := by simp [Wallet.new]
  labelled := by simp [Wallet.new]

theorem setCoin (consistent : w.Consistent) (value : Decimal) : (w.setCoin value).Consistent where
  contracts := consistent.contracts
  distinct := consistent.distinct.put _ _
  coin := by
    simp [Wallet.setCoin, putAmount, AmountType.sameAsset_coin, List.countP_append,
      List.countP_filter]
  reserve := by
    intro entry member
    rcases Table.mem_put.mp member with ⟨old, _⟩ | rfl
    · exact consistent.reserve entry old
    · simp
  tracked := by
    intro entry member t named
    rcases Table.mem_put.mp member with ⟨old, _⟩ | rfl
    · exact consistent.tracked entry old t named
    · cases named
  labelled := by
    intro entry member t named
    rcases Table.mem_put.mp member with ⟨old, _⟩ | rfl
    · exact consistent.labelled entry old t named
    · cases named

theorem addToken (consistent : w.Consistent) (t : Token) : (w.addToken t).Consistent := by
  have tracked : ∀ entry ∈ w.amounts, ∀ u, entry.1 = .token u → (w.addToken t).tracks u = true :=
    fun entry member u named => tracks_addToken (.inl (consistent.tracked entry member u named))
  unfold Wallet.addToken at tracked ⊢
  by_cases known : w.tracks t = true
  next => rwa [if_pos known]
  next =>
    rw [if_neg known] at tracked ⊢
    refine ⟨?_, consistent.distinct, consistent.coin, consistent.reserve, tracked,
      consistent.labelled⟩
    refine List.pairwise_append.mpr ⟨consistent.contracts, List.pairwise_singleton _ _, ?_⟩
    intro other member last here
    rw [List.mem_singleton.mp here, Bool.eq_false_iff]
    exact fun same => known (tracks_iff.mpr ⟨other, member, same⟩)

theorem setToken (consistent : w.Consistent) (t : Token) (value : Decimal) :
    (w.setToken t value).Consistent where
  contracts := (consistent.addToken t).contracts
  distinct := (consistent.addToken t).distinct.put _ _
  coin := by
    have coin := (consistent.addToken t).coin
    rwa [Wallet.setToken, putAmount, List.countP_append, Table.countP_coin_drop]
  reserve := by
    intro entry member
    rcases Table.mem_put.mp member with ⟨old, _⟩ | rfl
    · exact (consistent.addToken t).reserve entry old
    · simp
  tracked := by
    intro entry member u named
    change (w.addToken t).tracks u = true
    rcases Table.mem_put.mp member with ⟨old, _⟩ | rfl
    · exact (consistent.addToken t).tracked entry old u named
    · cases named
      exact tracks_addToken (.inr rfl)
  labelled := by
    intro entry member u named
    rcases Table.mem_put.mp member with ⟨old, _⟩ | rfl
    · exact (consistent.addToken t).labelled entry old u named
    · cases named
      exact ⟨rfl, rfl, rfl⟩

theorem removeToken (consistent : w.Consistent) (t : Token) : (w.removeToken t).Consistent where
  contracts := consistent.contracts.filter _
  distinct := consistent.distinct.drop _
  coin := (Table.countP_coin_drop w.amounts t).trans consistent.coin
  reserve := fun entry member => consistent.reserve entry (List.mem_of_mem_filter member)
  tracked := by
    intro entry member u named
    obtain ⟨old, apart⟩ := List.mem_filter.mp member
    obtain ⟨other, present, same⟩ := tracks_iff.mp (consistent.tracked entry old u named)
    refine tracks_iff.mpr ⟨other, List.mem_filter.mpr ⟨present, ?_⟩, same⟩
    rw [named, AmountType.sameAsset] at apart
    simp only [Bool.not_eq_true', Bool.eq_false_iff, ne_eq, Token.sameContract_iff] at apart same ⊢
    rwa [same]
  labelled := fun entry member => consistent.labelled entry (List.mem_of_mem_filter member)

theorem apply (consistent : w.Consistent) (x : Change) : (x.apply w).Consistent := by
  cases x with
  | setCoin value => exact consistent.setCoin value
  | setToken t value => exact consistent.setToken t value
  | addToken t => exact consistent.addToken t
  | removeToken t => exact consistent.removeToken t

theorem changed (consistent : w.Consistent) (changes : List Change) :
    (w.changed changes).Consistent := by
  induction changes generalizing w with
  | nil => exact consistent
  | cons x rest ih => exact ih (consistent.apply x)

end Consistent

theorem coinAmount_value (w : Wallet) : w.coinAmount.value = w.funds .coin := by
  unfold coinAmount funds amount?
  simp only [AmountType.sameAsset_coin]
  cases w.amounts.find? fun entry => entry.1 == .coin <;> rfl

/-- The table of a wallet that had no more than its coin, after changes. -/
structure Tabulates (w : Wallet) (changes : List Change) : Prop where
  consistent : w.Consistent
  amount : ∀ kind,
    (w.amount? kind).map (·.value) = lastValue kind (.setCoin .zero :: changes)
  funds : ∀ kind, w.funds kind = (lastValue kind (.setCoin .zero :: changes)).getD .zero
  order : ∀ amounts, amounts.Perm w.amounts → ∀ kind,
    { w with amounts := amounts }.amount? kind = w.amount? kind ∧
      { w with amounts := amounts }.funds kind = w.funds kind

theorem funds_eq (w : Wallet) (kind : AmountType) :
    w.funds kind = ((w.amount? kind).map (·.value)).getD .zero := by
  unfold funds
  cases w.amount? kind <;> rfl

theorem Consistent.tabulates {w : Wallet} {changes : List Change} (consistent : w.Consistent)
    (amount : ∀ kind, (w.amount? kind).map (·.value) = lastValue kind (.setCoin .zero :: changes)) :
    w.Tabulates changes where
  consistent := consistent
  amount := amount
  funds kind := by rw [funds_eq, amount]
  order amounts perm kind := by
    have same : { w with amounts := amounts }.amount? kind = w.amount? kind :=
      consistent.distinct.lookup_perm perm.symm kind
    exact ⟨same, by rw [funds_eq, funds_eq, same]⟩

theorem amount?_new (id : WalletId) (chain : Blockchain) (key : PublicKey)
    (addresses : List Address) (kind : AmountType) :
    ((new id chain key addresses).amount? kind).map (·.value) =
      lastValue kind [.setCoin .zero] := by
  cases kind <;> rfl

theorem amount?_changed (w : Wallet) {before : List Change} {kind : AmountType}
    (start : (w.amount? kind).map (·.value) = lastValue kind before) (changes : List Change) :
    ((w.changed changes).amount? kind).map (·.value) = lastValue kind (before ++ changes) := by
  induction changes generalizing w before with
  | nil => simpa using start
  | cons x rest ih =>
    have next : ((x.apply w).amount? kind).map (·.value) = lastValue kind (before ++ [x]) := by
      rw [amount?_apply, lastValue_snoc, start]
    simpa using ih (x.apply w) next

theorem tabulates_changed (id : WalletId) (chain : Blockchain) (key : PublicKey)
    (addresses : List Address) (changes : List Change) :
    ((new id chain key addresses).changed changes).Tabulates changes :=
  ((Consistent.new id chain key addresses).changed changes).tabulates fun kind =>
    amount?_changed _ (amount?_new id chain key addresses kind) changes

-- nothing else of a wallet bears on its assets
structure SameAssets (w w' : Wallet) : Prop where
  blockchain : w'.blockchain = w.blockchain
  amounts : w'.amounts = w.amounts
  tokens : w'.tokens = w.tokens

namespace SameAssets

variable {w w' w'' : Wallet}

theorem refl (w : Wallet) : w.SameAssets w := ⟨rfl, rfl, rfl⟩

theorem trans (first : w.SameAssets w') (last : w'.SameAssets w'') : w.SameAssets w'' where
  blockchain := last.blockchain.trans first.blockchain
  amounts := last.amounts.trans first.amounts
  tokens := last.tokens.trans first.tokens

theorem addToken (same : w.SameAssets w') (t : Token) :
    (w.addToken t).SameAssets (w'.addToken t) := by
  have tracks : w'.tracks t = w.tracks t := by simp only [Wallet.tracks, same.tokens]
  unfold Wallet.addToken
  rw [tracks]
  split
  · exact same
  · exact ⟨same.blockchain, same.amounts, by simp only [same.tokens]⟩

theorem apply (same : w.SameAssets w') (x : Change) : (x.apply w).SameAssets (x.apply w') := by
  cases x with
  | setCoin value =>
    have coin : w'.coinAmount = w.coinAmount := by
      simp only [coinAmount, same.amounts, same.blockchain]
    exact ⟨same.blockchain, by simp only [Change.apply, setCoin, coin, same.amounts], same.tokens⟩
  | setToken t value =>
    have added := same.addToken t
    exact ⟨added.blockchain, by simp only [Change.apply, setToken, added.amounts], added.tokens⟩
  | addToken t => exact same.addToken t
  | removeToken t =>
    exact ⟨same.blockchain, by simp only [Change.apply, removeToken, same.amounts],
      by simp only [Change.apply, removeToken, same.tokens]⟩

theorem changed (same : w.SameAssets w') (changes : List Change) :
    (w.changed changes).SameAssets (w'.changed changes) := by
  induction changes generalizing w w' with
  | nil => exact same
  | cons x rest ih => exact ih (same.apply x)

theorem amount? (same : w.SameAssets w') (kind : AmountType) : w'.amount? kind = w.amount? kind := by
  simp only [amount?_eq, same.amounts]

theorem consistent (same : w.SameAssets w') (consistent : w.Consistent) : w'.Consistent := by
  obtain ⟨contracts, distinct, coin, reserve, tracked, labelled⟩ := consistent
  constructor <;> simpa only [same.amounts, same.tokens, Wallet.tracks]

theorem tabulates {changes : List Change} (same : w.SameAssets w')
    (tabulates : w.Tabulates changes) : w'.Tabulates changes :=
  (same.consistent tabulates.consistent).tabulates fun kind => by
    rw [same.amount?, tabulates.amount]

end SameAssets

end Wallet

end CoinWallet
