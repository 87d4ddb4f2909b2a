import CoinWallet.Proofs.Timestamp.Order
import CoinWallet.Proofs.Utxo.Merge

set_option autoImplicit false

namespace CoinWallet

open Decimal (OnGrid)

structure Movement where
  hash : String
  change : Rat
  isConfirmed : Bool
  date : Option Timestamp
  source : Option String
  destination : Option String
deriving DecidableEq

structure Holdings where
  balance : Rat
  unspentOutputs : List UnspentOutput
  history : List Movement
  hasUnconfirmed : Option Bool
deriving DecidableEq

namespace Movement

open ReportedTransaction (ofHash)

def ofReported (tx : ReportedTransaction) : Movement where
  hash := tx.hash
  change := tx.balanceChange.toRat
  isConfirmed := tx.isConfirmed
  date := tx.date
  source := tx.source
  destination := tx.destination

/-- What reports of one transaction say together: confirmed if all of them say so, of the earliest
date, and with the first source and destination that one of them names. -/
def together (hash : String) (reports : List ReportedTransaction) : Movement where
  hash := hash
  change := (reports.map (·.balanceChange.toRat)).sum
  isConfirmed := reports.all (·.isConfirmed)
  date := (reports.filterMap (·.date)).min?
  source := reports.findSome? (·.source)
  destination := reports.findSome? (·.destination)

def ofReports (reports : List ReportedTransaction) : List Movement :=
  (reports.map fun tx => Text.lower tx.hash).eraseDups.map fun hash =>
    together hash (ofHash reports hash)

theorem together_of_gathers {reports : List ReportedTransaction} {entry : ReportedTransaction}
    (gathers : ReportedTransaction.Gathers reports entry) (key : String) :
    together key reports = { ofReported entry with hash := key } := by
  have date := gathers.date
  rw [Timestamp.foldl_earliest, List.filterMap_map] at date
  rw [ofReported, together, gathers.change, gathers.confirmed, gathers.source, gathers.destination,
    date]
  rfl

theorem map_ofReported {reports history : List ReportedTransaction}
    (merged : AddressInfo.Merged reports history) : history.map ofReported = ofReports reports := by
  rw [ofReports, ← merged.hashes, List.map_map]
  apply List.map_congr_left
  intro entry member
  exact (together_of_gathers (merged.gathers entry member) entry.hash).symm

end Movement

namespace AddressInfo

def holdings (info : AddressInfo) : Holdings where
  balance := info.balance.toRat
  unspentOutputs := info.unspentOutputs
  history := info.history.map Movement.ofReported
  hasUnconfirmed := info.hasUnconfirmed

-- none if one is unknown
def anyUnconfirmed (flags : List (Option Bool)) : Option Bool :=
  if none ∈ flags then none else some (decide (some true ∈ flags))

theorem foldl_eitherUnconfirmed (flags : List (Option Bool)) :
    flags.foldl eitherUnconfirmed (some false) = anyUnconfirmed flags := by
  induction flags using List.reverseRecOn with
  | nil => rfl
  | append_singleton flags flag ih =>
    rw [List.foldl_append, ih, List.foldl_cons, List.foldl_nil]
    by_cases unknown : none ∈ flags
    next => simp [anyUnconfirmed, unknown, eitherUnconfirmed]
    next =>
      cases flag with
      | none => simp [anyUnconfirmed, unknown, eitherUnconfirmed]
      | some flag => cases flag <;> simp [anyUnconfirmed, unknown, eitherUnconfirmed]

end AddressInfo

/-- What the addresses hold together. -/
def Holdings.ofInfos (infos : List AddressInfo) : Holdings where
  balance := (infos.map (·.balance.toRat)).sum
  unspentOutputs := infos.flatMap (·.unspentOutputs)
  history := Movement.ofReports (infos.flatMap (·.history))
  hasUnconfirmed := AddressInfo.anyUnconfirmed (infos.map (·.hasUnconfirmed))

namespace AddressInfo

open ReportedTransaction

theorem holdings_of_merge? {infos : List AddressInfo} {merged : AddressInfo}
    (found : merge? infos = some merged)
    (balance : merged.balance.toRat = (infos.map (·.balance.toRat)).sum)
    (history : Merged (infos.flatMap (·.history)) merged.history) :
    merged.holdings = .ofInfos infos := by
  rw [merge?, foldlM_absorb?, Option.bind_eq_some_iff] at found
  obtain ⟨_, _, found⟩ := found
  obtain ⟨_, _, found⟩ := Option.map_eq_some_iff.mp found
  have outputs : merged.unspentOutputs = infos.flatMap (·.unspentOutputs) := by
    rw [← found]
    rfl
  have flag : merged.hasUnconfirmed = anyUnconfirmed (infos.map (·.hasUnconfirmed)) := by
    rw [← found, ← foldl_eitherUnconfirmed]
    rfl
  rw [holdings, Holdings.ofInfos, balance, outputs, flag, Movement.map_ofReported history]

structure Addable (infos : List AddressInfo) : Prop where
  ascii : ∀ tx ∈ infos.flatMap (·.history), Text.isAscii tx.hash = true
  balances : ∀ info ∈ infos, OnGrid 8 info.balance.toRat
  held : (infos.map fun info => |info.balance.toRat|).sum * 10 ^ 8 < 2 ^ 96
  changes : Summable 8 (infos.flatMap (·.history))

theorem Addable.exists_merge? {infos : List AddressInfo} (addable : Addable infos) :
    ∃ merged, merge? infos = some merged ∧ Merged (infos.flatMap (·.history)) merged.history ∧
      merged.holdings = .ofInfos infos := by
  have grids : ∀ d ∈ infos.map (·.balance), OnGrid 8 d.toRat := by simpa using addable.balances
  have room : ((infos.map (·.balance)).map fun d => |d.toRat|).sum * 10 ^ 8 < 2 ^ 96 := by
    simpa [List.map_map, Function.comp_def] using addable.held
  obtain ⟨balance, summed, value⟩ := Decimal.sum?_exact grids room
  obtain ⟨merged, found, rfl, history⟩ :=
    AddressInfo.exists_merge? summed addable.ascii addable.changes
  rw [List.map_map] at value
  exact ⟨merged, found, history, holdings_of_merge? found value history⟩

theorem Addable.left {xs ys : List AddressInfo} (addable : Addable (xs ++ ys)) : Addable xs where
  ascii tx member := addable.ascii tx (by
    rw [List.flatMap_append]
    exact List.mem_append_left _ member)
  balances info member := addable.balances info (List.mem_append_left _ member)
  held := by
    have whole := addable.held
    have rest : 0 ≤ (ys.map fun info => |info.balance.toRat|).sum := by
      apply List.sum_nonneg
      simp
    rw [List.map_append, List.sum_append] at whole
    linarith
  changes := by
    have whole := addable.changes
    rw [List.flatMap_append] at whole
    exact whole.left

structure Moderate (infos : List AddressInfo) : Prop where
  ascii : ∀ tx ∈ infos.flatMap (·.history), Text.isAscii tx.hash = true
  balances : ∀ info ∈ infos, OnGrid 8 info.balance.toRat
  changes : ∀ tx ∈ infos.flatMap (·.history), OnGrid 8 tx.balanceChange.toRat
  held : (infos.map fun info => |info.balance.toRat|).sum < 10 ^ 20
  moved : volume (infos.flatMap (·.history)) < 10 ^ 20

-- two such lists are not too much either
theorem Moderate.append {xs ys : List AddressInfo} (first : Moderate xs) (second : Moderate ys) :
    Addable (xs ++ ys) where
  ascii tx member := by
    rw [List.flatMap_append] at member
    exact (List.mem_append.mp member).elim (first.ascii tx) (second.ascii tx)
  balances info member := (List.mem_append.mp member).elim (first.balances info) (second.balances info)
  held := by
    have few := first.held
    have more := second.held
    rw [List.map_append, List.sum_append]
    linarith
  changes := by
    rw [List.flatMap_append]
    apply summable_of_volume_lt
    · intro tx member
      exact (List.mem_append.mp member).elim (first.changes tx) (second.changes tx)
    · have few := first.moved
      have more := second.moved
      rw [volume_append]
      linarith

theorem Moderate.addable {infos : List AddressInfo} (moderate : Moderate infos) : Addable infos :=
  (moderate.append moderate).left

/-- The merge has a result, and it is what the addresses hold together. -/
theorem holdings_of_moderate {infos : List AddressInfo} (moderate : Moderate infos) :
    ∃ merged, merge? infos = some merged ∧ merged.holdings = .ofInfos infos := by
  obtain ⟨merged, found, _, holdings⟩ := moderate.addable.exists_merge?
  exact ⟨merged, found, holdings⟩

namespace Sample

def report (hash : String) (change : Int) (fits : change.natAbs < 2 ^ (96 : Nat))
    (date : Option Timestamp) (isConfirmed : Bool) (source destination : Option String) :
    ReportedTransaction where
  balanceChange := ⟨change, 9, fits, by decide⟩
  hash := hash
  date := date
  isConfirmed := isConfirmed
  source := source
  destination := destination

-- a transfer between the two addresses, told by the first one twice, and a payment to the second
-- one
def infos : List AddressInfo :=
  [{ balance := .ofUInt64 1, unspentOutputs := [⟨"aa", 1, .ofUInt64 1, "bc1qa", none, none⟩],
     history := [report "Aa" (-50) (by decide) (some ⟨7, 0⟩) true none (some "bc1qb"),
       report "AA" 10 (by decide) none true none none], hasUnconfirmed := some false },
    { balance := .ofUInt64 2, unspentOutputs := [⟨"aA", 0, .ofUInt64 2, "bc1qb", none, none⟩],
      history := [report "bb" 20 (by decide) none false none none,
        report "aA" 30 (by decide) (some ⟨6, 0⟩) false (some "bc1qa") (some "bc1qc")],
      hasUnconfirmed := some true }]

def held : Holdings where
  balance := 3
  unspentOutputs := [⟨"aa", 1, .ofUInt64 1, "bc1qa", none, none⟩, ⟨"aA", 0, .ofUInt64 2, "bc1qb", none, none⟩]
  history := [⟨"aa", -1 / 10 ^ 8, false, some ⟨6, 0⟩, some "bc1qa", some "bc1qb"⟩,
    ⟨"bb", 2 / 10 ^ 8, false, none, none, none⟩]
  hasUnconfirmed := some true

theorem moderate_infos : Moderate infos where
  ascii := by decide
  balances := by
    intro info member
    have places : ∀ info ∈ infos, info.balance.scale ≤ 8 := by decide
    exact .of_scale_le (places info member)
  changes := by
    simp only [infos, List.flatMap_cons, List.flatMap_nil, List.append_nil, List.cons_append,
      List.nil_append, List.forall_mem_cons, report, OnGrid, Decimal.toRat_eq_div]
    exact ⟨⟨-5, by norm_num⟩, ⟨1, by norm_num⟩, ⟨2, by norm_num⟩, ⟨3, by norm_num⟩, by simp⟩
  held := by
    simp [infos, Decimal.toRat_eq_div, Decimal.ofUInt64]
    norm_num
  moved := by
    simp [infos, volume, report, Decimal.toRat_eq_div]
    norm_num

theorem holdings_of_moderate_transfer :
    Moderate infos ∧ ∃ merged, merge? infos = some merged ∧ merged.holdings = held := by
  have together : Holdings.ofInfos infos = held := by decide +kernel
  rw [← together]
  exact ⟨moderate_infos, holdings_of_moderate moderate_infos⟩

end Sample

end AddressInfo

end CoinWallet
