import CoinWallet.Proofs.Utxo.Holdings

set_option autoImplicit false

namespace CoinWallet

open Decimal (OnGrid)

namespace Movement

open ReportedTransaction (ofHash)

theorem together_append {key : String} {xs ys others more : List ReportedTransaction}
    (first : together key xs = together key others) (second : together key ys = together key more) :
    together key (xs ++ ys) = together key (others ++ more) := by
  simp only [together, mk.injEq, true_and] at first second ⊢
  simp only [List.map_append, List.sum_append, List.all_append, List.filterMap_append,
    Timestamp.min?_append, List.findSome?_append, first, second, and_self]

def unnamed (m : Movement) : Movement :=
  { m with source := none, destination := none }

theorem unnamed_together_perm (key : String) {xs ys : List ReportedTransaction} (perm : xs.Perm ys) :
    (together key xs).unnamed = (together key ys).unnamed := by
  simp only [unnamed, together, (perm.map _).sum_eq, perm.all_eq,
    Timestamp.min?_perm (perm.filterMap _)]

theorem unnamed_ofReports_perm {xs ys : List ReportedTransaction} (perm : xs.Perm ys) :
    ((ofReports xs).map unnamed).Perm ((ofReports ys).map unnamed) := by
  have each (hash : String) : (together hash (ofHash xs hash)).unnamed =
      (together hash (ofHash ys hash)).unnamed :=
    unnamed_together_perm hash (perm.filter _)
  have hashes := eraseDups_perm (perm.map fun tx => Text.lower tx.hash)
  simp only [ofReports, List.map_map, Function.comp_def, each]
  exact hashes.map _

end Movement

namespace AddressInfo

open ReportedTransaction

theorem anyUnconfirmed_pair (xs ys : List (Option Bool)) :
    anyUnconfirmed [anyUnconfirmed xs, anyUnconfirmed ys] = anyUnconfirmed (xs ++ ys) := by
  by_cases first : none ∈ xs <;> by_cases second : none ∈ ys <;>
    simp [anyUnconfirmed, first, second]

namespace Merged

variable {reports history : List ReportedTransaction} (merged : Merged reports history)

include merged

theorem map_lower : history.map (fun tx => Text.lower tx.hash) =
    (reports.map fun tx => Text.lower tx.hash).eraseDups := by
  have stored : ∀ entry ∈ history, Text.lower entry.hash = entry.hash := by
    intro entry member
    obtain ⟨tx, _, hash⟩ := merged.mem_hashes.mp (List.mem_map_of_mem member)
    rw [← hash, Text.lower_lower]
  rw [List.map_congr_left stored, merged.hashes]

variable (ascii : ∀ tx ∈ reports, Text.isAscii tx.hash = true)

include ascii

theorem together_ofHash (key hash : String) :
    Movement.together key (ofHash history hash) = Movement.together key (ofHash reports hash) := by
  rcases merged.exists_ofHash_eq ascii hash with ⟨silent, unreported⟩ | ⟨entry, _, alone, gathers⟩
  next => rw [silent, unreported]
  next =>
    have single := Movement.together_of_gathers (gathers_singleton entry entry.hash) key
    rw [alone, single, Movement.together_of_gathers gathers key]

theorem volume_ofHash_le (hash : String) :
    volume (ofHash history hash) ≤ volume (ofHash reports hash) := by
  rcases merged.exists_ofHash_eq ascii hash with ⟨silent, unreported⟩ | ⟨entry, _, alone, gathers⟩
  next => rw [silent, unreported]
  next =>
    have sum := abs_sum_le_volume (ofHash reports hash)
    rw [← gathers.change] at sum
    simpa [alone, volume] using sum

end Merged

theorem Merged.onGrid {reports history : List ReportedTransaction} (merged : Merged reports history)
    {digits : Nat} (grid : ∀ tx ∈ reports, OnGrid digits tx.balanceChange.toRat)
    {entry : ReportedTransaction} (member : entry ∈ history) :
    OnGrid digits entry.balanceChange.toRat := by
  rw [(merged.gathers entry member).change]
  apply OnGrid.sum
  intro x added
  obtain ⟨tx, reported, rfl⟩ := List.mem_map.mp added
  exact grid tx (List.mem_filter.mp reported).1

section Groups

variable {xs ys : List AddressInfo} {left right : AddressInfo}
  (leftHistory : Merged (xs.flatMap (·.history)) left.history)
  (rightHistory : Merged (ys.flatMap (·.history)) right.history)

include leftHistory rightHistory

section

variable (ascii : ∀ tx ∈ (xs ++ ys).flatMap (·.history), Text.isAscii tx.hash = true)

include ascii

theorem together_groups (key hash : String) :
    Movement.together key (ofHash ([left, right].flatMap (·.history)) hash) =
      Movement.together key (ofHash ((xs ++ ys).flatMap (·.history)) hash) := by
  rw [List.flatMap_append] at ascii ⊢
  have first := leftHistory.together_ofHash
    (fun tx member => ascii tx (List.mem_append_left _ member)) key hash
  have second := rightHistory.together_ofHash
    (fun tx member => ascii tx (List.mem_append_right _ member)) key hash
  simpa [ofHash] using Movement.together_append first second

theorem volume_groups_le (hash : String) :
    volume (ofHash ([left, right].flatMap (·.history)) hash) ≤
      volume (ofHash ((xs ++ ys).flatMap (·.history)) hash) := by
  rw [List.flatMap_append] at ascii ⊢
  have first := leftHistory.volume_ofHash_le
    (fun tx member => ascii tx (List.mem_append_left _ member)) hash
  have second := rightHistory.volume_ofHash_le
    (fun tx member => ascii tx (List.mem_append_right _ member)) hash
  simpa [ofHash, volume_append] using add_le_add first second

theorem ofReports_groups :
    Movement.ofReports ([left, right].flatMap (·.history)) =
      Movement.ofReports ((xs ++ ys).flatMap (·.history)) := by
  have hashes : (([left, right].flatMap (·.history)).map fun tx => Text.lower tx.hash).eraseDups =
      (((xs ++ ys).flatMap (·.history)).map fun tx => Text.lower tx.hash).eraseDups := by
    rw [List.flatMap_append, List.map_append, ← eraseDups_append_eraseDups, ← leftHistory.map_lower,
      ← rightHistory.map_lower]
    simp
  rw [Movement.ofReports, Movement.ofReports, hashes]
  apply List.map_congr_left
  intro hash _
  exact together_groups leftHistory rightHistory ascii hash hash

end

theorem ofInfos_groups
    (ascii : ∀ tx ∈ (xs ++ ys).flatMap (·.history), Text.isAscii tx.hash = true)
    (leftHoldings : left.holdings = .ofInfos xs) (rightHoldings : right.holdings = .ofInfos ys) :
    Holdings.ofInfos [left, right] = .ofInfos (xs ++ ys) := by
  simp only [holdings, Holdings.ofInfos, Holdings.mk.injEq] at leftHoldings rightHoldings ⊢
  obtain ⟨leftBalance, leftOutputs, _, leftFlag⟩ := leftHoldings
  obtain ⟨rightBalance, rightOutputs, _, rightFlag⟩ := rightHoldings
  refine ⟨?_, ?_, ofReports_groups leftHistory rightHistory ascii, ?_⟩
  · simp [leftBalance, rightBalance]
  · simp [leftOutputs, rightOutputs]
  · simp only [List.map_cons, List.map_nil, leftFlag, rightFlag, anyUnconfirmed_pair,
      List.map_append]

theorem Addable.groups (addable : Addable (xs ++ ys))
    (leftBalance : left.balance.toRat = (xs.map (·.balance.toRat)).sum)
    (rightBalance : right.balance.toRat = (ys.map (·.balance.toRat)).sum) :
    Addable [left, right] where
  ascii := by
    have plain := addable.ascii
    simp only [List.flatMap_append, List.forall_mem_append] at plain
    simpa [or_imp, forall_and] using And.intro
      (fun tx member => leftHistory.isAscii_hash plain.1 member)
      (fun tx member => rightHistory.isAscii_hash plain.2 member)
  balances := by
    have grids := List.forall_mem_append.mp addable.balances
    simp only [List.forall_mem_cons, leftBalance, rightBalance]
    exact ⟨OnGrid.sum (by simpa using grids.1), OnGrid.sum (by simpa using grids.2), by simp⟩
  held := by
    have room := addable.held
    have first := abs_sum_le (xs.map (·.balance.toRat))
    have second := abs_sum_le (ys.map (·.balance.toRat))
    simp only [List.map_append, List.sum_append] at room
    simp only [List.map_map, Function.comp_def] at first second
    simp only [List.map_cons, List.map_nil, List.sum_cons, List.sum_nil, leftBalance, rightBalance]
    linarith
  changes :=
    { grid := by
        have grids := addable.changes.grid
        simp only [List.flatMap_append, List.forall_mem_append] at grids
        simpa [or_imp, forall_and] using And.intro
          (fun tx member => leftHistory.onGrid grids.1 member)
          (fun tx member => rightHistory.onGrid grids.2 member)
      small := by
        intro hash
        have less := volume_groups_le leftHistory rightHistory addable.ascii hash
        have room := addable.changes.small hash
        exact lt_of_le_of_lt (mul_le_mul_of_nonneg_right less (by positivity)) room }

end Groups

end AddressInfo

namespace Holdings

open AddressInfo

/-- The same in another order, but for the names of who paid whom. -/
structure SameUpToOrder (a b : Holdings) : Prop where
  balance : a.balance = b.balance
  unspentOutputs : a.unspentOutputs.Perm b.unspentOutputs
  history : (a.history.map Movement.unnamed).Perm (b.history.map Movement.unnamed)
  hasUnconfirmed : a.hasUnconfirmed = b.hasUnconfirmed

theorem sameUpToOrder_of_perm {xs ys : List AddressInfo} (perm : xs.Perm ys) :
    (ofInfos xs).SameUpToOrder (ofInfos ys) where
  balance := (perm.map _).sum_eq
  unspentOutputs := perm.flatMap_right _
  history := Movement.unnamed_ofReports_perm (perm.flatMap_right _)
  hasUnconfirmed := by
    have flags := perm.map (·.hasUnconfirmed)
    simp only [ofInfos, anyUnconfirmed, flags.mem_iff]

end Holdings

namespace AddressInfo

open ReportedTransaction

theorem Moderate.perm {xs ys : List AddressInfo} (perm : xs.Perm ys) (moderate : Moderate xs) :
    Moderate ys := by
  have reports := perm.flatMap_right (·.history)
  constructor
  · intro tx member
    exact moderate.ascii tx (reports.mem_iff.mpr member)
  · intro info member
    exact moderate.balances info (perm.mem_iff.mpr member)
  · intro tx member
    exact moderate.changes tx (reports.mem_iff.mpr member)
  · rw [← (perm.map _).sum_eq]
    exact moderate.held
  · rw [volume, ← (reports.map _).sum_eq]
    exact moderate.moved

/-- The merge of merged groups is the merge of all, and the order of the addresses does not count.
-/
theorem merge_of_groups {xs ys : List AddressInfo} (first : Moderate xs) (second : Moderate ys) :
    (∃ left right whole regrouped, merge? xs = some left ∧ merge? ys = some right ∧
      merge? (xs ++ ys) = some whole ∧ merge? [left, right] = some regrouped ∧
      regrouped.holdings = whole.holdings) ∧
    ∀ others : List AddressInfo, others.Perm xs →
      ∃ merged reordered, merge? xs = some merged ∧ merge? others = some reordered ∧
        reordered.holdings.SameUpToOrder merged.holdings := by
  constructor
  next =>
    have addable := first.append second
    obtain ⟨left, leftFound, leftHistory, leftHoldings⟩ := first.addable.exists_merge?
    obtain ⟨right, rightFound, rightHistory, rightHoldings⟩ := second.addable.exists_merge?
    obtain ⟨whole, wholeFound, _, wholeHoldings⟩ := addable.exists_merge?
    have groups := addable.groups leftHistory rightHistory
      (congrArg Holdings.balance leftHoldings) (congrArg Holdings.balance rightHoldings)
    obtain ⟨regrouped, found, _, holdings⟩ := groups.exists_merge?
    refine ⟨left, right, whole, regrouped, leftFound, rightFound, wholeFound, found, ?_⟩
    rw [holdings, wholeHoldings]
    exact ofInfos_groups leftHistory rightHistory addable.ascii leftHoldings rightHoldings
  next =>
    intro others perm
    obtain ⟨merged, found, _, holdings⟩ := first.addable.exists_merge?
    obtain ⟨reordered, again, _, others⟩ := (first.perm perm.symm).addable.exists_merge?
    refine ⟨merged, reordered, found, again, ?_⟩
    rw [holdings, others]
    exact Holdings.sameUpToOrder_of_perm perm

namespace Sample

-- an address that was paid with the second one of the others, and does not know what is pending
def more : List AddressInfo :=
  [{ balance := .ofUInt64 3, unspentOutputs := [],
     history := [report "BB" 70 (by decide) (some ⟨5, 0⟩) true (some "bc1qd") none],
     hasUnconfirmed := none }]

theorem moderate_more : Moderate more where
  ascii := by decide
  balances := by
    intro info member
    have places : ∀ info ∈ more, info.balance.scale ≤ 8 := by decide
    exact .of_scale_le (places info member)
  changes := by
    simp only [more, List.flatMap_cons, List.flatMap_nil, List.append_nil, List.forall_mem_cons,
      report, OnGrid, Decimal.toRat_eq_div]
    exact ⟨⟨7, by norm_num⟩, by simp⟩
  held := by
    simp [more, Decimal.toRat_eq_div, Decimal.ofUInt64]
    norm_num
  moved := by
    simp [more, volume, report, Decimal.toRat_eq_div]
    norm_num

theorem merge_of_groups_transfer :
    Moderate infos ∧ Moderate more ∧
      (∃ left right whole regrouped, merge? infos = some left ∧ merge? more = some right ∧
        merge? (infos ++ more) = some whole ∧ merge? [left, right] = some regrouped ∧
        regrouped.holdings = whole.holdings) ∧
      infos.reverse.Perm infos ∧
        ∃ merged reordered, merge? infos = some merged ∧ merge? infos.reverse = some reordered ∧
          reordered.holdings.SameUpToOrder merged.holdings := by
  obtain ⟨groups, orders⟩ := merge_of_groups moderate_infos moderate_more
  have perm := List.reverse_perm infos
  exact ⟨moderate_infos, moderate_more, groups, perm, orders _ perm⟩

end Sample

end AddressInfo

end CoinWallet
