import CoinWallet.Proofs.Decimal.Exact
import CoinWallet.Proofs.Lists
import CoinWallet.Proofs.Text.Case
import CoinWallet.Utxo.AddressInfo
import Mathlib.Algebra.Order.BigOperators.Group.Multiset

set_option autoImplicit false

namespace CoinWallet

open Decimal (OnGrid)

theorem abs_sum_le (xs : List Rat) : |xs.sum| ≤ (xs.map abs).sum := by
  simpa using Multiset.abs_sum_le_sum_abs (s := (xs : Multiset Rat))

namespace ReportedTransaction

def ofHash (reports : List ReportedTransaction) (hash : String) : List ReportedTransaction :=
  reports.filter fun tx => Text.sameIgnoringCase tx.hash hash

theorem ofHash_snoc_same {tx : ReportedTransaction} {hash : String}
    (same : Text.asciiFold tx.hash = Text.asciiFold hash) (reports : List ReportedTransaction) :
    ofHash (reports ++ [tx]) hash = ofHash reports hash ++ [tx] := by
  simp [ofHash, same]

theorem ofHash_snoc_other {tx : ReportedTransaction} {hash : String}
    (other : Text.asciiFold tx.hash ≠ Text.asciiFold hash) (reports : List ReportedTransaction) :
    ofHash (reports ++ [tx]) hash = ofHash reports hash := by
  simp [ofHash, other]

theorem ofHash_eq_nil {reports : List ReportedTransaction} {hash : String}
    (none : ∀ tx ∈ reports, Text.asciiFold tx.hash ≠ Text.asciiFold hash) :
    ofHash reports hash = [] := by
  simpa [ofHash] using none

theorem ofHash_eq_singleton {history : List ReportedTransaction}
    (apart : (history.map fun tx => Text.asciiFold tx.hash).Nodup) {tx : ReportedTransaction}
    (member : tx ∈ history) : ofHash history tx.hash = [tx] :=
  filter_eq_singleton apart member fun other => Text.sameIgnoringCase_iff other.hash tx.hash

theorem ofHash_congr {reports : List ReportedTransaction} {a b : String}
    (same : Text.asciiFold a = Text.asciiFold b) : ofHash reports a = ofHash reports b := by
  simp [ofHash, Text.sameIgnoringCase, same]

theorem ofHash_ne_nil {reports : List ReportedTransaction} {tx : ReportedTransaction}
    (reported : tx ∈ reports) : ofHash reports tx.hash ≠ [] :=
  List.ne_nil_of_mem (List.mem_filter.mpr ⟨reported, by simp⟩)

structure Gathers (reports : List ReportedTransaction) (entry : ReportedTransaction) : Prop where
  change : entry.balanceChange.toRat = (reports.map (·.balanceChange.toRat)).sum
  confirmed : entry.isConfirmed = reports.all (·.isConfirmed)
  date : entry.date = (reports.map (·.date)).foldl Timestamp.earliest none
  source : entry.source = reports.findSome? (·.source)
  destination : entry.destination = reports.findSome? (·.destination)

theorem gathers_singleton (tx : ReportedTransaction) (hash : String) :
    Gathers [tx] { tx with hash := hash } where
  change := by simp
  confirmed := by simp
  date := rfl
  source := by cases source : tx.source <;> simp [source]
  destination := by cases destination : tx.destination <;> simp [destination]

theorem Gathers.snoc {reports : List ReportedTransaction} {known tx : ReportedTransaction}
    {change : Decimal} (gathers : Gathers reports known)
    (added : change.toRat = known.balanceChange.toRat + tx.balanceChange.toRat) :
    Gathers (reports ++ [tx])
      { known with
        balanceChange := change
        isConfirmed := known.isConfirmed && tx.isConfirmed
        date := Timestamp.earliest known.date tx.date
        source := known.source.or tx.source
        destination := known.destination.or tx.destination } where
  change := by simp [added, gathers.change]
  confirmed := by simp [gathers.confirmed]
  date := by simp [gathers.date]
  source := by
    rw [List.findSome?_append, ← gathers.source]
    cases source : tx.source <;> simp [source]
  destination := by
    rw [List.findSome?_append, ← gathers.destination]
    cases destination : tx.destination <;> simp [destination]

-- what the reports of one transaction change, without their signs
def volume (reports : List ReportedTransaction) : Rat :=
  (reports.map fun tx => |tx.balanceChange.toRat|).sum

theorem volume_nonneg (reports : List ReportedTransaction) : 0 ≤ volume reports :=
  List.sum_nonneg fun x member => by
    obtain ⟨tx, _, rfl⟩ := List.mem_map.mp member
    exact abs_nonneg _

theorem volume_append (first last : List ReportedTransaction) :
    volume (first ++ last) = volume first + volume last := by
  simp [volume]

theorem abs_sum_le_volume (reports : List ReportedTransaction) :
    |(reports.map (·.balanceChange.toRat)).sum| ≤ volume reports := by
  simpa [volume, Function.comp_def] using abs_sum_le (reports.map (·.balanceChange.toRat))

-- one hash changes no more than all of them
theorem volume_ofHash_le (reports : List ReportedTransaction) (hash : String) :
    volume (ofHash reports hash) ≤ volume reports := by
  apply List.Sublist.sum_le_sum (List.Sublist.map _ List.filter_sublist)
  intro x member
  obtain ⟨tx, _, rfl⟩ := List.mem_map.mp member
  exact abs_nonneg _

-- changes that stay exact however they are added up
structure Summable (digits : Nat) (reports : List ReportedTransaction) : Prop where
  grid : ∀ tx ∈ reports, OnGrid digits tx.balanceChange.toRat
  small : ∀ hash, volume (ofHash reports hash) * 10 ^ digits < 2 ^ 96

theorem summable_of_volume_lt {digits : Nat} {reports : List ReportedTransaction}
    (grid : ∀ tx ∈ reports, OnGrid digits tx.balanceChange.toRat)
    (small : volume reports * 10 ^ digits < 2 ^ 96) : Summable digits reports where
  grid := grid
  small hash :=
    lt_of_le_of_lt (mul_le_mul_of_nonneg_right (volume_ofHash_le reports hash) (by positivity)) small

theorem Summable.left {digits : Nat} {first last : List ReportedTransaction}
    (summable : Summable digits (first ++ last)) : Summable digits first where
  grid tx member := summable.grid tx (List.mem_append_left last member)
  small hash := by
    have whole := summable.small hash
    have positive : (0 : Rat) < 10 ^ digits := by positivity
    rw [ofHash, List.filter_append, volume_append] at whole
    have rest := volume_nonneg (ofHash last hash)
    refine lt_of_le_of_lt (mul_le_mul_of_nonneg_right ?_ positive.le) whole
    simp only [ofHash] at rest ⊢
    linarith

theorem exists_combine? {digits : Nat} {reports : List ReportedTransaction}
    {known tx : ReportedTransaction} (gathers : Gathers (ofHash reports known.hash) known)
    (same : Text.asciiFold tx.hash = Text.asciiFold known.hash)
    (summable : Summable digits (reports ++ [tx])) :
    ∃ entry, AddressInfo.combine? known tx = some entry ∧ entry.hash = known.hash ∧
      Gathers (ofHash (reports ++ [tx]) known.hash) entry := by
  have small := summable.small known.hash
  rw [ofHash_snoc_same same] at small ⊢
  have total : known.balanceChange.toRat + tx.balanceChange.toRat =
      ((ofHash reports known.hash ++ [tx]).map (·.balanceChange.toRat)).sum := by
    simp [gathers.change]
  have grid : OnGrid digits (known.balanceChange.toRat + tx.balanceChange.toRat) := by
    rw [total]
    refine OnGrid.sum fun x member => ?_
    obtain ⟨other, present, rfl⟩ := List.mem_map.mp member
    refine summable.grid other ?_
    rcases List.mem_append.mp present with old | new
    · exact List.mem_append_left _ (List.mem_filter.mp old).1
    · exact List.mem_append_right _ new
  have bound : |known.balanceChange.toRat + tx.balanceChange.toRat| * 10 ^ digits < 2 ^ 96 := by
    rw [total]
    exact lt_of_le_of_lt
      (mul_le_mul_of_nonneg_right (abs_sum_le_volume _) (by positivity)) small
  obtain ⟨change, added, value⟩ := Decimal.add?_exact grid bound
  refine ⟨_, ?_, ?_, gathers.snoc value⟩
  · simp [AddressInfo.combine?, added]
  · rfl

end ReportedTransaction

namespace AddressInfo

open ReportedTransaction

theorem addReport?_known {tx known : ReportedTransaction} {before : List ReportedTransaction}
    (others : ∀ entry ∈ before, Text.asciiFold entry.hash ≠ Text.asciiFold tx.hash)
    (same : Text.asciiFold known.hash = Text.asciiFold tx.hash)
    (after : List ReportedTransaction) :
    addReport? tx (before ++ known :: after) =
      (combine? known tx).map fun entry => before ++ entry :: after := by
  induction before with
  | nil => simp [addReport?, same]
  | cons entry rest ih =>
    have here := others entry List.mem_cons_self
    have there := ih fun other later => others other (List.mem_cons_of_mem entry later)
    simp [addReport?, here, there, Function.comp_def]

theorem addReport?_new {tx : ReportedTransaction} {history : List ReportedTransaction}
    (others : ∀ entry ∈ history, Text.asciiFold entry.hash ≠ Text.asciiFold tx.hash) :
    addReport? tx history = some (history ++ [{ tx with hash := Text.lower tx.hash }]) := by
  induction history with
  | nil => rfl
  | cons entry rest ih =>
    have here := others entry List.mem_cons_self
    have there := ih fun other later => others other (List.mem_cons_of_mem entry later)
    simp [addReport?, here, there]

structure Merged (reports history : List ReportedTransaction) : Prop where
  hashes : history.map (·.hash) = (reports.map fun tx => Text.lower tx.hash).eraseDups
  gathers : ∀ entry ∈ history, Gathers (ofHash reports entry.hash) entry

namespace Merged

variable {reports history : List ReportedTransaction} {tx : ReportedTransaction}

theorem nil : Merged [] [] where
  hashes := rfl
  gathers := by simp

theorem nodup (merged : Merged reports history) : (history.map (·.hash)).Nodup := by
  rw [merged.hashes]
  exact nodup_eraseDups _

theorem mem_hashes (merged : Merged reports history) {hash : String} :
    hash ∈ history.map (·.hash) ↔ ∃ tx ∈ reports, Text.lower tx.hash = hash := by
  rw [merged.hashes, List.mem_eraseDups, List.mem_map]

-- an entry and a report of one transaction
theorem hash_eq_lower (merged : Merged reports history)
    (ascii : ∀ tx ∈ reports, Text.isAscii tx.hash = true) (here : Text.isAscii tx.hash = true)
    {entry : ReportedTransaction} (member : entry ∈ history) :
    Text.asciiFold entry.hash = Text.asciiFold tx.hash ↔ entry.hash = Text.lower tx.hash := by
  obtain ⟨report, present, hash⟩ := merged.mem_hashes.mp (List.mem_map_of_mem member)
  have reported := ascii report present
  simp only [← hash, Text.asciiFold_lower reported, Text.lower_eq_iff reported here]

section Ascii

variable (merged : Merged reports history)
  (ascii : ∀ tx ∈ reports, Text.isAscii tx.hash = true)

include merged ascii

theorem asciiFold_injective {a b : ReportedTransaction} (first : a ∈ history) (second : b ∈ history)
    (same : Text.asciiFold a.hash = Text.asciiFold b.hash) : a.hash = b.hash := by
  obtain ⟨tx, reported, hash⟩ := merged.mem_hashes.mp (List.mem_map_of_mem second)
  have plain := ascii tx reported
  rw [← hash, Text.asciiFold_lower plain, merged.hash_eq_lower ascii plain first] at same
  rw [same, hash]

theorem nodup_asciiFold : (history.map fun entry => Text.asciiFold entry.hash).Nodup := by
  apply (List.Nodup.of_map _ merged.nodup).map_on
  intro a first b second same
  have equal := merged.asciiFold_injective ascii first second same
  exact List.inj_on_of_nodup_map merged.nodup first second equal

theorem exists_entry_iff {hash : String} :
    (∃ entry ∈ history, Text.asciiFold entry.hash = Text.asciiFold hash) ↔
      ofHash reports hash ≠ [] := by
  rw [ofHash, ne_eq, List.filter_eq_nil_iff]
  push Not
  constructor
  next =>
    rintro ⟨entry, member, same⟩
    obtain ⟨tx, reported, lower⟩ := merged.mem_hashes.mp (List.mem_map_of_mem member)
    refine ⟨tx, reported, ?_⟩
    rw [Text.sameIgnoringCase_iff, ← same, ← lower, Text.asciiFold_lower (ascii tx reported)]
  next =>
    rintro ⟨tx, reported, same⟩
    obtain ⟨entry, member, lower⟩ := List.mem_map.mp (merged.mem_hashes.mpr ⟨tx, reported, rfl⟩)
    refine ⟨entry, member, ?_⟩
    rw [lower, Text.asciiFold_lower (ascii tx reported), ← Text.sameIgnoringCase_iff, same]

theorem isAscii_hash {entry : ReportedTransaction} (member : entry ∈ history) :
    Text.isAscii entry.hash = true := by
  obtain ⟨tx, reported, hash⟩ := merged.mem_hashes.mp (List.mem_map_of_mem member)
  rw [← hash]
  exact Text.isAscii_lower (ascii tx reported)

theorem exists_ofHash_eq (hash : String) :
    ofHash history hash = [] ∧ ofHash reports hash = [] ∨
      ∃ entry ∈ history, ofHash history hash = [entry] ∧ Gathers (ofHash reports hash) entry := by
  by_cases known : ∃ entry ∈ history, Text.asciiFold entry.hash = Text.asciiFold hash
  next =>
    obtain ⟨entry, member, same⟩ := known
    have gathers := merged.gathers entry member
    rw [ofHash_congr same] at gathers
    refine .inr ⟨entry, member, ?_, gathers⟩
    rw [← ofHash_congr same]
    exact ofHash_eq_singleton (merged.nodup_asciiFold ascii) member
  next =>
    refine .inl ⟨ofHash_eq_nil fun entry member same => known ⟨entry, member, same⟩, ?_⟩
    by_contra reported
    exact known ((merged.exists_entry_iff ascii).mpr reported)

end Ascii

variable {digits : Nat}

theorem snoc_known (merged : Merged reports history)
    (ascii : ∀ other ∈ reports, Text.isAscii other.hash = true)
    (here : Text.isAscii tx.hash = true) (summable : Summable digits (reports ++ [tx]))
    (known : Text.lower tx.hash ∈ history.map (·.hash)) :
    ∃ next, addReport? tx history = some next ∧ Merged (reports ++ [tx]) next := by
  obtain ⟨entry, member, hash⟩ := List.mem_map.mp known
  have same := (merged.hash_eq_lower ascii here member).mpr hash
  obtain ⟨before, after, rfl⟩ := List.append_of_mem member
  have once := merged.nodup
  simp only [List.map_append, List.map_cons, List.nodup_append, List.nodup_cons] at once
  obtain ⟨_, ⟨behind, _⟩, ahead⟩ := once
  have earlier : ∀ other ∈ before, Text.asciiFold other.hash ≠ Text.asciiFold tx.hash := by
    intro other present
    rw [ne_eq, merged.hash_eq_lower ascii here (List.mem_append_left _ present), ← hash]
    exact ahead _ (List.mem_map_of_mem present) _ List.mem_cons_self
  have later : ∀ other ∈ after, Text.asciiFold other.hash ≠ Text.asciiFold tx.hash := by
    intro other present
    have held := List.mem_append_right before (List.mem_cons_of_mem entry present)
    rw [ne_eq, merged.hash_eq_lower ascii here held, ← hash]
    exact fun equal => behind (equal ▸ List.mem_map_of_mem present)
  obtain ⟨combined, found, kept, gathers⟩ :=
    exists_combine? (merged.gathers entry member) same.symm summable
  refine ⟨before ++ combined :: after, by simp [addReport?_known earlier same, found], ?_, ?_⟩
  next =>
    have reported := List.mem_map.mpr (merged.mem_hashes.mp known)
    have hashes := merged.hashes
    rw [List.map_append, List.map_cons] at hashes ⊢
    rw [kept, hashes, List.map_append, List.map_singleton, eraseDups_snoc, if_pos reported]
  next =>
    intro other present
    rcases List.mem_append.mp present with first | last
    · rw [ofHash_snoc_other (earlier other first).symm]
      exact merged.gathers other (List.mem_append_left _ first)
    rcases List.mem_cons.mp last with rfl | last
    · rw [kept]
      exact gathers
    · rw [ofHash_snoc_other (later other last).symm]
      exact merged.gathers other (List.mem_append_right _ (List.mem_cons_of_mem _ last))

theorem snoc_new (merged : Merged reports history)
    (ascii : ∀ other ∈ reports, Text.isAscii other.hash = true)
    (here : Text.isAscii tx.hash = true)
    (unknown : Text.lower tx.hash ∉ history.map (·.hash)) :
    ∃ next, addReport? tx history = some next ∧ Merged (reports ++ [tx]) next := by
  have others : ∀ entry ∈ history, Text.asciiFold entry.hash ≠ Text.asciiFold tx.hash := by
    intro entry member
    rw [ne_eq, merged.hash_eq_lower ascii here member]
    exact fun equal => unknown (equal ▸ List.mem_map_of_mem member)
  have fresh : Text.lower tx.hash ∉ reports.map fun other => Text.lower other.hash := by
    rw [List.mem_map, ← merged.mem_hashes]
    exact unknown
  refine ⟨_, addReport?_new others, ?_, ?_⟩
  next =>
    rw [List.map_append, List.map_append, List.map_singleton, List.map_singleton, merged.hashes,
      eraseDups_snoc, if_neg fresh]
  next =>
    intro entry member
    rcases List.mem_append.mp member with former | new
    next =>
      rw [ofHash_snoc_other (others entry former).symm]
      exact merged.gathers entry former
    next =>
      rw [List.mem_singleton] at new
      subst new
      have folded := Text.asciiFold_lower here
      have alone : ofHash reports (Text.lower tx.hash) = [] := ofHash_eq_nil fun other present => by
        rw [folded, ne_eq, ← Text.lower_eq_iff (ascii other present) here]
        exact fun equal => fresh (List.mem_map.mpr ⟨other, present, equal⟩)
      rw [ofHash_snoc_same folded.symm, alone]
      exact gathers_singleton tx _

theorem exists_foldlM (ascii : ∀ tx ∈ reports, Text.isAscii tx.hash = true)
    (summable : Summable digits reports) :
    ∃ history, reports.foldlM (fun txs tx => addReport? tx txs) [] = some history ∧
      Merged reports history := by
  induction reports using List.reverseRecOn with
  | nil => exact ⟨[], rfl, nil⟩
  | append_singleton reports tx ih =>
    have old : ∀ other ∈ reports, Text.isAscii other.hash = true := fun other member =>
      ascii other (List.mem_append_left _ member)
    have here : Text.isAscii tx.hash = true := ascii tx (by simp)
    obtain ⟨history, folded, merged⟩ := ih old summable.left
    have grown : ∃ next, addReport? tx history = some next ∧ Merged (reports ++ [tx]) next := by
      by_cases known : Text.lower tx.hash ∈ history.map (·.hash)
      next => exact merged.snoc_known old here summable known
      next => exact merged.snoc_new old here known
    obtain ⟨next, added, merged⟩ := grown
    exact ⟨next, by simp [folded, added], merged⟩

end Merged

theorem foldlM_absorb? (infos : List AddressInfo) (merged : AddressInfo) :
    infos.foldlM absorb? merged =
      ((infos.map (·.balance)).foldlM Decimal.add? merged.balance).bind fun balance =>
        ((infos.flatMap (·.history)).foldlM (fun txs tx => addReport? tx txs) merged.history).map
          fun history =>
            { balance := balance
              unspentOutputs := merged.unspentOutputs ++ infos.flatMap (·.unspentOutputs)
              history := history
              hasUnconfirmed :=
                (infos.map (·.hasUnconfirmed)).foldl eitherUnconfirmed merged.hasUnconfirmed } := by
  induction infos generalizing merged with
  | nil => simp
  | cons info rest ih =>
    cases added : merged.balance.add? info.balance with
    | none => simp [absorb?, added]
    | some balance =>
      cases folded : info.history.foldlM (fun txs tx => addReport? tx txs) merged.history with
      | none => simp [absorb?, added, folded]
      | some history => simp [absorb?, added, folded, ih]

theorem exists_merge? {infos : List AddressInfo} {digits : Nat} {balance : Decimal}
    (summed : Decimal.sum? (infos.map (·.balance)) = some balance)
    (ascii : ∀ tx ∈ infos.flatMap (·.history), Text.isAscii tx.hash = true)
    (summable : Summable digits (infos.flatMap (·.history))) :
    ∃ merged, merge? infos = some merged ∧ merged.balance = balance ∧
      Merged (infos.flatMap (·.history)) merged.history := by
  obtain ⟨history, folded, merged⟩ := Merged.exists_foldlM ascii summable
  rw [merge?, foldlM_absorb?]
  rw [Decimal.sum?] at summed
  simp only [empty, summed, folded, Option.bind_some, Option.map_some]
  exact ⟨_, rfl, rfl, merged⟩

end AddressInfo

end CoinWallet
