import CoinWallet.Proofs.History.Reconcile
import CoinWallet.Proofs.Utxo.Merge
import CoinWallet.Proofs.Wallet.Recent

set_option autoImplicit false

namespace CoinWallet

open Decimal (OnGrid)

namespace ReportedTransaction

-- some report of the hash is not confirmed
def pends (reports : List ReportedTransaction) (hash : String) : Bool :=
  (ofHash reports hash).any fun tx => !tx.isConfirmed

-- the hash is reported, and all reports of it are confirmed
def settles (reports : List ReportedTransaction) (hash : String) : Bool :=
  !(ofHash reports hash).isEmpty && !pends reports hash

def settle (reports : List ReportedTransaction) (tx : Transaction) : Transaction :=
  match tx.hash with
  | some hash => if settles reports hash then tx.confirm else tx
  | none => tx

variable {reports history : List ReportedTransaction}

theorem pends_congr {a b : String} (same : Text.asciiFold a = Text.asciiFold b) :
    pends reports a = pends reports b := by
  rw [pends, ofHash_congr same, pends]

@[simp] theorem hash_settle (tx : Transaction) : (settle reports tx).hash = tx.hash := by
  unfold settle
  split
  · split <;> rfl
  · rfl

theorem settle_of_unreported {tx : Transaction}
    (unreported : ∀ hash, tx.hash = some hash → ofHash reports hash = []) :
    settle reports tx = tx := by
  unfold settle
  split
  next hash held => simp [settles, unreported hash held]
  next => rfl

/-- What a refresh makes of the recent transactions `old`. -/
structure Records (reports : List ReportedTransaction) (old new : History) : Prop where
  settled : ∀ tx ∈ reports, pends reports tx.hash = false →
    ∀ entry ∈ new, entry.hasHash tx.hash = true → entry.isConfirmed = true
  once : ∀ tx ∈ reports, pends reports tx.hash = true →
    new.countP (fun entry => entry.hasHash tx.hash) = 1
  unchanged : ∀ (i : Nat) (entry : Transaction), old[i]? = some entry →
    (∀ hash, entry.hash = some hash → ofHash reports hash = []) → new[i]? = some entry
  entries : ∃ added : List Transaction, new = old.map (settle reports) ++ added ∧
    added.map (·.hash) =
      ((reports.filter fun tx => pends reports tx.hash && !old.knows tx.hash).map
        fun tx => Text.lower tx.hash).eraseDups.map some ∧
    ∀ entry ∈ added, entry.isConfirmed = false ∧ ∃ hash, entry.hash = some hash ∧
      entry.amount.value.toRat = |((ofHash reports hash).map (·.balanceChange.toRat)).sum|

end ReportedTransaction

namespace AddressInfo

open ReportedTransaction

namespace Merged

variable {reports history : List ReportedTransaction} (merged : Merged reports history)
  (ascii : ∀ tx ∈ reports, Text.isAscii tx.hash = true)

include merged

theorem isConfirmed_eq {entry : ReportedTransaction} (member : entry ∈ history) :
    entry.isConfirmed = !pends reports entry.hash := by
  rw [(merged.gathers entry member).confirmed, pends, List.not_any_eq_all_not]
  simp

include ascii

theorem pairwise_apart (coin : Amount) (now : Timestamp) :
    (history.map fun tx => tx.toTransaction coin now).Pairwise Transaction.Apart := by
  rw [List.pairwise_map]
  apply (List.pairwise_map.mp (merged.nodup_asciiFold ascii)).imp
  intro a b different hash held
  cases held
  rw [Bool.eq_false_iff, ne_eq, Transaction.hasHash_iff]
  rintro ⟨own, held, same⟩
  cases held
  exact different same

theorem confirmBy_eq_settle (coin : Amount) (now : Timestamp) (tx : Transaction) :
    History.confirmBy ((history.map fun tx => tx.toTransaction coin now).filter
        fun tx => tx.isConfirmed) tx = settle reports tx := by
  have known (hash : String) :
      History.knows ((history.map fun tx => tx.toTransaction coin now).filter
        fun tx => tx.isConfirmed) hash = settles reports hash := by
    rw [Bool.eq_iff_iff, History.knows, List.any_eq_true, settles, Bool.and_eq_true,
      Bool.not_eq_true', Bool.not_eq_true', List.isEmpty_eq_false_iff, ← merged.exists_entry_iff ascii]
    constructor
    next =>
      rintro ⟨tx, listed, same⟩
      obtain ⟨member, confirmed⟩ := List.mem_filter.mp listed
      obtain ⟨entry, present, rfl⟩ := List.mem_map.mp member
      have fold : Text.asciiFold entry.hash = Text.asciiFold hash := by
        simpa [Transaction.hasHash, toTransaction] using same
      have status : entry.isConfirmed = true := by
        cases held : entry.isConfirmed <;>
          simp_all [Transaction.isConfirmed, toTransaction]
      rw [merged.isConfirmed_eq present, pends_congr fold] at status
      exact ⟨⟨entry, present, fold⟩, by simpa using status⟩
    next =>
      rintro ⟨⟨entry, present, fold⟩, done⟩
      refine ⟨_, List.mem_filter.mpr ⟨List.mem_map_of_mem present, ?_⟩, ?_⟩
      · simp [Transaction.isConfirmed, toTransaction, merged.isConfirmed_eq present,
          pends_congr fold, done]
      · simpa [Transaction.hasHash, toTransaction] using fold
  cases held : tx.hash <;> simp [History.confirmBy, settle, held, known]

theorem hashes_filter (h : History) (coin : Amount) (now : Timestamp) :
    (((history.map fun tx => tx.toTransaction coin now).filter
        fun tx => !tx.isConfirmed && !h.knowsHashOf tx).map (·.hash)) =
      ((reports.filter fun tx => pends reports tx.hash && !h.knows tx.hash).map
        fun tx => Text.lower tx.hash).eraseDups.map some := by
  have pending : history.filter (fun entry =>
        !(entry.toTransaction coin now).isConfirmed && !h.knowsHashOf (entry.toTransaction coin now)) =
      history.filter fun entry => pends reports entry.hash && !h.knows entry.hash := by
    refine List.filter_congr fun entry member => ?_
    have status := merged.isConfirmed_eq member
    cases held : pends reports entry.hash <;>
      simp_all [Transaction.isConfirmed, toTransaction, History.knowsHashOf]
  have lowered : reports.filter (fun tx => pends reports tx.hash && !h.knows tx.hash) =
      reports.filter ((fun hash => pends reports hash && !h.knows hash) ∘
        fun tx => Text.lower tx.hash) := by
    refine List.filter_congr fun tx member => ?_
    have fold := Text.asciiFold_lower (ascii tx member)
    have known : h.knows (Text.lower tx.hash) = h.knows tx.hash := by
      simp [History.knows, Transaction.hasHash, Text.sameIgnoringCase, fold]
    simp [pends_congr fold, known]
  have hashes := congrArg (List.filter fun hash => pends reports hash && !h.knows hash) merged.hashes
  rw [filter_eraseDups, List.filter_map, List.filter_map, ← lowered] at hashes
  rw [List.filter_map, ← hashes]
  simp only [Function.comp_def, List.map_map]
  rw [pending]
  rfl

theorem records (own : History) (distinct : own.Pairwise Transaction.Apart) (coin : Amount)
    (now : Timestamp) :
    Records reports own (own.reconcile (history.map fun tx => tx.toTransaction coin now)) := by
  have apart := merged.pairwise_apart ascii coin now
  have single := History.distinct_reconcile distinct apart
  have known : own.map (History.confirmBy ((history.map fun tx =>
      tx.toTransaction coin now).filter fun tx => tx.isConfirmed)) = own.map (settle reports) :=
    List.map_congr_left fun tx _ => merged.confirmBy_eq_settle ascii coin now tx
  have whole := History.reconcile_eq (h := own) apart
  rw [known] at whole
  -- a new entry is pending, and tells what its reports add up to
  have added {entry : Transaction} (new : entry ∈ (history.map fun tx =>
      tx.toTransaction coin now).filter fun tx => !tx.isConfirmed && !own.knowsHashOf tx) :
      entry.isConfirmed = false ∧ ∃ report ∈ history, entry = report.toTransaction coin now := by
    obtain ⟨listed, pending⟩ := List.mem_filter.mp new
    obtain ⟨report, member, rfl⟩ := List.mem_map.mp listed
    exact ⟨by simp_all, report, member, rfl⟩
  refine ⟨?_, ?_, ?_, _, whole, merged.hashes_filter ascii own coin now, ?_⟩
  next =>
    intro tx reported done entry member same
    rw [whole] at member
    rcases List.mem_append.mp member with old | new
    next =>
      obtain ⟨former, present, rfl⟩ := List.mem_map.mp old
      obtain ⟨hash, held, fold⟩ := Transaction.hasHash_iff.mp same
      rw [hash_settle] at held
      have confirms : settles reports hash = true := by
        simp [settles, ofHash_congr fold, ofHash_ne_nil reported, pends_congr fold, done]
      simp [settle, held, confirms]
    next =>
      obtain ⟨pending, report, present, rfl⟩ := added new
      have fold : Text.asciiFold report.hash = Text.asciiFold tx.hash := by
        simpa [Transaction.hasHash, toTransaction] using same
      have status := merged.isConfirmed_eq present
      rw [pends_congr fold, done] at status
      simp [Transaction.isConfirmed, toTransaction, status] at pending
  next =>
    intro tx reported pending
    refine Nat.le_antisymm (History.countP_hasHash_le_one single tx.hash) ?_
    refine List.countP_pos_iff.mpr ?_
    rw [whole]
    by_cases old : own.knows tx.hash = true
    next =>
      obtain ⟨former, present, same⟩ := List.any_eq_true.mp old
      refine ⟨settle reports former, List.mem_append_left _ (List.mem_map_of_mem present), ?_⟩
      simpa [Transaction.hasHash] using same
    next =>
      obtain ⟨report, present, fold⟩ :=
        (merged.exists_entry_iff ascii).mpr (ofHash_ne_nil reported)
      have status := merged.isConfirmed_eq present
      rw [pends_congr fold, pending] at status
      have unknown : own.knows report.hash = false := by
        rw [Bool.eq_false_iff, ne_eq]
        simpa [History.knows, Transaction.hasHash, Text.sameIgnoringCase, fold] using old
      refine ⟨report.toTransaction coin now, List.mem_append_right _ (List.mem_filter.mpr
        ⟨List.mem_map_of_mem present, ?_⟩), ?_⟩
      · simp [Transaction.isConfirmed, toTransaction, status, History.knowsHashOf, unknown]
      · simp [Transaction.hasHash, toTransaction, fold]
  next =>
    intro i entry present unreported
    have kept : (own.map (settle reports))[i]? = some entry := by
      rw [List.getElem?_map, present, Option.map_some, settle_of_unreported unreported]
    have inside := (List.getElem?_eq_some_iff.mp kept).1
    rw [whole, List.getElem?_append_left inside, kept]
  next =>
    intro entry new
    obtain ⟨pending, report, present, rfl⟩ := added new
    refine ⟨pending, _, rfl, ?_⟩
    rw [← (merged.gathers report present).change, ← Decimal.toRat_abs]
    rfl

end Merged

end AddressInfo

open ReportedTransaction (volume Records) in
/-- A refresh with reports has a result, and it records them by their hashes. -/
theorem Utxo.records_of_commit (w : Wallet) (distinct : w.recent.Pairwise Transaction.Apart)
    {infos : List AddressInfo} (reported : infos.flatMap (·.history) ≠ [])
    (ascii : ∀ tx ∈ infos.flatMap (·.history), Text.isAscii tx.hash = true)
    (balances : ∀ info ∈ infos, OnGrid 8 info.balance.toRat)
    (changes : ∀ tx ∈ infos.flatMap (·.history), OnGrid 8 tx.balanceChange.toRat)
    (held : (infos.map fun info => |info.balance.toRat|).sum < 10 ^ 20)
    (moved : volume (infos.flatMap (·.history)) < 10 ^ 20) (now : Timestamp) :
    ∃ info, AddressInfo.merge? infos = some info ∧
      Records (infos.flatMap (·.history)) w.recent (commit w info now).recent := by
  have grids : ∀ d ∈ infos.map (·.balance), OnGrid 8 d.toRat := by simpa using balances
  have room : ((infos.map (·.balance)).map fun d => |d.toRat|).sum * 10 ^ 8 < 2 ^ 96 := by
    rw [List.map_map, Function.comp_def]
    linarith
  obtain ⟨balance, summed, _⟩ := Decimal.sum?_exact grids room
  obtain ⟨info, found, _, merged⟩ := AddressInfo.exists_merge? summed ascii
    (ReportedTransaction.summable_of_volume_lt changes (by linarith))
  have some : info.history ≠ [] := by
    obtain ⟨tx, present⟩ := List.exists_mem_of_ne_nil _ reported
    have listed := merged.mem_hashes.mpr ⟨tx, present, rfl⟩
    rintro none
    rw [none] at listed
    cases listed
  refine ⟨info, found, ?_⟩
  have turns := Update.turns_commit w (.utxo info) now
  simp only [Update.commit] at turns
  generalize (commit w info now).recent = recent at turns ⊢
  cases turns with
  | reconcile coin _ => exact merged.records ascii w.recent distinct coin now
  | _ => contradiction

namespace Utxo.Sample

open ReportedTransaction (ofHash)

def pending (hash : Option String) : Transaction where
  amount := .zeroCoin .bitcoin
  fee := none
  source := "home"
  destination := "shop"
  contract := none
  status := .unconfirmed
  hash := hash
  date := ⟨0, 0⟩

def wallet : Wallet :=
  { Wallet.new ⟨0⟩ .bitcoin ⟨[], none⟩ [⟨"bc1qa", .standard⟩, ⟨"bc1qb", .standard⟩] with
    recent := [pending (some "Cc"), pending none] }

def report (hash : String) (change : Int) (fits : change.natAbs < 2 ^ (96 : Nat))
    (isConfirmed : Bool) : ReportedTransaction where
  balanceChange := ⟨change, 8, fits, by decide⟩
  hash := hash
  date := none
  isConfirmed := isConfirmed
  source := none
  destination := none

-- the address that pays knows the first transaction as confirmed, the one that is paid does not yet
def infos : List AddressInfo :=
  [{ AddressInfo.empty with
      history := [report "AA" (-3) (by decide) true, report "cc" 1 (by decide) true] },
    { AddressInfo.empty with history := [report "aa" 1 (by decide) false] }]

theorem records_of_commit_infos : ∃ info added, AddressInfo.merge? infos = some info ∧
    (commit wallet info ⟨0, 0⟩).recent =
      [(pending (some "Cc")).confirm, pending none, added] ∧
    added.hash = some "aa" ∧ added.isConfirmed = false ∧
    added.amount.value.toRat = 2 / 10 ^ 8 := by
  have places : ∀ tx ∈ infos.flatMap (·.history), tx.balanceChange.scale ≤ 8 := by decide
  have zeros : ∀ info ∈ infos, info.balance.scale ≤ 8 := by decide
  have nothing : (infos.map fun info => |info.balance.toRat|).sum = 0 := by
    simp [infos, AddressInfo.empty]
  have moved : ReportedTransaction.volume (infos.flatMap (·.history)) = 5 / 10 ^ 8 := by
    simp [infos, report, ReportedTransaction.volume, Decimal.toRat_eq_div]
    norm_num
  obtain ⟨info, found, recorded⟩ := records_of_commit wallet
    (by simp [wallet, pending, Transaction.Apart])
    (show infos.flatMap (·.history) ≠ [] by decide) (by decide)
    (fun info member => .of_scale_le (zeros info member))
    (fun tx member => .of_scale_le (places tx member)) (by rw [nothing]; norm_num)
    (by rw [moved]; norm_num) ⟨0, 0⟩
  obtain ⟨added, whole, hashes, news⟩ := recorded.entries
  have known : wallet.recent.map (ReportedTransaction.settle (infos.flatMap (·.history))) =
      [(pending (some "Cc")).confirm, pending none] := by decide
  have unknown : (((infos.flatMap (·.history)).filter fun tx =>
      ReportedTransaction.pends (infos.flatMap (·.history)) tx.hash &&
        !wallet.recent.knows tx.hash).map fun tx => Text.lower tx.hash).eraseDups = ["aa"] := by
    decide
  rw [unknown] at hashes
  obtain ⟨entry, rfl, hash⟩ := List.map_eq_singleton_iff.mp hashes
  obtain ⟨status, own, held, value⟩ := news entry List.mem_cons_self
  obtain rfl : own = "aa" := Option.some.inj (held.symm.trans hash)
  refine ⟨info, entry, found, by rw [whole, known]; rfl, hash, status, ?_⟩
  rw [value]
  simp [infos, report, ofHash, Text.sameIgnoringCase, Text.asciiFold, Decimal.toRat_eq_div]
  norm_num

end Utxo.Sample

end CoinWallet
