import CoinWallet.Proofs.Fee.Size
import CoinWallet.Proofs.Utxo.Netting

set_option autoImplicit false

namespace CoinWallet

-- powers and sums are those of the core library
attribute [local instance (high)] instPowNat Zero.ofOfNat0

namespace Esplora

def signed (value : UInt64) : Int :=
  Int.bmod value.toNat (2 ^ (64 : Nat))

def signedTotal (values : List UInt64) : Int :=
  (values.map signed).sum

def StaysInside (values : List UInt64) : Prop :=
  ∀ n, inInt64 (signedTotal (values.take n)) = true

theorem signedTotal_nil : signedTotal [] = 0 := rfl

theorem signedTotal_cons (value : UInt64) (rest : List UInt64) :
    signedTotal (value :: rest) = signed value + signedTotal rest := by
  rw [signedTotal, List.map_cons, List.sum_cons, signedTotal]

def addSigned? (sum : Int) (value : UInt64) : Option Int :=
  if inInt64 (sum + signed value) then some (sum + signed value) else none

theorem foldlM_addSigned?_eq_some_iff {values : List UInt64} {sum total : Int}
    (inside : inInt64 sum = true) :
    values.foldlM addSigned? sum = some total ↔
      (∀ n, inInt64 (sum + signedTotal (values.take n)) = true) ∧ total = sum + signedTotal values := by
  induction values generalizing sum with
  | nil =>
    simp only [List.foldlM_nil, List.take_nil, signedTotal_nil, Int.add_zero, inside, implies_true,
      true_and]
    exact ⟨fun equal => (Option.some.inj equal).symm, fun equal => congrArg some equal.symm⟩
  | cons value rest ih =>
    have parts : (∀ n, inInt64 (sum + signedTotal ((value :: rest).take n)) = true) ↔
        ∀ n, inInt64 (sum + signed value + signedTotal (rest.take n)) = true := by
      constructor
      next =>
        intro all n
        have part := all (n + 1)
        rwa [List.take_succ_cons, signedTotal_cons, ← Int.add_assoc] at part
      next =>
        rintro all (_ | n)
        · rwa [List.take_zero, signedTotal_nil, Int.add_zero]
        · rw [List.take_succ_cons, signedTotal_cons, ← Int.add_assoc]
          exact all n
    rw [List.foldlM_cons, parts, addSigned?, signedTotal_cons, ← Int.add_assoc]
    by_cases first : inInt64 (sum + signed value) = true
    next =>
      rw [if_pos first, Option.bind_eq_bind, Option.bind_some]
      exact ih first
    next =>
      rw [if_neg first]
      simp only [Option.bind_eq_bind, Option.bind_none, reduceCtorEq, false_iff]
      intro both
      have start := both.1 0
      rw [List.take_zero, signedTotal_nil, Int.add_zero] at start
      exact first start

theorem signedSum?_eq_some_iff {values : List UInt64} {total : Int} :
    signedSum? values = some total ↔ StaysInside values ∧ total = signedTotal values := by
  have start := @foldlM_addSigned?_eq_some_iff values 0 total (by decide)
  simp only [Int.zero_add] at start
  exact start

namespace Report

variable {address : String} {tx : Report}

-- what the transaction brings to the address can be told in signed words, and so can both of its
-- parts
structure HasRoom (address : String) (tx : Report) : Prop where
  received : StaysInside (tx.received address)
  spent : StaysInside (tx.spent address)
  change : inInt64 (signedTotal (tx.received address) - signedTotal (tx.spent address)) = true

theorem delta?_eq_some_iff {delta : Int} :
    tx.delta? address = some delta ↔ tx.HasRoom address ∧
      delta = signedTotal (tx.received address) - signedTotal (tx.spent address) := by
  simp only [delta?, Option.bind_eq_bind, Option.bind_eq_some_iff, signedSum?_eq_some_iff,
    Option.ite_none_right_eq_some, Option.some.injEq]
  constructor
  next =>
    rintro ⟨_, ⟨received, rfl⟩, _, ⟨spent, rfl⟩, change, rfl⟩
    exact ⟨⟨received, spent, change⟩, rfl⟩
  next =>
    rintro ⟨room, rfl⟩
    exact ⟨_, ⟨room.received, rfl⟩, _, ⟨room.spent, rfl⟩, room.change, rfl⟩

theorem delta?_eq_none_iff : tx.delta? address = none ↔ ¬ tx.HasRoom address := by
  rw [Option.eq_none_iff_forall_ne_some]
  constructor
  next => exact fun none room => none _ (delta?_eq_some_iff.mpr ⟨room, rfl⟩)
  next => exact fun full delta told => full (delta?_eq_some_iff.mp told).1

end Report

end Esplora

namespace ReportedTransaction

structure IsWord (entry : ReportedTransaction) : Prop where
  grid : Decimal.OnGrid 8 entry.balanceChange.toRat
  small : |entry.balanceChange.toRat| * 10 ^ 8 ≤ 2 ^ 63

theorem volume_cons (entry : ReportedTransaction) (rest : List ReportedTransaction) :
    volume (entry :: rest) = |entry.balanceChange.toRat| + volume rest := by
  simp [volume]

theorem volume_le {entries : List ReportedTransaction} (words : ∀ entry ∈ entries, entry.IsWord) :
    volume entries * 10 ^ 8 ≤ entries.length * 2 ^ 63 := by
  induction entries with
  | nil => simp [volume]
  | cons entry rest ih =>
    have here := (words entry List.mem_cons_self).small
    have there := ih fun other later => words other (List.mem_cons_of_mem entry later)
    rw [volume_cons, List.length_cons]
    push_cast
    linarith

end ReportedTransaction

namespace Esplora

theorem Report.isWord_of_toReported? {chain : Blockchain} (uses : chain.usesOutputs = true)
    {address : String} {tx : Report} {entry : ReportedTransaction}
    (told : tx.toReported? chain address = some entry) : entry.IsWord := by
  simp only [toReported?, Option.bind_eq_bind, Option.bind_eq_some_iff, Option.pure_def,
    Option.some.injEq] at told
  obtain ⟨delta, summed, change, held, rfl⟩ := told
  obtain ⟨room, rfl⟩ := delta?_eq_some_iff.mp summed
  rw [Blockchain.decimals_of_usesOutputs uses] at held
  have value := Decimal.toRat_of_ofScaled? held
  have inside := inInt64_iff.mp room.change
  generalize signedTotal (tx.received address) - signedTotal (tx.spent address) = delta at *
  have scaled : change.toRat * 10 ^ 8 = delta := by
    rw [value]
    exact div_mul_cancel₀ _ (by positivity)
  refine ⟨⟨delta, scaled⟩, ?_⟩
  have bound : |delta| ≤ 2 ^ (63 : Nat) := abs_le.mpr ⟨by omega, by omega⟩
  have same : |change.toRat| * 10 ^ 8 = |(delta : Rat)| := by
    rw [← scaled, abs_mul, abs_of_pos (by positivity : (0 : Rat) < 10 ^ 8)]
  rw [same]
  exact_mod_cast bound

theorem Report.toReported?_eq_none_iff {chain : Blockchain} (uses : chain.usesOutputs = true)
    {address : String} {tx : Report} :
    tx.toReported? chain address = none ↔ ¬ tx.HasRoom address := by
  rw [← delta?_eq_none_iff, toReported?, Blockchain.decimals_of_usesOutputs uses]
  cases summed : tx.delta? address with
  | none => simp
  | some delta =>
    obtain ⟨room, rfl⟩ := delta?_eq_some_iff.mp summed
    have inside := inInt64_iff.mp room.change
    generalize signedTotal (tx.received address) - signedTotal (tx.spent address) = delta at *
    have fits : ¬ 2 ^ (96 : Nat) ≤ delta.natAbs := by omega
    obtain ⟨change, held⟩ := Option.ne_none_iff_exists'.mp
      (mt (Decimal.ofScaled?_eq_none_iff (by decide : 8 ≤ 28)).mp fits)
    simp [show (8 : UInt32).toNat = 8 from rfl, held]

theorem exists_outputs {chain : Blockchain} (uses : chain.usesOutputs = true) (address : String)
    (unspent : List Unspent) :
    ∃ outputs, unspent.mapM (Unspent.toOutput chain address) = .ok outputs ∧
      outputs.length = unspent.length := by
  induction unspent with
  | nil => exact ⟨[], rfl, rfl⟩
  | cons u rest ih =>
    obtain ⟨outputs, there, length⟩ := ih
    have fits : ¬ 2 ^ (96 : Nat) ≤ (u.value.toNat : Int).natAbs := by
      have word := u.value.toNat_lt
      omega
    obtain ⟨amount, held⟩ := Option.ne_none_iff_exists'.mp
      (mt (Decimal.ofScaled?_eq_none_iff (by decide : 8 ≤ 28)).mp fits)
    have here : u.toOutput chain address =
        .ok { hash := u.txid, index := u.index, amount := amount, address := address } := by
      rw [Unspent.toOutput, Blockchain.decimals_of_usesOutputs uses, Decimal.ofBaseUnits?,
        show (8 : UInt32).toNat = 8 from rfl, held]
    refine ⟨{ hash := u.txid, index := u.index, amount := amount, address := address } :: outputs, ?_,
      by simp [length]⟩
    simp [List.mapM_cons, here, there, bind, Except.bind, pure, Except.pure]

variable {chain : Blockchain} {address : String} {report : AddressReport} {unspent : List Unspent}
  {txs : List Report}

theorem addressInfo_eq_overflow_iff (uses : chain.usesOutputs = true)
    (few : unspent.length < 2 ^ (32 : Nat)) :
    addressInfo chain address report unspent txs = .error .overflow ↔
      ∃ tx ∈ txs, ¬ tx.HasRoom address := by
  obtain ⟨outputs, read, length⟩ := exists_outputs uses address unspent
  obtain ⟨balance, summed, _⟩ := Tally.sum? (isWord_of_mapM uses read) (length ▸ few)
  have none : txs.mapM (Report.toReported? chain address) = none ↔
      ∃ tx ∈ txs, ¬ tx.HasRoom address := by
    simp only [mapM_eq_none_iff, Report.toReported?_eq_none_iff uses]
  rw [← none]
  simp only [addressInfo, read, Outcome.ofExcept, bind, Except.bind, summed, Outcome.ofOption]
  cases txs.mapM (Report.toReported? chain address) <;> simp [pure, Except.pure]

end Esplora

structure AddressInfo.InWords (info : AddressInfo) : Prop where
  tally : Tally info.unspentOutputs info.balance
  words : ∀ entry ∈ info.history, entry.IsWord

namespace Esplora

structure Told (unspent : List Unspent) (txs : List Report) (info : AddressInfo) : Prop where
  inWords : info.InWords
  outputs : info.unspentOutputs.length = unspent.length
  history : info.history.length = txs.length

theorem told_of_addressInfo {chain : Blockchain} (uses : chain.usesOutputs = true) {address : String}
    {report : AddressReport} {unspent : List Unspent} {txs : List Report} {info : AddressInfo}
    (told : addressInfo chain address report unspent txs = .ok info) : Told unspent txs info := by
  have tally := tally_addressInfo uses told
  obtain ⟨outputs, read, length⟩ := exists_outputs uses address unspent
  simp only [addressInfo, read, Outcome.bind_eq_ok_iff, Outcome.ofExcept_eq_ok_iff,
    Outcome.ofOption_eq_ok_iff, mapM_eq_some_iff] at told
  obtain ⟨_, same, balance, _, history, entries, result⟩ := told
  cases same
  cases result
  refine ⟨⟨tally, fun entry member => ?_⟩, length, entries.length_eq.symm⟩
  obtain ⟨tx, _, told⟩ := exists_mem_of_mem entries.flip member
  exact Report.isWord_of_toReported? uses told

end Esplora

namespace AddressInfo

open ReportedTransaction

theorem exists_combine?_of_lt {known tx : ReportedTransaction}
    (grid : Decimal.OnGrid 8 known.balanceChange.toRat)
    (other : Decimal.OnGrid 8 tx.balanceChange.toRat)
    (small : (|known.balanceChange.toRat| + |tx.balanceChange.toRat|) * 10 ^ 8 < 2 ^ 96) :
    ∃ entry, combine? known tx = some entry ∧ Decimal.OnGrid 8 entry.balanceChange.toRat ∧
      |entry.balanceChange.toRat| ≤ |known.balanceChange.toRat| + |tx.balanceChange.toRat| := by
  have triangle := abs_add_le known.balanceChange.toRat tx.balanceChange.toRat
  have bound : |known.balanceChange.toRat + tx.balanceChange.toRat| * 10 ^ 8 < 2 ^ 96 := by linarith
  obtain ⟨change, added, value⟩ := Decimal.add?_exact (grid.add other) bound
  simp only [combine?, added, Option.bind_eq_bind, Option.bind_some, Option.pure_def,
    Option.some.injEq, exists_eq_left', value]
  exact ⟨grid.add other, triangle⟩

-- the volume bounds every sum on the way, whichever reports are of one transaction
theorem exists_addReport?_of_lt {tx : ReportedTransaction} {history : List ReportedTransaction}
    (grids : ∀ entry ∈ history, Decimal.OnGrid 8 entry.balanceChange.toRat)
    (grid : Decimal.OnGrid 8 tx.balanceChange.toRat)
    (small : (volume history + |tx.balanceChange.toRat|) * 10 ^ 8 < 2 ^ 96) :
    ∃ next, addReport? tx history = some next ∧
      (∀ entry ∈ next, Decimal.OnGrid 8 entry.balanceChange.toRat) ∧
      volume next ≤ volume history + |tx.balanceChange.toRat| := by
  induction history with
  | nil => exact ⟨_, rfl, by simpa using grid, by simp [volume]⟩
  | cons known rest ih =>
    have first := grids known List.mem_cons_self
    have others : ∀ entry ∈ rest, Decimal.OnGrid 8 entry.balanceChange.toRat := fun entry later =>
      grids entry (List.mem_cons_of_mem known later)
    have nonneg := abs_nonneg known.balanceChange.toRat
    have more := volume_nonneg rest
    rw [volume_cons] at small ⊢
    by_cases same : Text.sameIgnoringCase known.hash tx.hash = true
    next =>
      obtain ⟨entry, combined, there, bound⟩ := exists_combine?_of_lt first grid (by linarith)
      refine ⟨entry :: rest, by simp only [addReport?, same, if_true, combined, Option.map_some], ?_, ?_⟩
      · simpa [there] using others
      · rw [volume_cons]
        linarith
    next =>
      obtain ⟨next, added, there, bound⟩ := ih others (by linarith)
      refine ⟨known :: next, by simp [addReport?, same, added], ?_, ?_⟩
      · simpa [first] using there
      · rw [volume_cons]
        linarith

theorem exists_foldlM_addReport? {reports history : List ReportedTransaction}
    (grids : ∀ entry ∈ history, Decimal.OnGrid 8 entry.balanceChange.toRat)
    (others : ∀ tx ∈ reports, Decimal.OnGrid 8 tx.balanceChange.toRat)
    (small : (volume history + volume reports) * 10 ^ 8 < 2 ^ 96) :
    ∃ all, reports.foldlM (fun txs tx => addReport? tx txs) history = some all := by
  induction reports generalizing history with
  | nil => exact ⟨history, rfl⟩
  | cons tx rest ih =>
    have more := volume_nonneg rest
    rw [volume_cons] at small
    obtain ⟨next, added, there, bound⟩ :=
      exists_addReport?_of_lt grids (others tx List.mem_cons_self) (by linarith)
    obtain ⟨all, folded⟩ :=
      ih there (fun other later => others other (List.mem_cons_of_mem tx later)) (by linarith)
    exact ⟨all, by simp [added, folded]⟩

theorem units_balances {infos : List AddressInfo} (inWords : ∀ info ∈ infos, info.InWords)
    (few : ∀ info ∈ infos, info.unspentOutputs.length < 2 ^ (32 : Nat)) :
    ((infos.map (·.balance)).map (Decimal.units 8)).sum =
      UnspentOutput.total (infos.flatMap (·.unspentOutputs)) := by
  induction infos with
  | nil => rfl
  | cons info rest ih =>
    have here := (inWords info List.mem_cons_self).tally.units (few info List.mem_cons_self)
    have there := ih (fun other later => inWords other (List.mem_cons_of_mem info later))
      (fun other later => few other (List.mem_cons_of_mem info later))
    rw [List.flatMap_cons, UnspentOutput.total_append, List.map_cons, List.map_cons, List.sum_cons,
      here, there]

theorem exists_sum?_balances {infos : List AddressInfo} (inWords : ∀ info ∈ infos, info.InWords)
    (few : (infos.flatMap (·.unspentOutputs)).length < 2 ^ (32 : Nat)) :
    ∃ balance, Decimal.sum? (infos.map (·.balance)) = some balance := by
  have each : ∀ info ∈ infos, info.unspentOutputs.length < 2 ^ (32 : Nat) := by
    intro info member
    obtain ⟨before, after, rfl⟩ := List.append_of_mem member
    simp only [List.flatMap_append, List.flatMap_cons, List.length_append] at few
    omega
  have whole : ∀ d ∈ infos.map (·.balance), d.Whole 8 := by
    intro d member
    obtain ⟨info, present, rfl⟩ := List.mem_map.mp member
    exact (inWords info present).tally.whole (each info present)
  have words : ∀ output ∈ infos.flatMap (·.unspentOutputs), output.IsWord := by
    intro output member
    obtain ⟨info, present, held⟩ := List.mem_flatMap.mp member
    exact (inWords info present).tally.words output held
  have room := UnspentOutput.total_lt words few
  rw [← units_balances inWords each] at room
  obtain ⟨balance, summed, _⟩ := Decimal.Whole.sum? whole (by decide) room
  exact ⟨balance, summed⟩

theorem exists_merge?_of_lt {infos : List AddressInfo} (inWords : ∀ info ∈ infos, info.InWords)
    (outputs : (infos.flatMap (·.unspentOutputs)).length < 2 ^ (32 : Nat))
    (reports : (infos.flatMap (·.history)).length < 2 ^ (32 : Nat)) :
    ∃ merged, merge? infos = some merged := by
  have words : ∀ entry ∈ infos.flatMap (·.history), entry.IsWord := by
    intro entry member
    obtain ⟨info, present, listed⟩ := List.mem_flatMap.mp member
    exact (inWords info present).words entry listed
  have small : volume (infos.flatMap (·.history)) * 10 ^ 8 < 2 ^ 96 := by
    have bound := volume_le words
    have few : ((infos.flatMap (·.history)).length : Rat) < 2 ^ 32 := by exact_mod_cast reports
    linarith
  obtain ⟨history, folded⟩ := @exists_foldlM_addReport? (infos.flatMap (·.history)) [] (by simp)
    (fun entry member => (words entry member).grid) (by simpa [volume] using small)
  obtain ⟨balance, summed⟩ := exists_sum?_balances inWords outputs
  rw [merge?, foldlM_absorb?]
  rw [Decimal.sum?] at summed
  exact ⟨_, by simp only [empty, summed, folded, Option.bind_some, Option.map_some]; rfl⟩

end AddressInfo

namespace Utxo

theorem sumCounts?_eq_some_iff {counts : List UInt64} {total : UInt64} :
    sumCounts? counts = some total ↔ total.toNat = (counts.map UInt64.toNat).sum := by
  simp only [sumCounts?, Option.ite_none_right_eq_some, Option.some.injEq]
  constructor
  next =>
    rintro ⟨small, rfl⟩
    exact UInt64.toNat_ofNat_of_lt' small
  next =>
    intro equal
    rw [← equal]
    exact ⟨total.toNat_lt, UInt64.ofNat_toNat⟩

theorem sumCounts?_eq_none_iff {counts : List UInt64} :
    sumCounts? counts = none ↔ 2 ^ (64 : Nat) ≤ (counts.map UInt64.toNat).sum := by
  simp [sumCounts?]

end Utxo

namespace Esplora

def AddressReport.spent (report : AddressReport) : Nat :=
  report.confirmed.spentOutputs.toNat + report.pending.spentOutputs.toNat

theorem signatureCount_eq_some_iff {report : AddressReport} {count : UInt64} :
    signatureCount report = some count ↔ count.toNat = report.spent := by
  simp [signatureCount, Utxo.sumCounts?_eq_some_iff, AddressReport.spent]

theorem signatureCount_eq_none_iff {report : AddressReport} :
    signatureCount report = none ↔ 2 ^ (64 : Nat) ≤ report.spent := by
  simp [signatureCount, Utxo.sumCounts?_eq_none_iff, AddressReport.spent]

def Estimates.Dear (estimates : Estimates) (target : String) : Prop :=
  ∃ perByte, (estimates.find? target).bind ofNumber? = some perByte ∧
    2 ^ 96 - 1 / 2 ≤ |perByte.toRat| * 1024

theorem rate_eq_overflow_iff {chain : Blockchain} {estimates : Estimates} {target : String} :
    rate chain estimates target = .error .overflow ↔ estimates.Dear target := by
  unfold rate Estimates.Dear
  cases found : estimates.find? target with
  | none => simp [Outcome.fail]
  | some n =>
    rw [Option.bind_some]
    simp only
    cases ofNumber? n with
    | none => simp [Outcome.fail]
    | some perByte =>
      have product := @Decimal.mul?_eq_none_iff perByte SizeFee.kilobyte
      rw [SizeFee.toRat_kilobyte, abs_mul, abs_of_pos (by norm_num : (0 : Rat) < 1024)] at product
      simp only [Outcome.ofOption_eq_overflow_iff, Option.some.injEq, exists_eq_left', ← product]
      cases perByte.mul? SizeFee.kilobyte with
      | none => simp
      | some perKilobyte =>
        obtain ⟨shifted, found⟩ := perKilobyte.shiftLeft?_isSome chain.decimals_le
        simp [found]

theorem exists_dear_of_rates {chain : Blockchain} {estimates : Estimates}
    (overflows : rates chain estimates = .error .overflow) :
    ∃ target ∈ [day, hour, nextBlock], estimates.Dear target := by
  simp only [rates, Outcome.bind_eq_error_iff] at overflows
  rcases overflows with first | ⟨_, _, second | ⟨_, _, third | ⟨_, _, result⟩⟩⟩
  · exact ⟨day, by simp, rate_eq_overflow_iff.mp first⟩
  · exact ⟨hour, by simp, rate_eq_overflow_iff.mp second⟩
  · exact ⟨nextBlock, by simp, rate_eq_overflow_iff.mp third⟩
  · cases result

end Esplora

namespace Utxo

theorem exists_sizeDraft? {amount : Amount} (places : amount.decimals = 8)
    (moderate : |amount.value.toRat| < 10 ^ 18) (chain : Blockchain) (w : Wallet)
    (destination : String) (now : Timestamp) :
    ∃ draft, sizeDraft? chain w amount destination now = some draft := by
  let unit : Decimal := .unit 8
  have found : amount.baseUnit? = some unit := by
    rw [Amount.baseUnit?, places]
    decide
  have value : |unit.neg.toRat| ≤ 1 := by
    rw [Decimal.toRat_eq_div]
    norm_num [unit, Decimal.unit, Decimal.neg]
  have room : amount.value.sub? unit ≠ none := by
    rw [Decimal.sub?, ne_eq, Decimal.add?_eq_none_iff]
    have triangle := abs_add_le amount.value.toRat unit.neg.toRat
    norm_num at moderate ⊢
    linarith
  obtain ⟨rest, left⟩ := Option.ne_none_iff_exists'.mp room
  exact ⟨_, by simp [sizeDraft?, found, left]; rfl⟩

theorem offerAt_ne_overflow {amount : Amount} (places : amount.decimals = 8)
    (moderate : |amount.value.toRat| < 10 ^ 18) (chain : Blockchain) (params : UtxoParams)
    (builder : Builder) (w : Wallet) (destination : String) (now : Timestamp) (rates : FeeRates) :
    offerAt chain params builder w amount destination now rates ≠ .error .overflow := by
  obtain ⟨draft, made⟩ := exists_sizeDraft? places moderate chain w destination now
  rw [offerAt, made]
  intro overflows
  simp only [Outcome.bind_eq_error_iff] at overflows
  rcases overflows with drafted | ⟨_, _, sized | ⟨_, _, priced⟩⟩
  · cases drafted
  · exact Outcome.ofExcept_ne_overflow _ _ sized
  · exact Outcome.ofExcept_ne_overflow _ _ priced

end Utxo

end CoinWallet
