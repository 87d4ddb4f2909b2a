import CoinWallet.Proofs.Utxo.Balance
import CoinWallet.Proofs.Utxo.Merge

set_option autoImplicit false

namespace CoinWallet.Esplora

-- powers and sums are those of the core library
attribute [local instance (high)] instPowNat Zero.ofOfNat0

namespace Output

def total (outputs : List Output) : Nat :=
  (outputs.map (·.value.toNat)).sum

def paysAny (addresses : List String) (o : Output) : Bool :=
  addresses.any fun address => o.pays address

theorem total_filter_or {p q : Output → Bool} {outputs : List Output}
    (apart : ∀ o ∈ outputs, p o = true → q o = false) :
    total (outputs.filter fun o => p o || q o) =
      total (outputs.filter p) + total (outputs.filter q) := by
  induction outputs with
  | nil => rfl
  | cons o rest ih =>
    have there := ih fun other later => apart other (List.mem_cons_of_mem o later)
    by_cases first : p o = true
    next =>
      have second := apart o List.mem_cons_self first
      simp only [total] at there
      simp [total, first, second, there]
      omega
    next =>
      by_cases second : q o = true <;> simp only [total] at there <;>
        simp [total, first, second, there]
      omega

theorem total_filter_not (p : Output → Bool) (outputs : List Output) :
    total (outputs.filter p) + total (outputs.filter fun o => !p o) = total outputs := by
  have split : total (outputs.filter fun o => p o || !p o) =
      total (outputs.filter p) + total (outputs.filter fun o => !p o) := total_filter_or (by simp)
  simpa using split.symm

theorem total_filter_le (p : Output → Bool) (outputs : List Output) :
    total (outputs.filter p) ≤ total outputs := by
  have split := total_filter_not p outputs
  omega

-- an output pays one address at most, so none of it is counted twice
theorem sum_total_pays {addresses : List String} (distinct : addresses.Nodup)
    (outputs : List Output) :
    (addresses.map fun address => total (outputs.filter (pays address))).sum =
      total (outputs.filter (paysAny addresses)) := by
  induction addresses with
  | nil => simp [show paysAny [] = fun _ => false from rfl, total]
  | cons address rest ih =>
    obtain ⟨fresh, distinct⟩ := List.nodup_cons.mp distinct
    have apart : ∀ o ∈ outputs, pays address o = true → paysAny rest o = false := by
      intro o _ here
      simp only [pays, beq_iff_eq] at here
      simp only [paysAny, List.any_eq_false, pays, here, beq_iff_eq, Option.some.injEq]
      rintro other member rfl
      exact fresh member
    rw [List.map_cons, List.sum_cons, ih distinct, ← total_filter_or apart]
    rfl

end Output

theorem inInt64_iff {n : Int} :
    inInt64 n = true ↔ -2 ^ (63 : Nat) ≤ n ∧ n < 2 ^ (63 : Nat) := by
  simp [inInt64]

theorem signedSum?_of_lt {values : List UInt64}
    (small : (values.map (·.toNat)).sum < 2 ^ (63 : Nat)) :
    signedSum? values = some ((values.map (·.toNat)).sum : Nat) := by
  suffices from_sum : ∀ sum : Nat, sum + (values.map (·.toNat)).sum < 2 ^ (63 : Nat) →
      values.foldlM
        (fun (sum : Int) value =>
          if inInt64 (sum + Int.bmod value.toNat (2 ^ (64 : Nat))) then
            some (sum + Int.bmod value.toNat (2 ^ (64 : Nat)))
          else none) (sum : Int) =
        some ((sum + (values.map (·.toNat)).sum : Nat) : Int) by
    simpa [signedSum?] using from_sum 0 (by omega)
  clear small
  induction values with
  | nil => simp
  | cons value rest ih =>
    intro sum small
    rw [List.map_cons, List.sum_cons] at small ⊢
    have word : Int.bmod value.toNat (2 ^ (64 : Nat)) = value.toNat := by
      rw [Int.bmod_eq_of_le_mul_two] <;> omega
    have inside : inInt64 ((sum + value.toNat : Nat) : Int) = true := by
      rw [inInt64_iff]
      omega
    have next := ih (sum + value.toNat) (by omega)
    rw [List.foldlM_cons, word, ← Nat.cast_add, if_pos inside, ← Nat.add_assoc]
    exact next

namespace Report

-- the outputs that the transaction spends, as far as they are known
def spends (tx : Report) : List Output :=
  tx.inputs.filterMap id

def mentions (address : String) (tx : Report) : Bool :=
  tx.outputs.any (Output.pays address) || tx.spends.any (Output.pays address)

def touches (addresses : List String) (tx : Report) : Bool :=
  addresses.any fun address => tx.mentions address

def effect (own : Output → Bool) (tx : Report) : Int :=
  Output.total (tx.outputs.filter own) - Output.total (tx.spends.filter own)

def fee (tx : Report) : Int :=
  Output.total tx.spends - Output.total tx.outputs

theorem effect_eq_neg {own : Output → Bool} {tx : Report} (all : ∀ o ∈ tx.spends, own o = true) :
    tx.effect own = -(tx.fee + Output.total (tx.outputs.filter fun o => !own o)) := by
  have split := Output.total_filter_not own tx.outputs
  have spent : tx.spends.filter own = tx.spends := List.filter_eq_self.mpr all
  simp only [effect, fee, spent]
  omega

theorem effect_of_not_mentions {address : String} {tx : Report}
    (silent : tx.mentions address = false) : tx.effect (Output.pays address) = 0 := by
  simp only [mentions, Bool.or_eq_false_iff, List.any_eq_false] at silent
  obtain ⟨outputs, spends⟩ := silent
  rw [effect, List.filter_eq_nil_iff.mpr outputs, List.filter_eq_nil_iff.mpr spends]
  rfl

theorem sum_effect {addresses : List String} (distinct : addresses.Nodup) (tx : Report) :
    (addresses.map fun address => tx.effect (Output.pays address)).sum =
      tx.effect (Output.paysAny addresses) := by
  rw [effect, ← Output.sum_total_pays distinct, ← Output.sum_total_pays distinct]
  clear distinct
  induction addresses with
  | nil => rfl
  | cons address rest ih =>
    rw [List.map_cons, List.sum_cons, ih, effect]
    simp only [List.map_cons, List.sum_cons]
    omega

theorem sum_abs_effect_le {addresses : List String} (distinct : addresses.Nodup) (tx : Report) :
    (addresses.map fun address => |tx.effect (Output.pays address)|).sum ≤
      Output.total tx.outputs + Output.total tx.spends := by
  have outputs := Output.total_filter_le (Output.paysAny addresses) tx.outputs
  have spends := Output.total_filter_le (Output.paysAny addresses) tx.spends
  rw [← Output.sum_total_pays distinct] at outputs spends
  refine Int.le_trans ?_ (Int.add_le_add (Int.ofNat_le.mpr outputs) (Int.ofNat_le.mpr spends))
  clear distinct outputs spends
  induction addresses with
  | nil => simp
  | cons address rest ih =>
    have part : |tx.effect (Output.pays address)| ≤
        Output.total (tx.outputs.filter (Output.pays address)) +
          Output.total (tx.spends.filter (Output.pays address)) := by
      rw [abs_le, effect]
      omega
    simp only [List.map_cons, List.sum_cons] at ih ⊢
    omega

theorem delta?_of_lt {tx : Report} (paid : Output.total tx.outputs < 2 ^ (63 : Nat))
    (taken : Output.total tx.spends < 2 ^ (63 : Nat)) (address : String) :
    tx.delta? address = some (tx.effect (Output.pays address)) := by
  have sum (list : List Output) (small : Output.total list < 2 ^ (63 : Nat)) :
      signedSum? ((list.filter (Output.pays address)).map (·.value)) =
        some (Output.total (list.filter (Output.pays address)) : Nat) := by
    have part := Output.total_filter_le (Output.pays address) list
    have words : (((list.filter (Output.pays address)).map (·.value)).map (·.toNat)).sum =
        Output.total (list.filter (Output.pays address)) := by
      simp [Output.total, Function.comp_def]
    rw [signedSum?_of_lt (by omega), words]
  have inside : inInt64 (tx.effect (Output.pays address)) = true := by
    have more := Output.total_filter_le (Output.pays address) tx.outputs
    have less := Output.total_filter_le (Output.pays address) tx.spends
    rw [inInt64_iff, effect]
    omega
  have outputs := sum tx.outputs paid
  have spends := sum tx.spends taken
  simp only [delta?, received, spent, outputs, Option.bind_eq_bind, Option.bind_some]
  rw [← Report.spends, spends]
  exact if_pos inside

structure ToldBy (address : String) (tx : Report) (entry : ReportedTransaction) : Prop where
  hash : entry.hash = tx.txid
  change : entry.balanceChange.toRat * 10 ^ 8 = tx.effect (Output.pays address)

theorem exists_toReported? {chain : Blockchain} (uses : chain.usesOutputs = true) {tx : Report}
    (paid : Output.total tx.outputs < 2 ^ (63 : Nat))
    (taken : Output.total tx.spends < 2 ^ (63 : Nat)) (address : String) :
    ∃ entry, tx.toReported? chain address = some entry ∧ ToldBy address tx entry := by
  have fits : (tx.effect (Output.pays address)).natAbs < 2 ^ (96 : Nat) := by
    have more := Output.total_filter_le (Output.pays address) tx.outputs
    have less := Output.total_filter_le (Output.pays address) tx.spends
    rw [effect]
    omega
  obtain ⟨change, held⟩ := Option.ne_none_iff_exists'.mp
    (mt (Decimal.ofScaled?_eq_none_iff (by decide : 8 ≤ 28)).mp (Nat.not_le.mpr fits))
  have read : tx.toReported? chain address = some
      { balanceChange := change
        hash := tx.txid
        date := tx.blockTime.bind Timestamp.ofSeconds?
        isConfirmed := tx.isConfirmed
        source := (tx.inputs.filterMap id).findSome? (·.address)
        destination := tx.outputs.findSome? (·.address) } := by
    rw [toReported?, delta?_of_lt paid taken, Blockchain.decimals_of_usesOutputs uses]
    simp [show (8 : UInt32).toNat = 8 from rfl, held]
  refine ⟨_, read, rfl, ?_⟩
  simp only [Decimal.toRat_of_ofScaled? held]
  field_simp

theorem sum_filter_of_eq_zero {α : Type} {p : α → Bool} {value : α → Rat} {xs : List α}
    (none : ∀ x ∈ xs, p x = false → value x = 0) :
    ((xs.filter p).map value).sum = (xs.map value).sum := by
  induction xs with
  | nil => rfl
  | cons x rest ih =>
    have there := ih fun other later => none other (List.mem_cons_of_mem x later)
    cases here : p x with
    | true => simp [here, there]
    | false => simp [here, there, none x List.mem_cons_self here]

theorem filter_sameHash {txs : List Report}
    (apart : (txs.map fun tx => Text.asciiFold tx.txid).Nodup) {tx : Report} (member : tx ∈ txs)
    {hash : String} (same : Text.asciiFold tx.txid = Text.asciiFold hash) :
    txs.filter (fun other => Text.sameIgnoringCase other.txid hash) = [tx] := by
  apply filter_eq_singleton apart member
  intro other
  rw [Text.sameIgnoringCase_iff, same]

end Report

open ReportedTransaction (ofHash)

theorem sum_ofHash_of_told {address : String} {txs : List Report}
    {history : List ReportedTransaction} (entries : List.Forall₂ (Report.ToldBy address) txs history)
    (hash : String) (weight : Rat → Rat) :
    ((ofHash history hash).map fun entry => weight (entry.balanceChange.toRat * 10 ^ 8)).sum =
      ((txs.filter fun tx => Text.sameIgnoringCase tx.txid hash).map fun tx =>
        weight (tx.effect (Output.pays address))).sum := by
  induction entries with
  | nil => rfl
  | @cons tx entry txs history here rest ih =>
    simp only [ofHash] at ih
    by_cases same : Text.asciiFold tx.txid = Text.asciiFold hash
    next => simp [ofHash, here.hash, same, here.change, ih]
    next => simp [ofHash, here.hash, same, ih]

section Told

variable {addresses : List String} {txs : List Report} {told : String → List Report}
  {histories : List (List ReportedTransaction)}
  (complete : ∀ a ∈ addresses, (told a).Perm (txs.filter (Report.mentions a)))
  (entries : List.Forall₂ (fun a => List.Forall₂ (Report.ToldBy a) (told a)) addresses histories)

include complete entries

theorem sum_ofHash_flatten (weight : Rat → Rat) (zero : weight 0 = 0) (hash : String) :
    ((ofHash histories.flatten hash).map fun entry =>
        weight (entry.balanceChange.toRat * 10 ^ 8)).sum =
      (addresses.map fun a => ((txs.filter fun tx => Text.sameIgnoringCase tx.txid hash).map fun tx =>
        weight (tx.effect (Output.pays a))).sum).sum := by
  induction entries with
  | nil => rfl
  | @cons address history addresses histories here rest ih =>
    have there := ih fun a later => complete a (List.mem_cons_of_mem address later)
    have perm := (complete address List.mem_cons_self).filter
      fun tx => Text.sameIgnoringCase tx.txid hash
    have silent : ∀ tx ∈ txs.filter (fun tx => Text.sameIgnoringCase tx.txid hash),
        tx.mentions address = false → weight (tx.effect (Output.pays address)) = 0 := by
      intro tx _ silent
      rw [Report.effect_of_not_mentions silent, Int.cast_zero, zero]
    have swap : (txs.filter (Report.mentions address)).filter
          (fun tx => Text.sameIgnoringCase tx.txid hash) =
        (txs.filter fun tx => Text.sameIgnoringCase tx.txid hash).filter
          (Report.mentions address) := by
      simp [List.filter_filter, Bool.and_comm]
    rw [swap] at perm
    have part := (sum_ofHash_of_told here hash weight).trans
      ((perm.map _).sum_eq.trans (Report.sum_filter_of_eq_zero silent))
    simp only [ofHash] at there part ⊢
    rw [List.flatten_cons, List.filter_append, List.map_append, List.sum_append, List.map_cons,
      List.sum_cons, part, there]

theorem exists_tx_of_mem {entry : ReportedTransaction} (member : entry ∈ histories.flatten) :
    ∃ tx ∈ txs, ∃ a ∈ addresses, tx.mentions a = true ∧ Report.ToldBy a tx entry := by
  obtain ⟨history, present, member⟩ := List.mem_flatten.mp member
  obtain ⟨a, known, parts⟩ := exists_mem_of_mem entries.flip present
  obtain ⟨tx, reported, part⟩ := exists_mem_of_mem parts.flip member
  obtain ⟨reported, mentions⟩ := List.mem_filter.mp ((complete a known).mem_iff.mp reported)
  exact ⟨tx, reported, a, known, mentions, part⟩

theorem exists_entry_of_touches {tx : Report} (member : tx ∈ txs)
    (touches : tx.touches addresses = true) :
    ∃ entry ∈ histories.flatten, entry.hash = tx.txid := by
  obtain ⟨a, known, mentions⟩ := List.any_eq_true.mp touches
  have reported := (complete a known).mem_iff.mpr (List.mem_filter.mpr ⟨member, mentions⟩)
  obtain ⟨history, present, parts⟩ := exists_mem_of_mem entries known
  obtain ⟨entry, there, part⟩ := exists_mem_of_mem parts reported
  exact ⟨entry, List.mem_flatten.mpr ⟨history, present, there⟩, part.hash⟩

theorem summable_of_told (distinct : addresses.Nodup)
    (apart : (txs.map fun tx => Text.asciiFold tx.txid).Nodup)
    (small : ∀ tx ∈ txs,
      Output.total tx.outputs < 2 ^ (63 : Nat) ∧ Output.total tx.spends < 2 ^ (63 : Nat)) :
    ReportedTransaction.Summable 8 histories.flatten where
  grid entry member := by
    obtain ⟨tx, _, a, _, _, part⟩ := exists_tx_of_mem complete entries member
    exact ⟨tx.effect (Output.pays a), part.change⟩
  small hash := by
    have parts := sum_ofHash_flatten complete entries (fun x => |x|) abs_zero hash
    have volume : ReportedTransaction.volume (ofHash histories.flatten hash) * 10 ^ 8 =
        ((ofHash histories.flatten hash).map fun entry =>
          |entry.balanceChange.toRat * 10 ^ 8|).sum := by
      simp only [ReportedTransaction.volume, abs_mul, List.sum_map_mul_right]
      norm_num
    rw [volume, parts]
    by_cases known : ∃ tx ∈ txs, Text.asciiFold tx.txid = Text.asciiFold hash
    next =>
      obtain ⟨tx, member, same⟩ := known
      have bound := Report.sum_abs_effect_le distinct tx
      have room := small tx member
      have cast : (addresses.map fun a => |(tx.effect (Output.pays a) : Rat)|).sum =
          ((addresses.map fun a => |tx.effect (Output.pays a)|).sum : Int) := by
        simp [Int.cast_list_sum, Function.comp_def]
      simp only [Report.filter_sameHash apart member same, List.map_singleton, List.sum_singleton,
        cast]
      have total : (addresses.map fun a => |tx.effect (Output.pays a)|).sum < 2 ^ (96 : Nat) := by
        omega
      exact_mod_cast total
    next =>
      have unknown : txs.filter (fun tx => Text.sameIgnoringCase tx.txid hash) = [] := by
        refine List.filter_eq_nil_iff.mpr fun tx member same => known ⟨tx, member, ?_⟩
        exact (Text.sameIgnoringCase_iff _ _).mp same
      simp [unknown]

theorem change_of_merged (distinct : addresses.Nodup)
    (apart : (txs.map fun tx => Text.asciiFold tx.txid).Nodup)
    {history : List ReportedTransaction} (merged : AddressInfo.Merged histories.flatten history)
    {entry : ReportedTransaction} (present : entry ∈ history) {tx : Report} (member : tx ∈ txs)
    (same : Text.asciiFold tx.txid = Text.asciiFold entry.hash) :
    entry.balanceChange.toRat * 10 ^ 8 = tx.effect (Output.paysAny addresses) := by
  have parts := sum_ofHash_flatten complete entries id rfl entry.hash
  simp only [id_eq, Report.filter_sameHash apart member same, List.map_singleton,
    List.sum_singleton, List.sum_map_mul_right] at parts
  rw [(merged.gathers entry present).change, parts, ← Report.sum_effect distinct]
  simp [Int.cast_list_sum, Function.comp_def]

end Told

/-- Every transaction that touches a wallet has one entry when what its addresses are told is
merged, and the entry tells what the transaction brings to the wallet as a whole. -/
theorem effect_of_merge {chain : Blockchain} (uses : chain.usesOutputs = true)
    {addresses : List String} (distinct : addresses.Nodup) {txs : List Report}
    (ascii : ∀ tx ∈ txs, Text.isAscii tx.txid = true)
    (apart : (txs.map fun tx => Text.asciiFold tx.txid).Nodup)
    (small : ∀ tx ∈ txs,
      Output.total tx.outputs < 2 ^ (63 : Nat) ∧ Output.total tx.spends < 2 ^ (63 : Nat))
    {told : String → List Report}
    (complete : ∀ a ∈ addresses, (told a).Perm (txs.filter (Report.mentions a))) :
    ∃ histories,
      addresses.mapM (fun a => (told a).mapM (Report.toReported? chain a)) = some histories ∧
      (∀ infos : List AddressInfo, infos.map (·.history) = histories →
        ∀ balance, Decimal.sum? (infos.map (·.balance)) = some balance →
        ∃ merged, AddressInfo.merge? infos = some merged ∧
          (merged.history.map fun entry => (entry.hash, entry.balanceChange.toRat * 10 ^ 8)).Perm
            ((txs.filter (Report.touches addresses)).map fun tx =>
              (Text.lower tx.txid, (tx.effect (Output.paysAny addresses) : Rat)))) ∧
      ∀ tx ∈ txs, (∀ o ∈ tx.spends, o.paysAny addresses = true) →
        tx.effect (Output.paysAny addresses) =
          -(tx.fee + Output.total (tx.outputs.filter fun o => !o.paysAny addresses)) := by
  have reads : ∀ a ∈ addresses, ∃ history,
      (told a).mapM (Report.toReported? chain a) = some history ∧
        List.Forall₂ (Report.ToldBy a) (told a) history := by
    intro a known
    refine exists_mapM fun tx reported => ?_
    have member := (List.mem_filter.mp ((complete a known).mem_iff.mp reported)).1
    exact Report.exists_toReported? uses (small tx member).1 (small tx member).2 a
  obtain ⟨histories, read, entries⟩ := exists_mapM reads
  refine ⟨histories, read, ?_, fun tx _ own => Report.effect_eq_neg own⟩
  intro infos same balance summed
  have reports : infos.flatMap (·.history) = histories.flatten := by
    rw [List.flatMap_def, same]
  have plain : ∀ entry ∈ infos.flatMap (·.history), Text.isAscii entry.hash = true := by
    intro entry member
    rw [reports] at member
    obtain ⟨tx, known, _, _, _, part⟩ := exists_tx_of_mem complete entries member
    exact part.hash ▸ ascii tx known
  have summable : ReportedTransaction.Summable 8 (infos.flatMap (·.history)) :=
    reports ▸ summable_of_told complete entries distinct apart small
  obtain ⟨merged, found, _, gathered⟩ := AddressInfo.exists_merge? summed plain summable
  rw [reports] at gathered
  refine ⟨merged, found, ?_⟩
  -- an entry and a transaction of one hash tell the same
  have agree {entry : ReportedTransaction} (present : entry ∈ merged.history) {tx : Report}
      (member : tx ∈ txs) (hash : entry.hash = Text.lower tx.txid) :
      entry.balanceChange.toRat * 10 ^ 8 = tx.effect (Output.paysAny addresses) := by
    refine change_of_merged complete entries distinct apart gathered present member ?_
    rw [hash, Text.asciiFold_lower (ascii tx member)]
  have once : ((txs.filter (Report.touches addresses)).map fun tx => Text.lower tx.txid).Nodup := by
    refine List.Nodup.map_on (fun tx here other there equal => ?_)
      ((List.Nodup.of_map _ apart).filter _)
    have left := List.mem_of_mem_filter here
    have right := List.mem_of_mem_filter there
    rw [Text.lower_eq_iff (ascii tx left) (ascii other right)] at equal
    exact List.inj_on_of_nodup_map apart left right equal
  refine (List.perm_ext_iff_of_nodup ?_ ?_).mpr fun pair => ⟨?_, ?_⟩
  next =>
    refine List.Nodup.of_map Prod.fst ?_
    rw [List.map_map]
    exact gathered.nodup
  next =>
    refine List.Nodup.of_map Prod.fst ?_
    rw [List.map_map]
    exact once
  next =>
    intro member
    obtain ⟨entry, present, rfl⟩ := List.mem_map.mp member
    obtain ⟨report, reported, hash⟩ := gathered.mem_hashes.mp (List.mem_map_of_mem present)
    obtain ⟨tx, known, a, own, mentions, part⟩ := exists_tx_of_mem complete entries reported
    rw [part.hash] at hash
    refine List.mem_map.mpr ⟨tx, List.mem_filter.mpr ⟨known, ?_⟩, ?_⟩
    · exact List.any_eq_true.mpr ⟨a, own, mentions⟩
    · rw [hash, agree present known hash.symm]
  next =>
    intro member
    obtain ⟨tx, touching, rfl⟩ := List.mem_map.mp member
    obtain ⟨known, touches⟩ := List.mem_filter.mp touching
    obtain ⟨report, reported, hash⟩ := exists_entry_of_touches complete entries known touches
    have listed := gathered.mem_hashes.mpr ⟨report, reported, rfl⟩
    obtain ⟨entry, present, equal⟩ := List.mem_map.mp listed
    rw [hash] at equal
    refine List.mem_map.mpr ⟨entry, present, ?_⟩
    rw [agree present known equal, equal]

namespace Sample

def wallet : List String := ["bc1qa", "bc1qb"]

-- to the other address of the wallet, with change and a payment, and a fee of five
def transfer : Report where
  txid := "AB01"
  isConfirmed := true
  blockTime := none
  inputs := [some { address := some "bc1qa", value := 100 }]
  outputs :=
    [{ address := some "bc1qb", value := 60 }, { address := some "bc1qa", value := 20 },
      { address := some "bc1qshop", value := 15 }]

def coinbase : Report where
  txid := "ab02"
  isConfirmed := false
  blockTime := none
  inputs := [none]
  outputs := [{ address := some "bc1qb", value := 7 }]

def told (address : String) : List Report :=
  [coinbase, transfer].filter (Report.mentions address)

theorem effect_of_merge_transfer : ∃ histories merged,
    wallet.mapM (fun a => (told a).mapM (Report.toReported? .bitcoin a)) = some histories ∧
      AddressInfo.merge?
        (histories.map fun history => { AddressInfo.empty with history := history }) = some merged ∧
      (merged.history.map fun entry => (entry.hash, entry.balanceChange.toRat * 10 ^ 8)).Perm
        [("ab01", -20), ("ab02", 7)] ∧
      transfer.effect (Output.paysAny wallet) = -(5 + 15) := by
  obtain ⟨histories, read, nets, internal⟩ := @effect_of_merge .bitcoin rfl wallet (by decide)
    [transfer, coinbase] (by decide) (by decide) (by decide) told (by decide)
  have two : (wallet.mapM fun a => (told a).mapM (Report.toReported? .bitcoin a)).map List.length =
      some 2 := by decide
  rw [read, Option.map_some, Option.some.injEq] at two
  obtain ⟨first, second, rfl⟩ := List.length_eq_two.mp two
  obtain ⟨merged, found, perm⟩ := nets
    ([first, second].map fun history => { AddressInfo.empty with history := history }) rfl .zero rfl
  have left := internal transfer (by decide) (by decide)
  have effects : [transfer, coinbase].filter (Report.touches wallet) = [transfer, coinbase] ∧
      coinbase.effect (Output.paysAny wallet) = 7 ∧
      Text.lower transfer.txid = "ab01" ∧ Text.lower coinbase.txid = "ab02" := by decide
  obtain ⟨touching, reward, hash, other⟩ := effects
  have values : transfer.fee + Output.total (transfer.outputs.filter fun o => !o.paysAny wallet) =
      5 + 15 := by decide
  rw [values] at left
  rw [touching, List.map_cons, List.map_singleton, left, reward, hash, other] at perm
  refine ⟨_, merged, read, found, ?_, left⟩
  simpa using perm

end Sample

end CoinWallet.Esplora
