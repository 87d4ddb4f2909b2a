import CoinWallet.Proofs.Decimal.Sum
import CoinWallet.Proofs.Http.Dialogue
import CoinWallet.Utxo.Esplora

set_option autoImplicit false

namespace CoinWallet

-- powers and sums are those of the core library
attribute [local instance (high)] instPowNat Zero.ofOfNat0

theorem Blockchain.decimals_of_usesOutputs {chain : Blockchain} (uses : chain.usesOutputs = true) :
    chain.decimals = 8 := by
  cases chain <;> first | rfl | cases uses

namespace UnspentOutput

-- a word of 64 bits, in the last of eight places
def IsWord (output : UnspentOutput) : Prop :=
  output.amount.Whole 8 ∧ output.amount.units 8 < 2 ^ (64 : Nat)

def total (outputs : List UnspentOutput) : Nat :=
  (outputs.map fun output => output.amount.units 8).sum

theorem total_append (first last : List UnspentOutput) :
    total (first ++ last) = total first + total last := by
  simp [total]

theorem total_le {outputs : List UnspentOutput} (words : ∀ output ∈ outputs, output.IsWord) :
    total outputs ≤ outputs.length * 2 ^ (64 : Nat) := by
  induction outputs with
  | nil => simp [total]
  | cons output rest ih =>
    have here := (words output List.mem_cons_self).2
    have there := ih fun other member => words other (List.mem_cons_of_mem _ member)
    simp only [total, List.map_cons, List.sum_cons, List.length_cons] at there ⊢
    omega

theorem total_lt {outputs : List UnspentOutput} (words : ∀ output ∈ outputs, output.IsWord)
    (few : outputs.length < 2 ^ (32 : Nat)) : total outputs < 2 ^ (96 : Nat) := by
  have bound := total_le words
  omega

end UnspentOutput

open UnspentOutput (total)

structure Tally (outputs : List UnspentOutput) (balance : Decimal) : Prop where
  words : ∀ output ∈ outputs, output.IsWord
  whole : outputs.length < 2 ^ (32 : Nat) → balance.Whole 8
  units : outputs.length < 2 ^ (32 : Nat) → balance.units 8 = total outputs

namespace Tally

variable {outputs : List UnspentOutput} {balance : Decimal}

theorem nil : Tally [] .zero where
  words := by simp
  whole _ := Decimal.whole_zero 8
  units _ := Decimal.units_zero 8

theorem append {others : List UnspentOutput} {other sum : Decimal} (first : Tally outputs balance)
    (last : Tally others other) (added : balance.add? other = some sum) :
    Tally (outputs ++ others) sum := by
  have words : ∀ output ∈ outputs ++ others, output.IsWord := fun output member =>
    (List.mem_append.mp member).elim (first.words output) (last.words output)
  have exact (few : (outputs ++ others).length < 2 ^ (32 : Nat)) :
      sum.Whole 8 ∧ sum.units 8 = total (outputs ++ others) := by
    have room := UnspentOutput.total_lt words few
    rw [List.length_append] at few
    have left := first.units (by omega)
    have right := last.units (by omega)
    rw [UnspentOutput.total_append, ← left, ← right] at room ⊢
    obtain ⟨result, found, whole, units⟩ :=
      (first.whole (by omega)).add? (last.whole (by omega)) (by decide) room
    cases found.symm.trans added
    exact ⟨whole, units⟩
  exact ⟨words, fun few => (exact few).1, fun few => (exact few).2⟩

theorem sum? (words : ∀ output ∈ outputs, output.IsWord)
    (few : outputs.length < 2 ^ (32 : Nat)) :
    ∃ sum, Decimal.sum? (outputs.map (·.amount)) = some sum ∧ sum.Whole 8 ∧
      sum.units 8 = total outputs := by
  have room := UnspentOutput.total_lt words few
  have whole : ∀ d ∈ outputs.map (·.amount), d.Whole 8 := by
    intro d member
    obtain ⟨output, present, rfl⟩ := List.mem_map.mp member
    exact (words output present).1
  have same : total outputs = ((outputs.map (·.amount)).map (Decimal.units 8)).sum := by
    simp [total, Function.comp_def]
  rw [same] at room ⊢
  exact Decimal.Whole.sum? whole (by decide) room

theorem of_sum? (words : ∀ output ∈ outputs, output.IsWord)
    (summed : Decimal.sum? (outputs.map (·.amount)) = some balance) : Tally outputs balance := by
  have exact (few : outputs.length < 2 ^ (32 : Nat)) :
      balance.Whole 8 ∧ balance.units 8 = total outputs := by
    obtain ⟨result, found, whole, units⟩ := sum? words few
    cases found.symm.trans summed
    exact ⟨whole, units⟩
  exact ⟨words, fun few => (exact few).1, fun few => (exact few).2⟩

theorem toRat_eq (tally : Tally outputs balance) (few : outputs.length < 2 ^ (32 : Nat)) :
    balance.toRat = (outputs.map (·.amount.toRat)).sum := by
  have whole : ∀ d ∈ outputs.map (·.amount), d.Whole 8 := by
    intro d member
    obtain ⟨output, present, rfl⟩ := List.mem_map.mp member
    exact (tally.words output present).1
  have values := Decimal.Whole.sum_toRat whole
  rw [List.map_map, List.map_map] at values
  rw [(tally.whole few).toRat_eq, tally.units few]
  exact values.symm

end Tally

namespace Esplora

variable {chain : Blockchain} {address : String}

theorem isWord_of_toOutput (uses : chain.usesOutputs = true) {u : Unspent} {output : UnspentOutput}
    (read : u.toOutput chain address = .ok output) : output.IsWord := by
  rw [Unspent.toOutput, Blockchain.decimals_of_usesOutputs uses] at read
  split at read <;> cases read
  next amount held =>
    rw [Decimal.ofBaseUnits?, Decimal.ofScaled?, Option.dite_none_right_eq_some] at held
    obtain ⟨_, held⟩ := held
    cases held
    have word := u.value.toNat_lt
    exact ⟨⟨Int.natCast_nonneg _, Nat.le_refl _⟩, by simpa [Decimal.units] using word⟩

theorem isWord_of_mapM (uses : chain.usesOutputs = true) {unspent : List Unspent}
    {outputs : List UnspentOutput}
    (read : unspent.mapM (Unspent.toOutput chain address) = .ok outputs) :
    ∀ output ∈ outputs, output.IsWord := by
  induction unspent generalizing outputs with
  | nil =>
    cases read
    simp
  | cons u rest ih =>
    simp only [List.mapM_cons, Outcome.bind_eq_ok_iff] at read
    obtain ⟨first, here, others, there, result⟩ := read
    cases result
    intro output member
    rcases List.mem_cons.mp member with rfl | later
    · exact isWord_of_toOutput uses here
    · exact ih there output later

theorem tally_addressInfo (uses : chain.usesOutputs = true) {report : AddressReport}
    {unspent : List Unspent} {txs : List Report} {info : AddressInfo}
    (told : addressInfo chain address report unspent txs = .ok info) :
    Tally info.unspentOutputs info.balance := by
  simp only [addressInfo, Outcome.bind_eq_ok_iff, Outcome.ofExcept_eq_ok_iff,
    Outcome.ofOption_eq_ok_iff] at told
  obtain ⟨outputs, read, balance, summed, history, _, result⟩ := told
  cases result
  exact .of_sum? (isWord_of_mapM uses read) summed

open Http

theorem yields_of_getDocument {α β : Type} {host path : String} {read : Node → Option α}
    {next : α → Dialogue β} {b : β} (yields : (getDocument host path read next).Yields (.ok b)) :
    ∃ a, (next a).Yields (.ok b) := by
  cases yields with
  | ask answer rest =>
    cases answer with
    | error cause => cases rest
    | ok response =>
      simp only at rest
      split at rest
      next =>
        split at rest
        next => cases rest
        next =>
          split at rest
          next a _ => exact ⟨a, rest⟩
          next => cases rest
      next => cases rest

theorem tally_of_yields (uses : chain.usesOutputs = true) {host : String} {info : AddressInfo}
    (yields : (askInfo host chain address).Yields (.ok info)) :
    Tally info.unspentOutputs info.balance := by
  obtain ⟨report, yields⟩ := yields_of_getDocument yields
  obtain ⟨unspent, yields⟩ := yields_of_getDocument yields
  obtain ⟨txs, yields⟩ := yields_of_getDocument yields
  generalize told : addressInfo chain address report unspent txs = result at yields
  cases yields
  exact tally_addressInfo uses told

def Serves (chain : Blockchain) (provider : Provider) : Prop :=
  ∀ q r, provider q = .ok r → ∃ host dialogue repetitions,
    dialogue? host chain q = some dialogue ∧ (dialogue.retrying repetitions).Yields (.ok r)

end Esplora

-- what is told of an address is a tally
def Query.Tallied : (q : Query) → q.Reply → Prop
  | addressInfo _, info => Tally info.unspentOutputs info.balance
  | _, _ => True

theorem Esplora.Serves.tallied {chain : Blockchain} {provider : Provider}
    (serves : Serves chain provider) (uses : chain.usesOutputs = true) {q : Query} {r : q.Reply}
    (settled : q.settle (provider q) = .ok r) : q.Tallied r := by
  cases q with
  | addressInfo address =>
    have answered : provider (.addressInfo address) = .ok r := by
      revert settled
      generalize provider (.addressInfo address) = answer
      intro settled
      cases answer with
      | ok info => exact settled
      | error fault => cases fault <;> cases settled
    obtain ⟨host, dialogue, repetitions, found, yields⟩ := serves _ r answered
    cases found
    exact tally_of_yields uses yields.of_retrying
  | _ => trivial

namespace AddressInfo

theorem tally_absorb? {merged info next : AddressInfo}
    (before : Tally merged.unspentOutputs merged.balance)
    (tally : Tally info.unspentOutputs info.balance) (absorbed : merged.absorb? info = some next) :
    Tally next.unspentOutputs next.balance := by
  simp only [absorb?, Option.bind_eq_bind, Option.bind_eq_some_iff] at absorbed
  obtain ⟨balance, added, history, _, result⟩ := absorbed
  cases result
  exact before.append tally added

theorem tally_foldlM_absorb? {infos : List AddressInfo} {before merged : AddressInfo}
    (tally : Tally before.unspentOutputs before.balance)
    (tallies : ∀ info ∈ infos, Tally info.unspentOutputs info.balance)
    (absorbed : infos.foldlM absorb? before = some merged) :
    Tally merged.unspentOutputs merged.balance := by
  induction infos generalizing before with
  | nil =>
    cases absorbed
    exact tally
  | cons info rest ih =>
    rw [List.foldlM_cons, Option.bind_eq_bind, Option.bind_eq_some_iff] at absorbed
    obtain ⟨next, here, absorbed⟩ := absorbed
    have first := tally_absorb? tally (tallies info List.mem_cons_self) here
    exact ih first (fun other member => tallies other (List.mem_cons_of_mem _ member)) absorbed

theorem tally_merge? {infos : List AddressInfo} {merged : AddressInfo}
    (tallies : ∀ info ∈ infos, Tally info.unspentOutputs info.balance)
    (result : merge? infos = some merged) : Tally merged.unspentOutputs merged.balance :=
  tally_foldlM_absorb? .nil tallies result

end AddressInfo

end CoinWallet
