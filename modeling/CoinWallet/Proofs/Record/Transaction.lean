import CoinWallet.Proofs.Json.Document
import CoinWallet.Proofs.Record.Amount
import CoinWallet.Proofs.Timestamp.Text
import CoinWallet.Record.Transaction

set_option autoImplicit false

namespace CoinWallet

open Node (Written record)

namespace Fee

theorem written_gas (amount : Amount) (limit : UInt64) (price : Decimal) (levels : Nat) :
    ∀ field ∈ [("amount", amount.write), ("gas_limit", .ofNat limit.toNat),
      ("gas_price", price.write)], Written (levels + 2) field.2 := by
  have room := limit.toNat_lt
  simp only [List.forall_mem_cons]
  exact ⟨.record (amount.written_fields levels), .ofNat (by omega), .text _, nofun⟩

theorem written_fields (fee : Fee) (levels : Nat) :
    ∀ field ∈ fee.fields, Written (levels + 2) field.2 := by
  cases fee with
  | common amount =>
    exact List.forall_mem_cons.mpr ⟨.text _, amount.written_fields (levels + 1)⟩
  | gas amount limit price =>
    exact List.forall_mem_cons.mpr ⟨.text _, written_gas amount limit price levels⟩

theorem type_mem_fields (fee : Fee) : "type" ∈ fee.fields.map (·.1) := by
  cases fee <;> exact List.mem_cons_self

theorem read_write (form : Form) (fee : Fee) : read form fee.write = some fee := by
  rw [read, write]
  cases fee with
  | common amount =>
    rw [fields, Node.variant?_record form (by decide) (by simp [Amount.fields])
      (amount.written_fields 0)]
    simp [Amount.read_fields]
  | gas amount limit price =>
    rw [fields, Node.variant?_record form (by decide) (by simp) (written_gas amount limit price 0)]
    simp only [Option.bind_eq_bind, Option.bind_some]
    rw [Node.fields?_record .held (by rfl) (by decide)]
    simp [Amount.write, Amount.read_fields, Node.readUInt64?_ofNat, Node.readDecimal?_write]

end Fee

namespace FeeOffer

theorem written_choosable (fees : Tiers Fee) (levels : Nat) :
    ∀ field ∈ [("minimum", fees.minimum.write), ("normal", fees.normal.write),
      ("priority", fees.priority.write)], Written (levels + 3) field.2 := by
  simp only [List.forall_mem_cons]
  exact ⟨.record (fees.minimum.written_fields levels), .record (fees.normal.written_fields levels),
    .record (fees.priority.written_fields levels), nofun⟩

theorem written (offer : FeeOffer) (levels : Nat) : Written (levels + 4) offer.write := by
  cases offer with
  | single fee =>
    exact .record (List.forall_mem_cons.mpr ⟨.text _, fee.written_fields (levels + 1)⟩)
  | choosable fees =>
    exact .record (List.forall_mem_cons.mpr ⟨.text _, written_choosable fees levels⟩)

-- the type of the fee stands beside that of the offer
theorem read_write_single (fee : Fee) : read (single fee).write = none := by
  rw [read, write, Node.variant?_record_of_typed .loose fee.type_mem_fields]
  rfl

theorem read_write_choosable (fees : Tiers Fee) :
    read (choosable fees).write = some (choosable fees) := by
  rw [read, write, Node.variant?_record .loose (by decide) (by simp) (written_choosable fees 0)]
  simp only [Option.bind_eq_bind, Option.bind_some]
  rw [Node.fields?_record .held (by rfl) (by decide)]
  simp [Fee.read_write]

/-- An offer is read back from its text if it leaves a choice. A single fee is not: the types of the
fee and of the offer stand beside each other under one name. -/
theorem read_text (offer : FeeOffer) :
    (Json.read (Json.write offer.write)).bind read =
      match offer with
      | single _ => none
      | choosable _ => some offer := by
  cases offer with
  | single fee =>
    rw [Json.read_write (written (single fee) 123), Option.bind_some, read_write_single]
  | choosable fees =>
    exact Json.bind_read_write (written (choosable fees) 123) (read_write_choosable fees)

end FeeOffer

namespace Sample

theorem single_offer_not_read :
    ¬ ∀ offer : FeeOffer, (Json.read (Json.write offer.write)).bind FeeOffer.read = some offer := by
  intro all
  have back := all (.single (.common (.coin .bitcoin .one)))
  rw [Json.read_write (FeeOffer.written _ 123), Option.bind_some, FeeOffer.read_write_single] at back
  cases back

end Sample

namespace TransactionStatus

theorem read_write (status : TransactionStatus) : read status.write = some status := by
  cases status <;> rfl

end TransactionStatus

namespace Timestamp

theorem read_write {t : Timestamp} (years : t.InYears) : read t.write = some t := by
  rw [read, write, Node.readText?_text, Option.bind_some, parse?_toText years]

end Timestamp

theorem Node.Written.ofOption {α : Type} {write : α → Node} {levels : Nat} {o : Option α}
    (present : ∀ a ∈ o, Written levels (write a)) : Written levels (ofOption write o) := by
  cases o with
  | none => exact .null
  | some a => exact present a rfl

namespace Transaction

theorem written (tx : Transaction) (levels : Nat) : Written (levels + 4) tx.write := by
  refine .record ?_
  simp only [List.forall_mem_cons]
  exact ⟨.record (tx.amount.written_fields (levels + 1)),
    .ofOption fun fee _ => .record (fee.written_fields levels), .text _, .text _,
    .ofOption fun _ _ => .text _, .text _, .ofOption fun _ _ => .text _, .text _, nofun⟩

theorem read_write {tx : Transaction} (years : tx.date.InYears) : read tx.write = some tx := by
  have fee : (Node.Field.given (Node.ofOption Fee.write tx.fee)).optional (Fee.read .loose) =
      some tx.fee :=
    Node.Field.optional_given_ofOption fun fee _ => ⟨rfl, fee.read_write .loose⟩
  rw [read, write, Node.fields?_record .loose (by rfl) (by decide)]
  simp [Amount.write, Amount.read_fields, fee, TransactionStatus.read_write,
    Timestamp.read_write years]

end Transaction

namespace ReportedTransaction

theorem written (tx : ReportedTransaction) (levels : Nat) : Written (levels + 1) tx.write := by
  refine .record ?_
  simp only [List.forall_mem_cons]
  exact ⟨.text _, .text _, .ofOption fun _ _ => .text _, .bool _, .ofOption fun _ _ => .text _,
    .ofOption fun _ _ => .text _, nofun⟩

theorem read_write {tx : ReportedTransaction} (years : ∀ date ∈ tx.date, date.InYears) :
    read tx.write = some tx := by
  have date : (Node.Field.given (Node.ofOption Timestamp.write tx.date)).optional Timestamp.read =
      some tx.date :=
    Node.Field.optional_given_ofOption fun date given => ⟨rfl, Timestamp.read_write (years date given)⟩
  rw [read, write, Node.fields?_record .loose (by rfl) (by decide)]
  simp [Node.readDecimal?_write, date]

end ReportedTransaction

namespace UnspentOutput

theorem written (output : UnspentOutput) (levels : Nat) : Written (levels + 1) output.write := by
  have room := output.index.toNat_lt
  refine .record ?_
  simp only [List.forall_mem_cons]
  exact ⟨.text _, .ofNat (by omega), .text _, .text _, .ofOption fun _ _ => .text _,
    .ofOption fun _ _ => .text _, nofun⟩

theorem read_write (output : UnspentOutput) : read output.write = some output := by
  rw [read, write, Node.fields?_record .loose (by rfl) (by decide)]
  simp [Node.readUInt32?_ofNat, Node.readDecimal?_write, Node.Field.optionalOrNull_given]

end UnspentOutput

/-- Transactions, reported transactions and outputs are read back from their texts, with the scale
of each decimal. A sign in front of a zero is all that may be lost. -/
theorem Json.read_written_records :
    (∀ tx : Transaction, tx.date.InYears →
      (Json.read (Json.write tx.write)).bind Transaction.read = some tx) ∧
    (∀ tx : ReportedTransaction, (∀ date ∈ tx.date, date.InYears) →
      (Json.read (Json.write tx.write)).bind ReportedTransaction.read = some tx) ∧
    (∀ output : UnspentOutput,
      (Json.read (Json.write output.write)).bind UnspentOutput.read = some output) ∧
    ∀ d : Decimal, d.isZero = true → Decimal.parse? ("-" ++ d.toText) = some d :=
  ⟨fun tx years => Json.bind_read_write (tx.written 123) (Transaction.read_write years),
    fun tx years => Json.bind_read_write (tx.written 126) (ReportedTransaction.read_write years),
    fun output => Json.bind_read_write (output.written 126) output.read_write,
    fun _ zero => Decimal.parse?_minus_toText zero⟩

namespace Sample

def decimal (text : String) : Decimal :=
  (Decimal.parse? text).getD .zero

-- a token transfer on the last day of February, for a fee in gas
def remittance : Transaction where
  amount :=
    .ofToken { symbol := "\"USDT\"\n", contract := "0xdac1", decimals := 6 } (decimal "-1.500")
  fee :=
    some (.gas (.coin .ethereum (decimal "0.000000000000000210")) 18446744073709551615
      (decimal "0.00"))
  source := "0xhome"
  destination := ""
  contract := some "0xdac1"
  status := .confirmed
  hash := none
  date := { seconds := 951868799 }

def arrival : ReportedTransaction where
  balanceChange := decimal "0.00000005"
  hash := "abc"
  date := some { seconds := -62135596800 }
  isConfirmed := false
  source := none
  destination := some "bc1qa"

theorem read_written_remittance :
    remittance.date.InYears ∧
      (Json.read (Json.write remittance.write)).bind Transaction.read = some remittance ∧
    (∀ date ∈ arrival.date, date.InYears) ∧
      (Json.read (Json.write arrival.write)).bind ReportedTransaction.read = some arrival ∧
    Decimal.zero.isZero = true ∧ Decimal.parse? ("-" ++ Decimal.zero.toText) = some .zero := by
  have moved : remittance.date.InYears := ⟨by decide, by decide, by decide⟩
  have arrived : ∀ date ∈ arrival.date, date.InYears := by
    rintro date ⟨⟩
    exact ⟨by decide, by decide, by decide⟩
  have zero : Decimal.zero.isZero = true := by decide
  exact ⟨moved, Json.read_written_records.1 remittance moved, arrived,
    Json.read_written_records.2.1 arrival arrived, zero, Json.read_written_records.2.2.2 .zero zero⟩

end Sample

end CoinWallet
