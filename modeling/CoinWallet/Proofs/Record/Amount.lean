import CoinWallet.Proofs.Document.Record
import CoinWallet.Record.Amount

set_option autoImplicit false

namespace CoinWallet

-- powers are those of the core library
attribute [local instance (high)] instPowNat

namespace Node

theorem Written.ofNat {levels n : Nat} (room : n < 2 ^ (64 : Nat)) : Written levels (ofNat n) := by
  refine .whole ?_
  simp only [fitsWord, Bool.and_eq_true, decide_eq_true_eq]
  omega

theorem readNat?_ofNat {limit n : Nat} (room : n ≤ limit) : (ofNat n).readNat? limit = some n :=
  if_pos ⟨Int.natCast_nonneg n, Int.ofNat_le.mpr room⟩

theorem readUInt32?_ofNat (n : UInt32) : (ofNat n.toNat).readUInt32? = some n := by
  have room := n.toNat_lt
  rw [readUInt32?, readNat?_ofNat (by omega), Option.map_some, UInt32.ofNat_toNat]

theorem readUInt64?_ofNat (n : UInt64) : (ofNat n.toNat).readUInt64? = some n := by
  have room := n.toNat_lt
  rw [readUInt64?, readNat?_ofNat (by omega), Option.map_some, UInt64.ofNat_toNat]

theorem readDecimal?_write (d : Decimal) : d.write.readDecimal? = some d :=
  d.parse?_toText

end Node

open Node (Written record)

namespace Token

theorem written_fields (t : Token) (levels : Nat) : ∀ field ∈ t.fields, Written levels field.2 := by
  have room := t.decimals.toNat_lt
  simp only [fields, List.forall_mem_cons]
  exact ⟨.text _, .text _, .ofNat (by omega), nofun⟩

theorem read_fields (form : Form) (t : Token) : read form (record t.fields) = some t := by
  rw [read, Node.fields?_record form (by rfl) (by decide)]
  simp [fields, Node.readUInt32?_ofNat]

end Token

namespace AmountType

theorem written (kind : AmountType) (levels : Nat) : Written (levels + 1) kind.write := by
  cases kind with
  | coin => exact .record (by simpa using .text "coin")
  | token t => exact .record (List.forall_mem_cons.mpr ⟨.text _, t.written_fields levels⟩)
  | reserve => exact .record (by simpa using .text "reserve")

theorem read_write (form : Form) (kind : AmountType) : read form kind.write = some kind := by
  rw [read]
  cases kind with
  | coin =>
    rw [write, Node.variant?_record_nil form (by decide)]
    rfl
  | token t =>
    rw [write, Node.variant?_record form (by decide) (by simp [Token.fields]) (t.written_fields 0)]
    simp [Token.read_fields]
  | reserve =>
    rw [write, Node.variant?_record_nil form (by decide)]
    rfl

end AmountType

namespace Amount

theorem written_fields (a : Amount) (levels : Nat) :
    ∀ field ∈ a.fields, Written (levels + 1) field.2 := by
  have room := a.decimals.toNat_lt
  simp only [fields, List.forall_mem_cons]
  exact ⟨a.kind.written levels, .text _, .ofNat (by omega), .text _, nofun⟩

theorem read_fields (form : Form) (a : Amount) : read form (record a.fields) = some a := by
  rw [read, Node.fields?_record form (by rfl) (by decide)]
  simp [fields, AmountType.read_write, Node.readDecimal?_write, Node.readUInt32?_ofNat]

end Amount

end CoinWallet
