import CoinWallet.Proofs.Text.Case
import CoinWallet.Text.Hex

set_option autoImplicit false

namespace CoinWallet.Hex

-- powers and sums are those of the core library
attribute [local instance (high)] instPowNat Zero.ofOfNat0

def alphabet : List Char :=
  ['0', '1', '2', '3', '4', '5', '6', '7', '8', '9', 'a', 'b', 'c', 'd', 'e', 'f']

def IsDigit (c : Char) : Prop :=
  c.toLower ∈ alphabet

instance : DecidablePred IsDigit :=
  fun c => inferInstanceAs (Decidable (c.toLower ∈ alphabet))

def value (c : Char) : Nat :=
  alphabet.idxOf c.toLower

def number (digits : List Char) : Nat :=
  Nat.ofDigits 16 (digits.reverse.map value)

variable {c : Char} {n : Nat} {digits : List Char}

theorem toNat_lt_of_isDigit (digit : IsDigit c) : c.toNat < 128 := by
  by_contra wide
  have small : (alphabet.all fun d => d.toNat < 128) = true := by decide
  rw [IsDigit, Text.toLower_eq_of_not_ascii wide] at digit
  exact wide (by simpa using List.all_eq_true.mp small c digit)

theorem value_lt (digit : IsDigit c) : value c < 16 :=
  List.idxOf_lt_length_of_mem digit

theorem digitValue?_eq (c : Char) :
    digitValue? c = if IsDigit c then some (value c) else none := by
  by_cases ascii : c.toNat < 128
  next =>
    have all : ∀ code < 128, digitValue? (Char.ofNat code) =
        if IsDigit (Char.ofNat code) then some (value (Char.ofNat code)) else none := by
      decide
    rw [← Char.ofNat_toNat c]
    exact all c.toNat ascii
  next =>
    have above (d : Char) (low : d.toNat < 128) : ¬ c ≤ d := by
      rw [Char.le_def, UInt32.le_iff_toNat_le]
      exact fun le => ascii (Nat.lt_of_le_of_lt le low)
    rw [if_neg (mt toNat_lt_of_isDigit ascii)]
    simp [digitValue?, above '9' (by decide), above 'f' (by decide), above 'F' (by decide)]

theorem digitChar_mem_alphabet (low : n < 16) : Nat.digitChar n ∈ alphabet := by
  have all : ∀ n < 16, Nat.digitChar n ∈ alphabet := by decide
  exact all n low

theorem toLower_of_mem_alphabet (member : c ∈ alphabet) : c.toLower = c := by
  have all : (alphabet.all fun d => d.toLower == d) = true := by decide
  simpa using List.all_eq_true.mp all c member

theorem isDigit_of_mem_alphabet (member : c ∈ alphabet) : IsDigit c := by
  rwa [IsDigit, toLower_of_mem_alphabet member]

theorem value_digitChar (low : n < 16) : value (Nat.digitChar n) = n := by
  have all : ∀ n < 16, value (Nat.digitChar n) = n := by decide
  exact all n low

theorem digitChar_value (member : c ∈ alphabet) : Nat.digitChar (value c) = c := by
  have all : (alphabet.all fun d => Nat.digitChar (value d) == d) = true := by decide
  simpa using List.all_eq_true.mp all c member

theorem isDigit_of_mem_zeros {zeros : Nat} : ∀ c ∈ List.replicate zeros '0', IsDigit c := by
  intro c member
  rw [List.eq_of_mem_replicate member]
  decide

@[simp] theorem number_nil : number [] = 0 := rfl

theorem number_append (front back : List Char) :
    number (front ++ back) = number front * 16 ^ back.length + number back := by
  rw [number, List.reverse_append, List.map_append, Nat.ofDigits_append, List.length_map,
    List.length_reverse, number, number, Nat.add_comm, Nat.mul_comm]

theorem number_cons (c : Char) (digits : List Char) :
    number (c :: digits) = value c * 16 ^ digits.length + number digits := by
  have single : number [c] = value c := Nat.ofDigits_singleton
  rw [← List.singleton_append, number_append, single]

theorem number_snoc (digits : List Char) (c : Char) :
    number (digits ++ [c]) = 16 * number digits + value c := by
  have single : number [c] = value c := Nat.ofDigits_singleton
  rw [number_append, single, List.length_singleton, Nat.pow_one, Nat.mul_comm]

theorem number_zeros (zeros : Nat) (digits : List Char) :
    number (List.replicate zeros '0' ++ digits) = number digits := by
  induction zeros with
  | zero => rfl
  | succ zeros ih =>
    have zero : value '0' = 0 := by decide
    rw [List.replicate_succ, List.cons_append, number_cons, ih, zero, Nat.zero_mul, Nat.zero_add]

theorem number_dropWhile (digits : List Char) :
    number (digits.dropWhile (· == '0')) = number digits := by
  induction digits with
  | nil => rfl
  | cons c rest ih =>
    by_cases zero : c = '0'
    next =>
      have front := number_zeros 1 rest
      rw [List.replicate_one, List.singleton_append] at front
      simp [zero, ih, front]
    next => simp [zero]

theorem number_map_toLower (digits : List Char) : number (digits.map Char.toLower) = number digits := by
  have same : value ∘ Char.toLower = value := by
    funext c
    rw [Function.comp_apply, value, value, Char.toLower_toLower_eq_toLower]
  rw [number, number, ← List.map_reverse, List.map_map, same]

theorem number_inj {other : List Char} (lower : ∀ c ∈ digits, c ∈ alphabet)
    (lowerOther : ∀ c ∈ other, c ∈ alphabet) (length : digits.length = other.length)
    (same : number digits = number other) : digits = other := by
  have small {cs : List Char} (lower : ∀ c ∈ cs, c ∈ alphabet) : ∀ d ∈ cs.reverse.map value, d < 16 := by
    simp only [List.mem_map, List.mem_reverse]
    rintro _ ⟨c, member, rfl⟩
    exact value_lt (isDigit_of_mem_alphabet (lower c member))
  have written {cs : List Char} (lower : ∀ c ∈ cs, c ∈ alphabet) :
      ((cs.reverse.map value).map Nat.digitChar).reverse = cs := by
    have digit : ∀ c ∈ cs.reverse, (Nat.digitChar ∘ value) c = id c :=
      fun c member => digitChar_value (lower c (List.mem_reverse.mp member))
    rw [List.map_map, List.map_congr_left digit, List.map_id, List.reverse_reverse]
  have values := Nat.ofDigits_inj_of_len_eq (b := 16) (by decide) (by simpa using length) (small lower)
    (small lowerOther) same
  rw [← written lower, values, written lowerOther]

theorem toDigits_written (n : Nat) :
    (∀ c ∈ Nat.toDigits 16 n, c ∈ alphabet) ∧ number (Nat.toDigits 16 n) = n := by
  induction n using Nat.strongRecOn with
  | ind n ih =>
    rw [Nat.toDigits_eq_if (by decide)]
    split
    next low => simpa [number, value_digitChar low] using digitChar_mem_alphabet low
    next high =>
      have last : n % 16 < 16 := Nat.mod_lt n (by decide)
      obtain ⟨front, stands⟩ := ih (n / 16) (by omega)
      constructor
      next =>
        rw [List.forall_mem_append, List.forall_mem_singleton]
        exact ⟨front, digitChar_mem_alphabet last⟩
      next => rw [number_snoc, stands, value_digitChar last, Nat.div_add_mod]

theorem isDigit_of_mem_toDigits : ∀ c ∈ Nat.toDigits 16 n, IsDigit c :=
  fun c member => isDigit_of_mem_alphabet ((toDigits_written n).1 c member)

theorem map_toLower_toDigits (n : Nat) :
    (Nat.toDigits 16 n).map Char.toLower = Nat.toDigits 16 n := by
  have lower : ∀ c ∈ Nat.toDigits 16 n, c.toLower = id c :=
    fun c member => toLower_of_mem_alphabet ((toDigits_written n).1 c member)
  rw [List.map_congr_left lower, List.map_id]

def Spells (digits : List Char) (n : Nat) : Prop :=
  digits.map Char.toLower = Nat.toDigits 16 n ∨ digits = [] ∧ n = 0

theorem spells_toDigits (n : Nat) : Spells (Nat.toDigits 16 n) n :=
  .inl (map_toLower_toDigits n)

theorem Spells.isDigit (spells : Spells digits n) : ∀ c ∈ digits, IsDigit c := by
  rcases spells with same | ⟨rfl, rfl⟩
  next =>
    intro c member
    have written : c.toLower ∈ Nat.toDigits 16 n := same ▸ List.mem_map_of_mem member
    exact (toDigits_written n).1 _ written
  next => simp

theorem Spells.number (spells : Spells digits n) : number digits = n := by
  rcases spells with same | ⟨rfl, rfl⟩
  next => rw [← number_map_toLower, same, (toDigits_written n).2]
  next => rfl

-- two digits in lower case for each byte, the high one first
inductive Writes : List Char → Bytes → Prop
  | nil : Writes [] []
  | cons {high low : Char} {byte : UInt8} {digits : List Char} {bytes : Bytes}
      (highDigit : high ∈ alphabet) (lowDigit : low ∈ alphabet)
      (pair : 16 * value high + value low = byte.toNat) (rest : Writes digits bytes) :
    Writes (high :: low :: digits) (byte :: bytes)

theorem writes_encode (bytes : Bytes) : Writes (encode bytes).toList bytes := by
  rw [encode, String.toList_ofList]
  induction bytes with
  | nil => exact .nil
  | cons byte rest ih =>
    have small : byte.toNat < 256 := byte.toNat_lt
    have high : byte.toNat / 16 < 16 := by omega
    have low : byte.toNat % 16 < 16 := by omega
    refine .cons (digitChar_mem_alphabet high) (digitChar_mem_alphabet low) ?_ ih
    rw [value_digitChar high, value_digitChar low, Nat.div_add_mod]

theorem Writes.eq_encode {bytes : Bytes} (writes : Writes digits bytes) :
    digits = (encode bytes).toList := by
  rw [encode, String.toList_ofList]
  induction writes with
  | nil => rfl
  | @cons high low byte _ _ highDigit lowDigit pair _ ih =>
    have small := value_lt (isDigit_of_mem_alphabet lowDigit)
    have front : byte.toNat / 16 = value high := by omega
    have back : byte.toNat % 16 = value low := by omega
    rw [List.flatMap_cons, ofByte, front, back, digitChar_value highDigit, digitChar_value lowDigit,
      ← ih]
    rfl

end CoinWallet.Hex
