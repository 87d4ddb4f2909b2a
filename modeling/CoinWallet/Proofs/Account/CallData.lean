import CoinWallet.Proofs.Account.Quantity

set_option autoImplicit false

namespace CoinWallet.CallData

-- powers and sums are those of the core library
attribute [local instance (high)] instPowNat Zero.ofOfNat0

structure IsWord (word : List Char) (n : Nat) : Prop where
  length : word.length = 64
  lower : ∀ c ∈ word, c ∈ Hex.alphabet
  number : Hex.number word = n

def word? (chars : List Char) : Option Nat :=
  if chars.length = 64 ∧ chars.all (· ∈ Hex.alphabet) = true then some (Hex.number chars) else none

def words? : Nat → List Char → Option (List Nat)
  | 0, chars => if chars = [] then some [] else none
  | count + 1, chars => do
    let first ← word? (chars.take 64)
    let others ← words? count (chars.drop 64)
    some (first :: others)

def arguments? (selector : String) (count : Nat) (data : String) : Option (List Nat) := do
  let words ← data.toList.dropPrefix? ("0x" ++ selector).toList
  words? count words

variable {word : List Char} {n : Nat}

theorem IsWord.word? (isWord : IsWord word n) : word? word = some n := by
  have lower : word.all (· ∈ Hex.alphabet) = true := by simpa using isWord.lower
  rw [CallData.word?, if_pos ⟨isWord.length, lower⟩, isWord.number]

theorem IsWord.words?_append (isWord : IsWord word n) (count : Nat) (rest : List Char) :
    words? (count + 1) (word ++ rest) = (words? count rest).map (n :: ·) := by
  rw [words?, List.take_left' isWord.length, List.drop_left' isWord.length, isWord.word?]
  cases words? count rest <;> rfl

theorem arguments?_append (selector : String) (count : Nat) {data : String} {words : List Char}
    (chars : data.toList = ("0x" ++ selector).toList ++ words) :
    arguments? selector count data = words? count words := by
  rw [arguments?, chars, List.dropPrefix?_append_of_beq words BEq.rfl]
  rfl

theorem IsWord.unique {other : List Char} (isWord : IsWord word n) (isOther : IsWord other n) :
    word = other :=
  Hex.number_inj isWord.lower isOther.lower (isWord.length.trans isOther.length.symm)
    (isWord.number.trans isOther.number.symm)

structure Designates (destination : String) (digits : List Char) : Prop where
  chars : destination.toList = digits ∨ destination.toList = '0' :: 'x' :: digits
  isDigit : ∀ c ∈ digits, Hex.IsDigit c
  length_le : digits.length ≤ 64

variable {destination : String} {digits : List Char} {value : Nat}

theorem Designates.toList_padWord (designates : Designates destination digits) :
    (padWord destination).toList =
      List.replicate (64 - digits.length) '0' ++ digits.map Char.toLower := by
  have plain := Quantity.dropMarks_of_isDigit designates.isDigit
  refine CallData.toList_padWord ?_ designates.isDigit
  rcases designates.chars with same | same
  next => rw [same, plain]
  next => rw [same, Quantity.dropMarks, plain]

theorem isWord_padded (all : ∀ c ∈ digits, Hex.IsDigit c) (le : digits.length ≤ 64) :
    IsWord (List.replicate (64 - digits.length) '0' ++ digits.map Char.toLower)
      (Hex.number digits) where
  length := by
    rw [List.length_append, List.length_replicate, List.length_map]
    omega
  lower := by
    have zero : '0' ∈ Hex.alphabet := by decide
    rw [List.forall_mem_append, List.forall_mem_map]
    exact ⟨fun c member => List.eq_of_mem_replicate member ▸ zero, all⟩
  number := by rw [Hex.number_zeros, Hex.number_map_toLower]

theorem Designates.isWord (designates : Designates destination digits) :
    IsWord (padWord destination).toList (Hex.number digits) :=
  designates.toList_padWord ▸ isWord_padded designates.isDigit designates.length_le

theorem isWord_ofNat (small : n < 2 ^ (128 : Nat)) : IsWord (padWord (Hex.ofNat n)).toList n := by
  have le : (Nat.toDigits 16 n).length ≤ 64 :=
    (Nat.length_toDigits_le_iff (by decide) (by decide)).mpr (small.trans (by decide))
  have isWord := isWord_padded Hex.isDigit_of_mem_toDigits le
  rw [Hex.map_toLower_toDigits, (Hex.toDigits_written n).2] at isWord
  rwa [toList_padWord_ofNat]

theorem toList_balanceOf (destination : String) :
    (balanceOf destination).toList =
      ("0x" ++ balanceOfSelector).toList ++ (padWord destination).toList := by
  rw [balanceOf, String.toList_append]

theorem toList_transfer (destination : String) (value : Nat) :
    (transfer destination value).toList = ("0x" ++ transferSelector).toList ++
      ((padWord destination).toList ++ (padWord (Hex.ofNat value)).toList) := by
  rw [transfer, String.toList_append, String.toList_append, List.append_assoc]

theorem arguments?_transfer (designates : Designates destination digits)
    (small : value < 2 ^ (128 : Nat)) :
    arguments? transferSelector 2 (transfer destination value) =
      some [Hex.number digits, value] := by
  have first := designates.isWord
  have second := (isWord_ofNat small).words?_append 0 []
  rw [List.append_nil] at second
  rw [arguments?_append _ _ (toList_transfer destination value), first.words?_append, second]
  rfl

theorem arguments?_balanceOf (designates : Designates destination digits) :
    arguments? balanceOfSelector 1 (balanceOf destination) = some [Hex.number digits] := by
  have word := designates.isWord.words?_append 0 []
  rw [List.append_nil] at word
  rw [arguments?_append _ _ (toList_balanceOf destination), word]
  rfl

/-- A call is its selector and its words, one for the number of the destination's digits and one for
the value, and is decoded to these; two calls have one text exactly if they say the same. In the
word of 40 digits the first 24 are zeros. -/
theorem arguments_of_call (designates : Designates destination digits)
    (small : value < 2 ^ (128 : Nat)) :
    (∃ first second, IsWord first (Hex.number digits) ∧ IsWord second value ∧
      (transfer destination value).toList = ("0x" ++ transferSelector).toList ++ (first ++ second) ∧
      (balanceOf destination).toList = ("0x" ++ balanceOfSelector).toList ++ first ∧
      (digits.length = 40 → first.take 24 = List.replicate 24 '0')) ∧
    arguments? transferSelector 2 (transfer destination value) = some [Hex.number digits, value] ∧
    arguments? balanceOfSelector 1 (balanceOf destination) = some [Hex.number digits] ∧
    ∀ (other : String) (otherDigits : List Char) (otherValue : Nat), Designates other otherDigits →
      otherValue < 2 ^ (128 : Nat) →
      (transfer other otherValue = transfer destination value ↔
        Hex.number otherDigits = Hex.number digits ∧ otherValue = value) := by
  refine ⟨⟨_, _, designates.isWord, isWord_ofNat small, toList_transfer _ _, toList_balanceOf _, ?_⟩,
    arguments?_transfer designates small, arguments?_balanceOf designates, ?_⟩
  next =>
    intro length
    rw [designates.toList_padWord, length]
    exact List.take_left' (by rw [List.length_replicate])
  next =>
    intro other otherDigits otherValue otherDesignates otherSmall
    constructor
    next =>
      intro same
      have decoded := arguments?_transfer otherDesignates otherSmall
      rw [same, arguments?_transfer designates small] at decoded
      simpa [eq_comm] using decoded
    next =>
      rintro ⟨same, rfl⟩
      have word := (same ▸ otherDesignates.isWord).unique designates.isWord
      rw [← String.toList_inj, toList_transfer, toList_transfer, word]

namespace Sample

-- twenty bytes in both cases, and the same number with other zeros, in lower case and without a
-- mark
theorem arguments_of_call_mixed :
    arguments? transferSelector 2
        (transfer "0xAbC0000000000000000000000000000000000001" 1000000) =
      some [0xAbC0000000000000000000000000000000000001, 1000000] ∧
    transfer "00abc0000000000000000000000000000000000001" 1000000 =
      transfer "0xAbC0000000000000000000000000000000000001" 1000000 := by
  have marked : Designates "0xAbC0000000000000000000000000000000000001"
      "AbC0000000000000000000000000000000000001".toList :=
    ⟨.inr (by decide), by simpa using by decide, by decide⟩
  have plain : Designates "00abc0000000000000000000000000000000000001"
      "00abc0000000000000000000000000000000000001".toList :=
    ⟨.inl (by decide), by simpa using by decide, by decide⟩
  obtain ⟨_, decoded, _, same⟩ := arguments_of_call marked (by decide : 1000000 < 2 ^ (128 : Nat))
  exact ⟨decoded, (same _ _ _ plain (by decide)).mpr ⟨by decide, rfl⟩⟩

end Sample

end CoinWallet.CallData
