import CoinWallet.Account.JsonRpc
import CoinWallet.Proofs.Account.Spelling

set_option autoImplicit false

namespace CoinWallet

-- powers and sums are those of the core library
attribute [local instance (high)] instPowNat Zero.ofOfNat0

namespace CallData

variable {text : String} {digits : List Char}

theorem toList_padWord (marks : Quantity.dropMarks text.toList = digits)
    (all : ∀ c ∈ digits, Hex.IsDigit c) :
    (padWord text).toList = List.replicate (64 - digits.length) '0' ++ digits.map Char.toLower := by
  have lower : Text.lowerFrom [] digits = digits.map Char.toLower :=
    Text.lowerFrom_eq_map [] fun c member =>
      Text.isLower_of_ascii (Text.toNat_toLower_lt (Hex.toNat_lt_of_isDigit (all c member)))
        (Char.isUpper_toLower_eq_false c)
  simp [padWord, marks, lower]

theorem toList_padWord_ofNat (n : Nat) :
    (padWord (Hex.ofNat n)).toList =
      List.replicate (64 - (Nat.toDigits 16 n).length) '0' ++ Nat.toDigits 16 n := by
  have marks : Quantity.dropMarks (Hex.ofNat n).toList = Nat.toDigits 16 n := by
    rw [Hex.ofNat, String.toList_ofList, Quantity.dropMarks_of_isDigit Hex.isDigit_of_mem_toDigits]
  rw [toList_padWord marks Hex.isDigit_of_mem_toDigits, Hex.map_toLower_toDigits]

end CallData

namespace Quantity

variable {text : String} {digits : List Char} {n : Nat}

theorem parse_eq_ok_iff : parse text = .ok n ↔ read text.toList = .ok n := by
  unfold parse
  split <;> simp_all

theorem parse_of_error {cause : ReadError} (failed : read text.toList = .error cause) :
    ∃ error, parse text = .error error := by
  cases cause <;> simp [parse, failed]

theorem parse_spells (spells : Hex.Spells digits n) (zeros : Nat) :
    parse ("0x" ++ String.ofList (List.replicate zeros '0' ++ digits)) =
      if n < 2 ^ (128 : Nat) then .ok n
      else .error (.outOfRange
        ("0x" ++ String.ofList (List.replicate zeros '0' ++ digits) ++ " exceeds u128")) := by
  have found := Spelling.read_chars ⟨1, zeros, false, digits, spells.isDigit, nofun⟩
  have chars : ("0x" ++ String.ofList (List.replicate zeros '0' ++ digits)).toList =
      '0' :: 'x' :: (List.replicate zeros '0' ++ digits) := by simp
  simp only [Spelling.chars, Spelling.sign, spells.number, List.replicate_one, List.flatten_singleton,
    List.cons_append, List.nil_append, Bool.false_eq_true, if_false] at found
  rw [parse, chars, found]
  split_ifs <;> rfl

/-- What stands after one mark is read as the number that it stands for, whatever zeros are in front
and in whatever case the letters are, or is out of range for good; so written numbers and words are
read back. A text that has more than digits after all marks, all zeros and a plus sign is never
read. -/
theorem parse_of_digits :
    (∀ (zeros : Nat) (digits : List Char) (n : Nat), Hex.Spells digits n →
      let text := "0x" ++ String.ofList (List.replicate zeros '0' ++ digits)
      (n < 2 ^ (128 : Nat) → parse text = .ok n) ∧
      (2 ^ (128 : Nat) ≤ n → ∃ cause, parse text = .error cause ∧
        cause = .outOfRange (text ++ " exceeds u128") ∧ cause.isRetryable = false)) ∧
    (∀ n < 2 ^ (128 : Nat), parse (encode n) = .ok n ∧
      parse ("0x" ++ CallData.padWord (Hex.ofNat n)) = .ok n) ∧
    ∀ text : String, (∃ c ∈ dropSign (body text.toList), ¬ Hex.IsDigit c) →
      ∃ cause, parse text = .error cause := by
  refine ⟨fun zeros digits n spells => ?_, fun n small => ⟨?_, ?_⟩, ?_⟩
  next =>
    have found := parse_spells spells zeros
    intro text
    exact ⟨fun small => found.trans (if_pos small),
      fun large => ⟨_, found.trans (if_neg (not_lt.mpr large)), rfl, rfl⟩⟩
  next => exact (parse_spells (Hex.spells_toDigits n) 0).trans (if_pos small)
  next =>
    rw [← String.ofList_toList (s := CallData.padWord _), CallData.toList_padWord_ofNat]
    exact (parse_spells (Hex.spells_toDigits n) _).trans (if_pos small)
  next =>
    rintro text ⟨c, member, other⟩
    obtain ⟨_, failed⟩ := read_of_not_isDigit member other
    exact parse_of_error failed

namespace Sample

-- zeros and letters in both cases, a number that takes 129 bits, and a text that begins like a
-- quantity
theorem parse_of_digits_mixed :
    parse "0x001bC16d674eC80000" = .ok (2 * 10 ^ 18) ∧
    (∃ cause, parse "0x0100000000000000000000000000000000" = .error cause ∧
      cause.isRetryable = false) ∧
    (parse (encode 255) = .ok 255 ∧ parse ("0x" ++ CallData.padWord (Hex.ofNat 255)) = .ok 255) ∧
    ∃ cause, parse "0x0x00+1é" = .error cause := by
  obtain ⟨spelled, written, other⟩ := parse_of_digits
  obtain ⟨known, _⟩ := spelled 2 "1bC16d674eC80000".toList (2 * 10 ^ 18) (.inl (by decide))
  obtain ⟨_, large⟩ := spelled 1 "100000000000000000000000000000000".toList (2 ^ 128)
    (.inl (by decide))
  obtain ⟨cause, failed, _, final⟩ := large (Nat.le_refl _)
  exact ⟨known (by decide), ⟨cause, failed, final⟩, written 255 (by decide),
    other "0x0x00+1é" ⟨'é', by decide, by decide⟩⟩

end Sample

/-- A text is read exactly if it is a spelling whose digits have room in 128 bits, as the number of
its digits. Of all spellings, those with one mark and without a sign are what a quantity should look
like. -/
theorem parse_eq_ok_iff_spelled (text : String) :
    (∀ n, parse text = .ok n ↔
      ∃ s : Spelling, s.chars = text.toList ∧ Hex.number s.digits = n ∧ n < 2 ^ (128 : Nat)) ∧
    ∀ s : Spelling, s.chars = text.toList →
      (IsMarked text.toList ↔ s.marks = 1 ∧ s.signed = false) := by
  constructor
  next =>
    intro n
    rw [parse_eq_ok_iff]
    constructor
    next =>
      intro found
      obtain ⟨s, same⟩ := Spelling.exists_of_read found
      rw [← same, s.read_chars] at found
      split_ifs at found with small
      cases found
      exact ⟨s, same, rfl, small⟩
    next =>
      rintro ⟨s, same, rfl, small⟩
      rw [← same, s.read_chars, if_pos small]
  next =>
    intro s same
    rw [← same]
    exact s.isMarked_iff

namespace Sample

-- two marks, zeros, a sign, and letters in both cases
def overmarked : Spelling where
  marks := 2
  zeros := 2
  signed := true
  digits := "1bC".toList
  isDigit := by simpa using by decide
  digits_ne_nil _ := by decide

theorem parse_eq_ok_iff_spelled_overmarked :
    parse "0x0x00+1bC" = .ok 444 ∧ ¬ IsMarked "0x0x00+1bC".toList := by
  have chars : overmarked.chars = "0x0x00+1bC".toList := by decide
  obtain ⟨accepted, marked⟩ := parse_eq_ok_iff_spelled "0x0x00+1bC"
  refine ⟨(accepted 444).mpr ⟨overmarked, chars, by decide, by decide⟩, ?_⟩
  rw [marked overmarked chars]
  decide

-- the gas price that is made of a node's result
def priceOf (result : String) : Outcome NetworkError Nat :=
  Id.run <| (JsonRpc.gasPrice "https://one.example" 1).run fun _ =>
    .ok { status := 200, body := .ok ("\x7b\"id\":1,\"result\":\"" ++ result ++ "\"\x7d") }

theorem unmarked_texts_read :
    (¬ IsMarked "100".toList ∧ parse "100" = .ok 256 ∧ priceOf "100" = .ok 256) ∧
    (¬ IsMarked "".toList ∧ parse "" = .ok 0) ∧
    (¬ IsMarked "0x+5".toList ∧ parse "0x+5" = .ok 5) ∧
    ¬ IsMarked "0x0x5".toList ∧ parse "0x0x5" = .ok 5 := by
  decide +kernel

end Sample

end Quantity

end CoinWallet
