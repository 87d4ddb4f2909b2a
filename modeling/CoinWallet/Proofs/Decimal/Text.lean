import CoinWallet.Decimal.Text
import CoinWallet.Proofs.Text.Digits

set_option autoImplicit false

namespace CoinWallet.Decimal

-- powers are those of the core library
attribute [local instance (high)] instPowNat

theorem digit?_of_isDigit {c : Char} (digit : c.isDigit = true) :
    digit? c = some (c.toNat - '0'.toNat) := by
  rw [Char.isDigit_iff_toNat] at digit
  exact if_pos digit

-- the digits have room: none is rounded off, and after a point none has to be
theorem scan_digits {digits : List Char} (all : ∀ c ∈ digits, c.isDigit = true) (rest : List Char)
    {mantissa : Nat} (places : Nat) (seen pointed : Bool)
    (room : Nat.ofDigitChars 10 digits mantissa < 2 ^ (96 : Nat))
    (short : pointed = true → places + digits.length ≤ maxScale) :
    scan mantissa places seen pointed (digits ++ rest) =
      scan (Nat.ofDigitChars 10 digits mantissa)
        (if pointed then places + digits.length else places) (seen || !digits.isEmpty) pointed
        rest := by
  induction digits generalizing mantissa places seen with
  | nil => simp
  | cons c tail ih =>
    have digit := digit?_of_isDigit (all c List.mem_cons_self)
    have more := fun c member => all c (List.mem_cons_of_mem _ member)
    rw [Nat.ofDigitChars_cons, Nat.mul_comm] at room
    have next : mantissa * 10 + (c.toNat - '0'.toNat) < 2 ^ (96 : Nat) :=
      Nat.lt_of_le_of_lt (Text.le_ofDigitChars tail _) room
    have early : (pointed && decide (maxScale ≤ places)) = false := by
      cases pointed with
      | false => rfl
      | true => simpa using Nat.lt_of_lt_of_le (by simp) (short rfl)
    rw [List.cons_append, scan, early]
    simp only [Bool.false_eq_true, if_false, digit, next, if_true]
    rw [ih more _ true room (by cases pointed <;> simp_all; omega), Nat.ofDigitChars_cons,
      Nat.mul_comm 10]
    cases pointed <;> simp [Nat.add_comm, Nat.add_left_comm]

theorem scan_parts {whole places : List Char} (some : whole ≠ [])
    (all : ∀ c ∈ whole ++ places, c.isDigit = true) (short : places.length ≤ maxScale)
    (room : Nat.ofDigitChars 10 (whole ++ places) 0 < 2 ^ (96 : Nat)) :
    scan 0 0 false false (whole ++ if places = [] then [] else '.' :: places) =
      Option.some (Nat.ofDigitChars 10 (whole ++ places) 0, places.length) := by
  rw [Nat.ofDigitChars_append] at room ⊢
  have seen : (false || !whole.isEmpty) = true := by simpa using some
  have first := scan_digits (fun c member => all c (List.mem_append_left _ member))
    (if places = [] then [] else '.' :: places) 0 false false
    (Nat.lt_of_le_of_lt (Text.le_ofDigitChars places _) room) (by simp)
  rw [first, seen]
  by_cases none : places = []
  next => simp [none, scan]
  next =>
    have second := scan_digits (fun c member => all c (List.mem_append_right _ member)) [] 0 true
      true room (by simpa using short)
    have point : digit? '.' = Option.none := by decide
    rw [List.append_nil] at second
    simp [none, scan, point, second]

def digits (d : Decimal) : List Char :=
  Text.padded d.mantissa.natAbs (d.scale + 1)

-- what stands before the point
def whole (d : Decimal) : List Char :=
  d.digits.take (d.digits.length - d.scale)

-- what stands after it
def places (d : Decimal) : List Char :=
  d.digits.drop (d.digits.length - d.scale)

theorem toChars_eq (d : Decimal) :
    d.toChars = (if d.mantissa < 0 then ['-'] else []) ++
      (d.whole ++ if d.scale = 0 then [] else '.' :: d.places) := by
  simp only [toChars, paddedDigits, whole, places, digits, Text.padded, List.append_assoc]

theorem scale_lt_length_digits (d : Decimal) : d.scale < d.digits.length := by
  rw [digits, Text.length_padded]
  omega

theorem whole_append_places (d : Decimal) : d.whole ++ d.places = d.digits :=
  List.take_append_drop _ _

theorem length_places (d : Decimal) : d.places.length = d.scale := by
  have := d.scale_lt_length_digits
  rw [places, List.length_drop]
  omega

theorem whole_ne_nil (d : Decimal) : d.whole ≠ [] := by
  have := d.scale_lt_length_digits
  rw [whole, ne_eq, List.eq_nil_iff_length_eq_zero, List.length_take]
  omega

theorem scan_written (d : Decimal) :
    scan 0 0 false false (d.whole ++ if d.scale = 0 then [] else '.' :: d.places) =
      some (d.mantissa.natAbs, d.scale) := by
  have none : d.places = [] ↔ d.scale = 0 := by
    rw [List.eq_nil_iff_length_eq_zero, length_places]
  have value : Nat.ofDigitChars 10 (d.whole ++ d.places) 0 = d.mantissa.natAbs := by
    rw [whole_append_places]
    exact Text.ofDigitChars_padded _ _
  have scanned := scan_parts d.whole_ne_nil
    (fun c member => Text.isDigit_of_mem_padded (d.whole_append_places ▸ member))
    (Nat.le_trans (Nat.le_of_eq d.length_places) d.scale_le) (value ▸ d.mantissa_lt)
  simpa only [none, value, length_places] using scanned

theorem readPlain?_of_isDigit {c : Char} {rest : List Char} (digit : c.isDigit = true) :
    readPlain? (c :: rest) =
      (scan 0 0 false false (c :: rest)).bind fun (mantissa, places) => ofScaled? mantissa places := by
  unfold readPlain?
  split
  next same => cases same; cases digit
  next same => cases same; cases digit
  next => rfl

theorem readPlain?_written (d : Decimal) :
    readPlain? (d.whole ++ if d.scale = 0 then [] else '.' :: d.places) =
      ofScaled? d.mantissa.natAbs d.scale := by
  have scanned := d.scan_written
  cases first : d.whole with
  | nil => exact absurd first d.whole_ne_nil
  | cons c rest =>
    have among : c ∈ d.whole := first ▸ List.mem_cons_self
    have digit : c.isDigit = true := Text.isDigit_of_mem_padded (List.mem_of_mem_take among)
    rw [first, List.cons_append] at scanned
    rw [List.cons_append, readPlain?_of_isDigit digit, scanned]
    rfl

theorem readPlain?_minus_written (d : Decimal) :
    readPlain? ('-' :: (d.whole ++ if d.scale = 0 then [] else '.' :: d.places)) =
      ofScaled? (-d.mantissa.natAbs) d.scale := by
  simp only [readPlain?, scan_written, Option.bind_eq_bind, Option.bind_some]

theorem ofScaled?_self (d : Decimal) : ofScaled? d.mantissa d.scale = some d :=
  dif_pos ⟨d.mantissa_lt, d.scale_le⟩

theorem readPlain?_toChars (d : Decimal) : readPlain? d.toChars = some d := by
  rw [toChars_eq]
  split
  next negative =>
    rw [List.singleton_append, readPlain?_minus_written,
      show -(d.mantissa.natAbs : Int) = d.mantissa by omega, ofScaled?_self]
  next =>
    rw [List.nil_append, readPlain?_written,
      show (d.mantissa.natAbs : Int) = d.mantissa by omega, ofScaled?_self]

theorem parse?_toText (d : Decimal) : parse? d.toText = some d := by
  simp only [parse?, toText, String.toList_ofList, readPlain?_toChars]

theorem parse?_minus_toText {d : Decimal} (zero : d.isZero = true) :
    parse? ("-" ++ d.toText) = some d := by
  have none : d.mantissa = 0 := by simpa [isZero] using zero
  have same : -(d.mantissa.natAbs : Int) = d.mantissa := by omega
  have read : readPlain? ('-' :: d.toChars) = some d := by
    rw [toChars_eq, if_neg (by omega), List.nil_append, readPlain?_minus_written, same, ofScaled?_self]
  simp only [parse?, toText, String.toList_append, String.toList_ofList, String.reduceToList,
    List.singleton_append, read]

end CoinWallet.Decimal
