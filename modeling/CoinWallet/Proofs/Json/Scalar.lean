import CoinWallet.Document.Fields
import CoinWallet.Json.Reader
import CoinWallet.Json.Writer
import CoinWallet.Proofs.Text.Digits

set_option autoImplicit false

namespace CoinWallet.Json

-- powers are those of the core library
attribute [local instance (high)] instPowNat

-- a character that is written as its number is read as a number
def pieceOf (c : Char) : Piece :=
  if (escape c).length = 6 then .unit c.toNat else .char c

theorem hexUnit?_digitChar {n : Nat} (low : n < 0x20) :
    hexUnit? '0' '0' (Nat.digitChar (n / 16)) (Nat.digitChar (n % 16)) = some n := by
  revert n
  decide

theorem scanText_plain {c : Char} (rest : List Char) (quote : c ≠ '"') (slash : c ≠ '\\')
    (high : ¬ c.toNat < 0x20) :
    scanText (c :: rest) = (scanText rest).map fun (pieces, rest) => (.char c :: pieces, rest) := by
  rw [scanText.eq_5 c rest quote (fun _ _ _ _ _ same _ => slash same)
    (fun _ _ same _ => slash same), if_neg high]
  cases scanText rest <;> rfl

theorem scanText_escape (c : Char) (rest : List Char) :
    scanText (escape c ++ rest) =
      (scanText rest).map fun (pieces, rest) => (pieceOf c :: pieces, rest) := by
  unfold pieceOf escape
  split
  case h_8 c quote slash b f n r t =>
    split
    next low =>
      simp [scanText, hexUnit?_digitChar low]
      cases scanText rest <;> rfl
    next high => simpa using scanText_plain rest quote slash high
  all_goals
    simp [scanText, unescape?]
    cases scanText rest <;> rfl

theorem joinPieces_unit {n : Nat} (low : n < 0xd800) (pieces : List Piece) :
    joinPieces (.unit n :: pieces) = (joinPieces pieces).map (Char.ofNat n :: ·) := by
  have single : ¬ (0xd800 ≤ n ∧ n < 0xe000) := by omega
  cases pieces with
  | nil => rw [joinPieces.eq_4 n [] nofun, if_neg single]
  | cons next rest =>
    cases next with
    | char c => rw [joinPieces.eq_4 n (.char c :: rest) nofun, if_neg single]
    | unit m => rw [joinPieces.eq_3, if_neg (by omega), if_neg single]

theorem lt_of_length_escape {c : Char} (long : (escape c).length = 6) : c.toNat < 0x20 := by
  unfold escape at long
  split at long
  case h_8 =>
    split at long
    next low => exact low
    next => cases long
  all_goals cases long

theorem joinPieces_pieceOf (c : Char) (pieces : List Piece) :
    joinPieces (pieceOf c :: pieces) = (joinPieces pieces).map (c :: ·) := by
  unfold pieceOf
  split
  next long =>
    have low := lt_of_length_escape long
    rw [joinPieces_unit (by omega), Char.ofNat_toNat]
  next => rfl

theorem exists_scanText (cs rest : List Char) :
    ∃ pieces, scanText (cs.flatMap escape ++ '"' :: rest) = some (pieces, rest) ∧
      joinPieces pieces = some cs := by
  induction cs with
  | nil => exact ⟨[], rfl, rfl⟩
  | cons c tail ih =>
    obtain ⟨pieces, scanned, joined⟩ := ih
    refine ⟨pieceOf c :: pieces, ?_, ?_⟩
    · rw [List.flatMap_cons, List.append_assoc, scanText_escape, scanned]
      rfl
    · rw [joinPieces_pieceOf, joined]
      rfl

def EndsNumber (rest : List Char) : Prop :=
  ∀ c ∈ rest.head?, c.isDigit = false ∧ c ≠ '.' ∧ c ≠ 'e' ∧ c ≠ 'E'

theorem takeDigits_append {digits rest : List Char} (all : ∀ c ∈ digits, c.isDigit = true)
    (ends : EndsNumber rest) :
    takeDigits (digits ++ rest) = (digits.filterMap digit?, rest) := by
  have stops : rest.takeWhile Char.isDigit = [] ∧ rest.dropWhile Char.isDigit = rest := by
    cases rest with
    | nil => exact ⟨rfl, rfl⟩
    | cons c tail => simp [(ends c rfl).1]
  rw [takeDigits, List.takeWhile_append_of_pos all, List.dropWhile_append_of_pos all, stops.1,
    stops.2, List.append_nil]

theorem ofDigits_filterMap {digits : List Char} (all : ∀ c ∈ digits, c.isDigit = true) :
    ofDigits (digits.filterMap digit?) = Nat.ofDigitChars 10 digits 0 := by
  have general (cs : List Char) (all : ∀ c ∈ cs, c.isDigit = true) (n : Nat) :
      (cs.filterMap digit?).foldl (fun n d => 10 * n + d) n = Nat.ofDigitChars 10 cs n := by
    induction cs generalizing n with
    | nil => rfl
    | cons c tail ih =>
      have value : digit? c = some (c.toNat - '0'.toNat) := if_pos (all c List.mem_cons_self)
      rw [List.filterMap_cons_some value, List.foldl_cons, Nat.ofDigitChars_cons]
      exact ih (fun c member => all c (List.mem_cons_of_mem _ member)) _
  exact general digits all 0

theorem isDigit_of_mem_digits (n : Nat) : ∀ c ∈ Nat.toDigits 10 n, c.isDigit = true :=
  fun _ => Nat.isDigit_of_mem_toDigits (by decide) (by decide)

theorem tail_eq_nil_of_toDigits {n : Nat} {tail : List Char}
    (digits : Nat.toDigits 10 n = '0' :: tail) : tail = [] := by
  induction n using Nat.strongRecOn generalizing tail with
  | ind n ih =>
    rw [Nat.toDigits_eq_if (by decide)] at digits
    split at digits
    next =>
      rw [List.cons_eq_cons] at digits
      exact digits.2.symm
    next large =>
      cases front : Nat.toDigits 10 (n / 10) with
      | nil => exact absurd front Nat.toDigits_ne_nil
      | cons c rest =>
        rw [front, List.cons_append, List.cons_eq_cons] at digits
        obtain ⟨rfl, -⟩ := digits
        obtain rfl := ih (n / 10) (by omega) front
        have value := @Nat.ofDigitChars_ten_toDigits (n / 10)
        rw [front] at value
        have zero : n / 10 = 0 := value.symm
        omega

-- a leading zero is the only digit
theorem exists_digits (n : Nat) :
    ∃ d tail, (Nat.toDigits 10 n).filterMap digit? = d :: tail ∧ (d = 0 → tail = []) := by
  cases digits : Nat.toDigits 10 n with
  | nil => exact absurd digits Nat.toDigits_ne_nil
  | cons c rest =>
    have digit : c.isDigit = true :=
      isDigit_of_mem_digits n c (digits ▸ List.mem_cons_self)
    have value : digit? c = some (c.toNat - '0'.toNat) := if_pos digit
    refine ⟨c.toNat - '0'.toNat, rest.filterMap digit?, List.filterMap_cons_some value, fun zero => ?_⟩
    obtain rfl : c = '0' := by
      have least := (Char.isDigit_iff_toNat.mp digit).1
      exact Char.toNat_inj.mp (by omega)
    rw [tail_eq_nil_of_toDigits digits, List.filterMap_nil]

def wholeText (negative : Bool) (n : Nat) : NumberText :=
  ⟨negative, (Nat.toDigits 10 n).filterMap digit?, [], false, none⟩

-- a number after its sign
def scanUnsigned (negative : Bool) (cs : List Char) : Option (NumberText × List Char) := do
  let (whole, rest) := takeDigits cs
  match whole with
  | [] => none
  | 0 :: _ :: _ => none
  | _ =>
    let (fraction, hasFraction, rest) ← scanFraction rest
    let (exponent, rest) ← scanExponent rest
    some (⟨negative, whole, fraction, hasFraction, exponent⟩, rest)

theorem scanNumber_minus (cs : List Char) : scanNumber ('-' :: cs) = scanUnsigned true cs := rfl

theorem scanNumber_of_isDigit {c : Char} {cs : List Char} (digit : c.isDigit = true) :
    scanNumber (c :: cs) = scanUnsigned false (c :: cs) := by
  -- simp takes the branch without a sign by this
  have unsigned : ∀ rest, c :: cs = '-' :: rest → False := by
    rintro _ ⟨⟩
    cases digit
  simp only [scanNumber]
  rfl

theorem scanUnsigned_toDigits (negative : Bool) (n : Nat) {rest : List Char}
    (ends : EndsNumber rest) :
    scanUnsigned negative (Nat.toDigits 10 n ++ rest) =
      some (wholeText negative n, rest) := by
  have fraction : scanFraction rest = some ([], false, rest) := by
    unfold scanFraction
    split
    next tail => exact absurd rfl (ends '.' rfl).2.1
    next => rfl
  have exponent : scanExponent rest = some (none, rest) := by
    unfold scanExponent
    split
    next c tail => simp [(ends c rfl).2.2.1, (ends c rfl).2.2.2]
    next => rfl
  obtain ⟨d, tail, digits, leading⟩ := exists_digits n
  simp only [scanUnsigned, wholeText, takeDigits_append (isDigit_of_mem_digits n) ends, digits]
  split
  next same => cases same
  next same =>
    rw [List.cons_eq_cons] at same
    rw [leading same.1] at same
    cases same.2
  next => simp [fraction, exponent]

theorem scanNumber_toDigits (negative : Bool) (n : Nat) {rest : List Char}
    (ends : EndsNumber rest) :
    scanNumber ((if negative then ['-'] else []) ++ (Nat.toDigits 10 n ++ rest)) =
      some (wholeText negative n, rest) := by
  rw [← scanUnsigned_toDigits negative n ends]
  cases negative with
  | true => exact scanNumber_minus _
  | false =>
    cases digits : Nat.toDigits 10 n with
    | nil => exact absurd digits Nat.toDigits_ne_nil
    | cons c tail =>
      exact scanNumber_of_isDigit (isDigit_of_mem_digits n c (digits ▸ List.mem_cons_self))

theorem numberChars_whole (n : Int) :
    numberChars (.whole n) =
      (if decide (n < 0) then ['-'] else []) ++ Nat.toDigits 10 n.natAbs := by
  cases n with
  | ofNat m =>
    have text : toString (m : Int) = toString m := rfl
    have positive : ¬ (m : Int) < 0 := by omega
    simp [numberChars, text, positive]
  | negSucc m =>
    have text : toString (Int.negSucc m) = "-" ++ toString (m + 1) := rfl
    simp [numberChars, text, Int.negSucc_lt_zero]

theorem toNode_wholeText {n : Int} (fits : Node.fitsWord n = true) :
    (wholeText (decide (n < 0)) n.natAbs).toNode = .number (.whole n) := by
  have value := (ofDigits_filterMap (isDigit_of_mem_digits n.natAbs)).trans Nat.ofDigitChars_ten_toDigits
  simp only [Node.fitsWord, Bool.and_eq_true, decide_eq_true_eq] at fits
  simp only [NumberText.toNode, wholeText, value]
  by_cases negative : n < 0
  next =>
    have same : -(n.natAbs : Int) = n := by omega
    have low : 0 < n.natAbs ∧ n.natAbs ≤ 2 ^ (63 : Nat) := by omega
    rw [same]
    simp [negative, low]
  next =>
    have same : (n.natAbs : Int) = n := by omega
    have low : n.natAbs < 2 ^ (64 : Nat) := by omega
    rw [same]
    simp [negative, low]

theorem scanNumber_numberChars (n : Int) {rest : List Char} (ends : EndsNumber rest) :
    scanNumber (numberChars (.whole n) ++ rest) =
      some (wholeText (decide (n < 0)) n.natAbs, rest) := by
  rw [numberChars_whole, List.append_assoc, scanNumber_toDigits _ _ ends]

end CoinWallet.Json
