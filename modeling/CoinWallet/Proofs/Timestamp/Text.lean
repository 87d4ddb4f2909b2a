import CoinWallet.Proofs.Text.Digits
import CoinWallet.Proofs.Timestamp.Calendar
import CoinWallet.Timestamp.Text
import Mathlib.Data.List.TakeWhile

set_option autoImplicit false

namespace CoinWallet.Timestamp

-- powers are those of the core library
attribute [local instance (high)] instPowNat

open Text (trimLeft isBlank)

theorem trimLeft_cons {c : Char} (rest : List Char) (solid : isBlank c = false) :
    trimLeft (c :: rest) = c :: rest := by
  simp [trimLeft, solid]

theorem isBlank_of_isDigit {c : Char} (digit : c.isDigit = true) : isBlank c = false := by
  have least : 48 ≤ c.toNat := (Char.isDigit_iff_toNat.mp digit).1
  have most : c.toNat ≤ 57 := (Char.isDigit_iff_toNat.mp digit).2
  simp only [isBlank, Bool.or_eq_false_iff, Bool.and_eq_false_iff, decide_eq_false_iff_not,
    beq_eq_false_iff_ne]
  omega

theorem padded_eq (width n : Nat) : padded width n = Text.padded n width := rfl

theorem foldl_digitOf (cs : List Char) (n : Nat) :
    cs.foldl (fun n c => 10 * n + digitOf c) n = Nat.ofDigitChars 10 cs n := by
  induction cs generalizing n with
  | nil => rfl
  | cons c tail ih => rw [List.foldl_cons, Nat.ofDigitChars_cons, ih, digitOf]

theorem padded_ne_nil {width : Nat} (some : 0 < width) (n : Nat) : Text.padded n width ≠ [] := by
  rw [← List.length_pos_iff, Text.length_padded]
  omega

theorem exists_padded {width : Nat} (some : 0 < width) (n : Nat) :
    ∃ c rest, Text.padded n width = c :: rest ∧ c.isDigit = true := by
  obtain ⟨c, rest, digits⟩ := List.exists_cons_of_ne_nil (padded_ne_nil some n)
  have member : c ∈ Text.padded n width := digits ▸ List.mem_cons_self
  exact ⟨c, rest, digits, Text.isDigit_of_mem_padded member⟩

theorem trimLeft_padded {width : Nat} (some : 0 < width) (n : Nat) (rest : List Char) :
    trimLeft (Text.padded n width ++ rest) = Text.padded n width ++ rest := by
  obtain ⟨c, tail, digits, digit⟩ := exists_padded some n
  rw [digits]
  exact trimLeft_cons _ (isBlank_of_isDigit digit)

theorem scanNumber_padded {width n : Nat} (some : 0 < width) (room : n < 10 ^ width)
    (rest : List Char) :
    scanNumber width (Text.padded n width ++ rest) = Option.some (n, rest) := by
  have length := Text.length_padded_of_lt some room
  have digits : ((Text.padded n width ++ rest).take width).takeWhile Char.isDigit =
      Text.padded n width := by
    rw [List.take_left' length, List.takeWhile_eq_self_iff]
    exact fun c member => Text.isDigit_of_mem_padded member
  have nonempty : (Text.padded n width).isEmpty = false := by
    simpa using padded_ne_nil some n
  simp only [scanNumber, trimLeft_padded some, digits, nonempty, foldl_digitOf,
    Text.ofDigitChars_padded, List.drop_left' rfl, Bool.false_eq_true, if_false]

theorem scanLiteral_cons {c : Char} (rest : List Char) (solid : isBlank c = false) :
    scanLiteral c (c :: rest) = some rest := by
  simp [scanLiteral, trimLeft_cons rest solid]

theorem scanYear_padded {n : Nat} (room : n < 10000) (rest : List Char) :
    scanYear (Text.padded n 4 ++ rest) = some ((n : Int), rest) := by
  have four : 0 < 4 := by decide
  have scanned := scanNumber_padded four room rest
  obtain ⟨c, tail, digits, digit⟩ := exists_padded four n
  unfold scanYear
  rw [trimLeft_padded four]
  rw [digits] at scanned ⊢
  -- a digit is no sign
  split
  next same => cases same; cases digit
  next same => cases same; cases digit
  next => rw [scanned, Option.map_some]

theorem scanFraction_padded {width n : Nat} (some : 0 < width) (short : width ≤ 9)
    (room : n < 10 ^ width) :
    scanFraction ('.' :: (Text.padded n width ++ ['Z'])) =
      Option.some (n * 10 ^ (9 - width), ['Z']) := by
  have length := Text.length_padded_of_lt some room
  have all : ∀ c ∈ Text.padded n width, c.isDigit = true := fun c => Text.isDigit_of_mem_padded
  have digits : ((Text.padded n width ++ ['Z']).take 9).takeWhile Char.isDigit =
      Text.padded n width := by
    rw [List.take_append, List.take_of_length_le (by omega), List.takeWhile_append_of_pos all]
    cases 9 - (Text.padded n width).length <;> simp
  have nonempty : (Text.padded n width).isEmpty = false := by
    simpa using padded_ne_nil some n
  simp only [scanFraction, digits, nonempty, foldl_digitOf, Text.ofDigitChars_padded, length,
    List.dropWhile_append_of_pos all, Bool.false_eq_true, if_false]
  rfl

theorem scanFraction_fractionChars {nanos : Nat} (second : nanos < 1000000000) :
    scanFraction (fractionChars nanos ++ ['Z']) = some (nanos, ['Z']) := by
  unfold fractionChars
  simp only [padded_eq]
  split
  next zero =>
    subst zero
    rfl
  split
  next whole =>
    rw [List.cons_append, scanFraction_padded (by decide) (by decide) (by omega)]
    congr 2
    omega
  split
  next whole =>
    rw [List.cons_append, scanFraction_padded (by decide) (by decide) (by omega)]
    congr 2
    omega
  next =>
    rw [List.cons_append, scanFraction_padded (by decide) (by decide) (by omega)]
    simp

structure InYears (t : Timestamp) : Prop where
  least : 1 ≤ (CivilDate.ofDays (t.seconds / 86400)).year
  most : (CivilDate.ofDays (t.seconds / 86400)).year ≤ 9999
  nanos : t.nanos < 1000000000

theorem toText_eq {t : Timestamp} (years : t.InYears) :
    t.toText.toList =
      Text.padded (CivilDate.ofDays (t.seconds / 86400)).year.toNat 4 ++ '-' ::
        (Text.padded (CivilDate.ofDays (t.seconds / 86400)).month 2 ++ '-' ::
        (Text.padded (CivilDate.ofDays (t.seconds / 86400)).day 2 ++ 'T' ::
        (Text.padded ((t.seconds % 86400).toNat / 3600) 2 ++ ':' ::
        (Text.padded ((t.seconds % 86400).toNat / 60 % 60) 2 ++ ':' ::
        (Text.padded ((t.seconds % 86400).toNat % 60) 2 ++ (fractionChars t.nanos ++ ['Z'])))))) := by
  obtain ⟨least, most, nanos⟩ := years
  have year : yearChars (CivilDate.ofDays (t.seconds / 86400)).year =
      Text.padded (CivilDate.ofDays (t.seconds / 86400)).year.toNat 4 :=
    if_pos ⟨by omega, most⟩
  have ordinary : ¬ 1000000000 ≤ t.nanos := by omega
  simp [toText, year, padded_eq, ordinary, Nat.mod_eq_of_lt nanos]

theorem isValid_ofDays {days : Int} (least : 1 ≤ (CivilDate.ofDays days).year)
    (most : (CivilDate.ofDays days).year ≤ 9999) : (CivilDate.ofDays days).isValid = true := by
  obtain ⟨⟨firstMonth, lastMonth⟩, firstDay, lastDay⟩ := CivilDate.ofDays_inMonth days
  simp only [CivilDate.isValid, CivilDate.isReadable, Bool.and_eq_true, decide_eq_true_eq]
  omega

theorem lt_of_ofDays (days : Int) :
    (CivilDate.ofDays days).month < 100 ∧ (CivilDate.ofDays days).day < 100 := by
  obtain ⟨⟨_, lastMonth⟩, _, lastDay⟩ := CivilDate.ofDays_inMonth days
  have short : CivilDate.monthLength (CivilDate.ofDays days).year (CivilDate.ofDays days).month ≤ 31 := by
    unfold CivilDate.monthLength
    repeat' split
    all_goals omega
  omega

theorem bind_eq_of_eq_some {α β : Type} {o : Option α} {f : α → Option β} {a : α} {r : Option β}
    (found : o = some a) (rest : f a = r) : (o >>= f) = r := by
  rw [found]
  exact rest

theorem parse?_toText {t : Timestamp} (years : t.InYears) : parse? t.toText = some t := by
  rw [parse?, toText_eq years]
  obtain ⟨least, most, nanos⟩ := years
  have days := (CivilDate.year_ofDays_iff (t.seconds / 86400)).mp ⟨least, most⟩
  have back := CivilDate.toDays_ofDays (t.seconds / 86400)
  have valid := isValid_ofDays least most
  obtain ⟨month, day⟩ := lt_of_ofDays (t.seconds / 86400)
  generalize CivilDate.ofDays (t.seconds / 86400) = date at *
  have year : ((date.year.toNat : Nat) : Int) = date.year := Int.toNat_of_nonneg (by omega)
  have moment : date.toDays * 86400 + ((t.seconds % 86400).toNat : Int) - 0 = t.seconds := by omega
  have shown : ofSeconds? t.seconds = some { seconds := t.seconds } :=
    if_pos ⟨by omega, by omega⟩
  have ofDay : (t.seconds % 86400).toNat < 86400 := by omega
  generalize (t.seconds % 86400).toNat = second at *
  have hour : second / 3600 < 10 ^ 2 ∧ ¬ 23 < second / 3600 := by omega
  have minute : second / 60 % 60 < 10 ^ 2 ∧ ¬ 59 < second / 60 % 60 := by omega
  have last : second % 60 < 10 ^ 2 ∧ ¬ 60 < second % 60 := by omega
  have ordinary : (second % 60 == 60) = false := by
    rw [beq_eq_false_iff_ne]
    omega
  have parts : second / 3600 * 3600 + second / 60 % 60 * 60 + second % 60 = second := by omega
  have dash : isBlank '-' = false := rfl
  have colon : isBlank ':' = false := rfl
  have offset : scanOffset (trimLeft ['Z']) = some (0, []) := by decide
  have finished : (trimLeft []).isEmpty = true := rfl
  have places : 0 < 2 := by decide
  refine bind_eq_of_eq_some (scanYear_padded (by omega) _) ?_
  refine bind_eq_of_eq_some (scanLiteral_cons _ dash) ?_
  refine bind_eq_of_eq_some (scanNumber_padded places month _) ?_
  refine bind_eq_of_eq_some (scanLiteral_cons _ dash) ?_
  refine bind_eq_of_eq_some (scanNumber_padded places day _) ?_
  -- the letter between the date and the time
  refine bind_eq_of_eq_some rfl ?_
  refine bind_eq_of_eq_some (scanNumber_padded places hour.1 _) ?_
  refine bind_eq_of_eq_some (scanLiteral_cons _ colon) ?_
  refine bind_eq_of_eq_some (scanNumber_padded places minute.1 _) ?_
  refine bind_eq_of_eq_some (scanLiteral_cons _ colon) ?_
  refine bind_eq_of_eq_some (scanNumber_padded places last.1 _) ?_
  refine bind_eq_of_eq_some (scanFraction_fractionChars nanos) ?_
  refine bind_eq_of_eq_some offset ?_
  simp only [year, finished, valid, hour.2, minute.2, last.2, ordinary, parts, moment, shown,
    Bool.not_true, Bool.or_false, decide_false, Bool.false_eq_true, if_false, Option.bind_eq_bind,
    Option.bind_some]

end CoinWallet.Timestamp
