import CoinWallet.Account.Quantity
import CoinWallet.Proofs.Text.Hex

set_option autoImplicit false

namespace CoinWallet.Quantity

-- powers and sums are those of the core library
attribute [local instance (high)] instPowNat Zero.ofOfNat0

variable {digits text : List Char} {n : Nat}

theorem not_isDigit_mark : ¬ Hex.IsDigit 'x' := by decide

theorem not_isDigit_sign : ¬ Hex.IsDigit '+' := by decide

theorem readDigits_from {start : Nat} (room : start < 2 ^ (128 : Nat))
    (all : ∀ c ∈ digits, Hex.IsDigit c) :
    readDigits start digits =
      if start * 16 ^ digits.length + Hex.number digits < 2 ^ (128 : Nat) then
        .ok (start * 16 ^ digits.length + Hex.number digits)
      else .error .tooLarge := by
  induction digits generalizing start with
  | nil =>
    rw [List.length_nil, Nat.pow_zero, Nat.mul_one, Hex.number_nil, Nat.add_zero, if_pos room]
    rfl
  | cons c rest ih =>
    obtain ⟨digit, others⟩ := List.forall_mem_cons.mp all
    have total : start * 16 ^ (c :: rest).length + Hex.number (c :: rest) =
        (16 * start + Hex.value c) * 16 ^ rest.length + Hex.number rest := by
      rw [Hex.number_cons, List.length_cons, Nat.pow_succ]
      ring
    rw [readDigits, Hex.digitValue?_eq, if_pos digit, total]
    by_cases more : 16 * start + Hex.value c < 2 ^ (128 : Nat)
    next => simp only [more, if_true, ih more others]
    next =>
      -- further digits do not bring the number back
      have grows : 16 * start + Hex.value c ≤ (16 * start + Hex.value c) * 16 ^ rest.length :=
        Nat.le_mul_of_pos_right _ (Nat.pow_pos (by decide))
      simp only [more, if_false]
      rw [if_neg (by omega)]

theorem readDigits_of_isDigit (all : ∀ c ∈ digits, Hex.IsDigit c) :
    readDigits 0 digits =
      if Hex.number digits < 2 ^ (128 : Nat) then .ok (Hex.number digits) else .error .tooLarge := by
  rw [readDigits_from (by decide) all, Nat.zero_mul, Nat.zero_add]

theorem readDigits_of_not_isDigit {c : Char} (member : c ∈ digits) (other : ¬ Hex.IsDigit c)
    (start : Nat) : ∃ cause, readDigits start digits = .error cause := by
  induction digits generalizing start with
  | nil => cases member
  | cons d rest ih =>
    rw [readDigits, Hex.digitValue?_eq]
    by_cases digit : Hex.IsDigit d
    next =>
      have later : c ∈ rest := (List.mem_cons.mp member).resolve_left fun same => other (same ▸ digit)
      simp only [digit, if_true]
      split
      next => exact ih later _
      next => exact ⟨_, rfl⟩
    next => exact ⟨.invalidDigit, by simp only [digit, if_false]⟩

theorem dropMarks_of_not_mem (plain : 'x' ∉ text) : dropMarks text = text := by
  unfold dropMarks
  split
  next => simp at plain
  next => rfl

theorem dropMarks_of_isDigit (all : ∀ c ∈ digits, Hex.IsDigit c) : dropMarks digits = digits :=
  dropMarks_of_not_mem fun mark => not_isDigit_mark (all _ mark)

theorem dropMarks_marks (marks : Nat) (rest : List Char) :
    dropMarks ((List.replicate marks ['0', 'x']).flatten ++ rest) = dropMarks rest := by
  induction marks with
  | zero => rfl
  | succ marks ih =>
    rw [List.replicate_succ, List.flatten_cons, List.append_assoc]
    exact ih

theorem exists_marks (text : List Char) :
    ∃ marks, text = (List.replicate marks ['0', 'x']).flatten ++ dropMarks text := by
  fun_induction dropMarks text with
  | case1 rest ih =>
    obtain ⟨marks, same⟩ := ih
    refine ⟨marks + 1, ?_⟩
    rw [List.replicate_succ, List.flatten_cons, List.append_assoc, ← same]
    rfl
  | case2 text => exact ⟨0, rfl⟩

def body (text : List Char) : List Char :=
  (dropMarks text).dropWhile (· == '0')

theorem exists_zeros (text : List Char) : ∃ marks zeros,
    text = (List.replicate marks ['0', 'x']).flatten ++ (List.replicate zeros '0' ++ body text) := by
  obtain ⟨marks, front⟩ := exists_marks text
  have zeros : ∀ c ∈ (dropMarks text).takeWhile (· == '0'), c = '0' := by
    intro c member
    simpa using List.mem_takeWhile_imp member
  refine ⟨marks, ((dropMarks text).takeWhile (· == '0')).length, ?_⟩
  rw [body, ← List.eq_replicate_of_mem zeros, List.takeWhile_append_dropWhile, ← front]

def dropSign : List Char → List Char
  | '+' :: rest => rest
  | cs => cs

theorem dropSign_of_not_mem (plain : '+' ∉ text) : dropSign text = text := by
  unfold dropSign
  split
  next => simp at plain
  next => rfl

theorem exists_sign (text : List Char) : ∃ signed : Bool,
    text = (if signed then ['+'] else []) ++ dropSign text := by
  unfold dropSign
  split
  next => exact ⟨true, rfl⟩
  next => exact ⟨false, rfl⟩

theorem read_eq (text : List Char) :
    read text =
      if body text = ['+'] then .error .invalidDigit else readDigits 0 (dropSign (body text)) := by
  unfold read
  rw [show (dropMarks text).dropWhile (· == '0') = body text from rfl]
  generalize body text = rest
  split
  next => rfl
  next => rfl
  next digits more =>
    rw [if_neg (by simpa using more)]
    rfl
  next sign signed =>
    have plain : dropSign rest = rest := by
      unfold dropSign
      split
      next => exact absurd rfl (signed _)
      next => rfl
    rw [if_neg sign, plain]

theorem read_of_not_isDigit {c : Char} (member : c ∈ dropSign (body text))
    (other : ¬ Hex.IsDigit c) : ∃ cause, read text = .error cause := by
  rw [read_eq]
  split
  next => exact ⟨_, rfl⟩
  next => exact readDigits_of_not_isDigit member other 0

/-- Marks in any number, zeros, a plus sign before at least one digit, and digits in either case. -/
structure Spelling where
  marks : Nat
  zeros : Nat
  signed : Bool
  digits : List Char
  isDigit : ∀ c ∈ digits, Hex.IsDigit c
  digits_ne_nil : signed = true → digits ≠ []

namespace Spelling

def sign (s : Spelling) : List Char :=
  if s.signed then ['+'] else []

def chars (s : Spelling) : List Char :=
  (List.replicate s.marks ['0', 'x']).flatten ++ (List.replicate s.zeros '0' ++ (s.sign ++ s.digits))

theorem mark_not_mem (s : Spelling) : 'x' ∉ List.replicate s.zeros '0' ++ (s.sign ++ s.digits) := by
  have sign : 'x' ∉ s.sign := by
    unfold sign
    split <;> simp
  simp only [List.mem_append, not_or]
  exact ⟨fun zero => not_isDigit_mark (Hex.isDigit_of_mem_zeros _ zero), sign,
    fun member => not_isDigit_mark (s.isDigit _ member)⟩

theorem body_chars (s : Spelling) :
    body s.chars = if s.signed then '+' :: s.digits else s.digits.dropWhile (· == '0') := by
  have zeros : ∀ c ∈ List.replicate s.zeros '0', (c == '0') = true := by simp
  rw [body, chars, dropMarks_marks, dropMarks_of_not_mem s.mark_not_mem,
    List.dropWhile_append_of_pos zeros, sign]
  split <;> rfl

theorem read_chars (s : Spelling) :
    read s.chars =
      if Hex.number s.digits < 2 ^ (128 : Nat) then .ok (Hex.number s.digits)
      else .error .tooLarge := by
  have rest := s.body_chars
  rw [read_eq]
  cases signed : s.signed with
  | true =>
    rw [signed, if_pos rfl] at rest
    rw [rest, if_neg (by simpa using s.digits_ne_nil signed)]
    exact readDigits_of_isDigit s.isDigit
  | false =>
    rw [signed, if_neg Bool.false_ne_true] at rest
    have all : ∀ c ∈ s.digits.dropWhile (· == '0'), Hex.IsDigit c :=
      fun c member => s.isDigit c ((List.dropWhile_sublist _).mem member)
    have plain : '+' ∉ body s.chars := fun sign => not_isDigit_sign (all _ (rest ▸ sign))
    rw [if_neg fun same => plain (by simp [same]), dropSign_of_not_mem plain, rest,
      readDigits_of_isDigit all, Hex.number_dropWhile]

theorem exists_of_read (found : read text = .ok n) : ∃ s : Spelling, s.chars = text := by
  obtain ⟨marks, zeros, front⟩ := exists_zeros text
  obtain ⟨signed, back⟩ := exists_sign (body text)
  have all : ∀ c ∈ dropSign (body text), Hex.IsDigit c := by
    by_contra none
    push Not at none
    obtain ⟨c, member, other⟩ := none
    obtain ⟨cause, failed⟩ := read_of_not_isDigit member other
    rw [found] at failed
    cases failed
  have some : signed = true → dropSign (body text) ≠ [] := by
    intro sign none
    rw [none, if_pos sign, List.append_nil] at back
    rw [read_eq, if_pos back] at found
    cases found
  rw [back] at front
  exact ⟨⟨marks, zeros, signed, _, all, some⟩, front.symm⟩

theorem count_mark (s : Spelling) : s.chars.count 'x' = s.marks := by
  have none := List.count_eq_zero.mpr s.mark_not_mem
  rw [chars, List.count_append, none]
  simp [List.count_flatten]

theorem sign_mem_chars (s : Spelling) : '+' ∈ s.chars ↔ s.signed = true := by
  have none : '+' ∉ s.digits := fun member => not_isDigit_sign (s.isDigit _ member)
  cases signed : s.signed <;> simp [chars, sign, signed, none]

end Spelling

def IsMarked (text : List Char) : Prop :=
  ∃ digits, text = '0' :: 'x' :: digits ∧ ∀ c ∈ digits, Hex.IsDigit c

instance : DecidablePred IsMarked := fun text =>
  decidable_of_iff (text.take 2 = ['0', 'x'] ∧ (text.drop 2).all (Hex.IsDigit ·) = true) <| by
    simp only [List.all_eq_true, decide_eq_true_eq]
    constructor
    next =>
      rintro ⟨mark, all⟩
      refine ⟨text.drop 2, ?_, all⟩
      nth_rewrite 1 [← List.take_append_drop 2 text]
      rw [mark]
      rfl
    next =>
      rintro ⟨digits, rfl, all⟩
      exact ⟨rfl, all⟩

theorem Spelling.isMarked_iff (s : Spelling) : IsMarked s.chars ↔ s.marks = 1 ∧ s.signed = false := by
  constructor
  next =>
    rintro ⟨digits, same, all⟩
    have mark : digits.count 'x' = 0 :=
      List.count_eq_zero.mpr fun member => not_isDigit_mark (all _ member)
    have sign : '+' ∉ digits := fun member => not_isDigit_sign (all _ member)
    rw [← s.count_mark, ← Bool.not_eq_true, ← s.sign_mem_chars, same]
    simp [mark, sign]
  next =>
    rintro ⟨once, plain⟩
    refine ⟨List.replicate s.zeros '0' ++ s.digits, by simp [chars, Spelling.sign, once, plain], ?_⟩
    exact List.forall_mem_append.mpr ⟨Hex.isDigit_of_mem_zeros, s.isDigit⟩

end CoinWallet.Quantity
