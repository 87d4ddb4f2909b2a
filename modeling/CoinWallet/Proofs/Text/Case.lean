import Mathlib
import CoinWallet.Text.Case

set_option autoImplicit false

namespace CoinWallet.Text

def IsLower (c : Char) : Prop :=
  c.toNat ≠ 0x3a3 ∧ lowerChar c = [c]

instance (c : Char) : Decidable (IsLower c) :=
  inferInstanceAs (Decidable (_ ∧ _))

def CaseRun.shift (r : CaseRun) (code : Nat) : Nat :=
  (code + r.delta).toNat

-- the forms of `r` lie beside what `other` covers, or between its steps
def CaseRun.misses (r other : CaseRun) : Bool :=
  Nat.blt (r.shift r.last) other.first || Nat.blt other.last (r.shift r.first) ||
    (Nat.blt 0 (r.shift r.first) && (Nat.beq r.step 2 || Nat.beq r.first r.last) &&
      Nat.beq other.step 2 && Nat.beq ((r.shift r.first + other.first) % 2) 1)

def upperRuns : List CaseRun :=
  ⟨65, 90, 1, 32⟩ :: ⟨0x130, 0x130, 1, 0⟩ :: caseRuns

theorem caseRuns_misses :
    (caseRuns.all fun r => upperRuns.all fun other => r.misses other) = true := by
  decide +kernel

theorem CaseRun.covers_shift {r other : CaseRun} {code : Nat} (apart : r.misses other = true)
    (covered : r.covers code = true) : other.covers (r.shift code) = false := by
  simp only [covers, Bool.and_eq_true, decide_eq_true_eq, beq_iff_eq] at covered
  simp only [misses, shift, Bool.or_eq_true, Bool.and_eq_true, Nat.blt_eq, Nat.beq_eq] at apart
  obtain ⟨⟨above, below⟩, onStep⟩ := covered
  by_contra hit
  rw [Bool.not_eq_false] at hit
  simp only [covers, Bool.and_eq_true, decide_eq_true_eq, beq_iff_eq] at hit
  obtain ⟨⟨left, right⟩, parity⟩ := hit
  simp only [shift] at left right parity
  rcases apart with (before | after) | ⟨⟨⟨positive, even | single⟩, pair⟩, odd⟩
  · omega
  · omega
  · rw [even] at onStep
    rw [pair] at parity
    omega
  · rw [pair] at parity
    omega

theorem covers_shift_of_mem {r other : CaseRun} {code : Nat} (mem : r ∈ caseRuns)
    (upper : other ∈ upperRuns) (covered : r.covers code = true) :
    other.covers (r.shift code) = false := by
  have all := List.all_eq_true.mp (List.all_eq_true.mp caseRuns_misses r mem) other upper
  exact CaseRun.covers_shift all covered

theorem isLower_of_ascii {c : Char} (ascii : c.toNat < 128) (small : c.isUpper = false) :
    IsLower c := by
  have fixed : c.toLower = c := Char.toLower_eq_of_not_isUpper (by simp [small])
  exact ⟨by omega, by simp [lowerChar, ascii, fixed]⟩

theorem toLower_eq_of_not_ascii {c : Char} (wide : ¬ c.toNat < 128) : c.toLower = c := by
  have small : c.isUpper = false := by
    simp [Char.isUpper, UInt32.le_iff_toNat_le]
    omega
  exact Char.toLower_eq_of_not_isUpper (by simp [small])

theorem isLower_of_uncovered {c : Char} (wide : 128 ≤ c.toNat) (regular : c.toNat ≠ 0x130)
    (uncovered : ∀ r ∈ caseRuns, r.covers c.toNat = false) : IsLower c := by
  have none : caseRuns.find? (fun r => r.covers c.toNat) = none := by
    simpa [List.find?_eq_none] using uncovered
  have sigma : c.toNat ≠ 0x3a3 := by
    intro same
    have listed : (caseRuns.any fun r => r.covers 0x3a3) = true := by decide +kernel
    obtain ⟨r, member, covered⟩ := List.any_eq_true.mp listed
    rw [← same, uncovered r member] at covered
    contradiction
  have high : ¬ c.toNat < 128 := by omega
  exact ⟨sigma, by simp [lowerChar, high, regular, none]⟩

theorem isLower_shift {r : CaseRun} {code : Nat} (mem : r ∈ caseRuns)
    (covered : r.covers code = true) : IsLower (Char.ofNat (r.shift code)) := by
  have uncovered (other : CaseRun) (upper : other ∈ upperRuns) :
      other.covers (r.shift code) = false :=
    covers_shift_of_mem mem upper covered
  by_cases valid : (r.shift code).isValidChar
  · have value : (Char.ofNat (r.shift code)).toNat = r.shift code := by
      simp [Char.toNat_ofNat, valid]
    by_cases ascii : r.shift code < 128
    · apply isLower_of_ascii (by omega)
      have small := uncovered ⟨65, 90, 1, 32⟩ (by simp [upperRuns])
      simp only [CaseRun.covers, Nat.mod_one, beq_self_eq_true, Bool.and_true,
        Bool.and_eq_false_iff, decide_eq_false_iff_not] at small
      simp [Char.isUpper, UInt32.le_iff_toNat_le, value]
      omega
    · apply isLower_of_uncovered (by omega)
      · rw [value]
        intro same
        have dotted := uncovered ⟨0x130, 0x130, 1, 0⟩ (by simp [upperRuns])
        rw [same] at dotted
        exact absurd dotted (by decide)
      · intro other member
        rw [value]
        exact uncovered other (by simp [upperRuns, member])
  · have zero : Char.ofNat (r.shift code) = Char.ofNat 0 := by
      apply Char.toNat_inj.mp
      simp [Char.toNat_ofNat, valid]
    rw [zero]
    exact isLower_of_ascii (by decide) (by decide)

theorem toNat_toLower_lt {c : Char} (ascii : c.toNat < 128) : c.toLower.toNat < 128 := by
  rw [Char.toLower]
  split
  next upper =>
    have bound := upper.2
    simp only [Char.toNat, UInt32.le_iff_toNat_le, UInt32.toNat_add] at bound ⊢
    simp at bound ⊢
    omega
  next => exact ascii

theorem isLower_lowerChar {c d : Char} (plain : c.toNat ≠ 0x3a3) (mem : d ∈ lowerChar c) :
    IsLower d := by
  by_cases ascii : c.toNat < 128
  · simp only [lowerChar, ascii, if_true, List.mem_singleton] at mem
    subst mem
    exact isLower_of_ascii (toNat_toLower_lt ascii) (Char.isUpper_toLower_eq_false c)
  · by_cases dotted : c.toNat = 0x130
    · have form : lowerChar c = ['i', Char.ofNat 0x307] := by simp [lowerChar, dotted]
      rw [form, List.mem_pair] at mem
      rcases mem with rfl | rfl
      · decide +kernel
      · decide +kernel
    · cases found : caseRuns.find? (fun r => r.covers c.toNat) with
      | none =>
        simp only [lowerChar, ascii, if_false, dotted, found, List.mem_singleton] at mem
        subst mem
        exact isLower_of_uncovered (by omega) dotted (by simpa [List.find?_eq_none] using found)
      | some r =>
        simp only [lowerChar, ascii, if_false, dotted, found, List.mem_singleton] at mem
        subst mem
        exact isLower_shift (List.mem_of_find?_eq_some found)
          (by simpa using List.find?_some found)

theorem isLower_lowerFrom (before cs : List Char) :
    ∀ d ∈ lowerFrom before cs, IsLower d := by
  induction cs generalizing before with
  | nil => simp [lowerFrom]
  | cons c rest ih =>
    intro d mem
    simp only [lowerFrom, List.mem_append] at mem
    rcases mem with form | later
    · by_cases sigma : c.toNat = 0x3a3
      · simp only [sigma, if_true] at form
        split at form <;> (rw [List.mem_singleton] at form; subst form; decide +kernel)
      · simp only [sigma, if_false] at form
        exact isLower_lowerChar sigma form
    · exact ih _ d later

theorem toLower_eq_of_isLower {c : Char} (small : IsLower c) : c.toLower = c := by
  by_cases ascii : c.toNat < 128
  next =>
    have fixed := small.2
    simp only [lowerChar, ascii, if_true, List.cons.injEq, and_true] at fixed
    exact fixed
  next => exact toLower_eq_of_not_ascii ascii

-- capitals of other scripts than the Latin one are left out by ASCII
theorem lowerFrom_eq_map (before : List Char) {cs : List Char}
    (small : ∀ c ∈ cs, IsLower c.toLower) : lowerFrom before cs = cs.map Char.toLower := by
  induction cs generalizing before with
  | nil => rfl
  | cons c rest ih =>
    have form : c.toNat ≠ 0x3a3 ∧ lowerChar c = [c.toLower] := by
      by_cases ascii : c.toNat < 128
      next => exact ⟨by omega, by simp [lowerChar, ascii]⟩
      next =>
        have here := small c List.mem_cons_self
        rw [toLower_eq_of_not_ascii ascii] at here ⊢
        exact here
    simp only [lowerFrom, form.1, if_false, form.2, List.singleton_append, List.map_cons]
    rw [ih _ fun d later => small d (List.mem_cons_of_mem c later)]

theorem asciiFold_lower_eq (s : String) : asciiFold (lower s) = (lower s).toList := by
  have small : ∀ c ∈ (lower s).toList, c.toLower = id c := by
    intro c member
    rw [lower, String.toList_ofList] at member
    exact toLower_eq_of_isLower (isLower_lowerFrom [] s.toList c member)
  rw [asciiFold, List.map_congr_left small, List.map_id]

@[simp] theorem lower_lower (s : String) : lower (lower s) = lower s := by
  have small : ∀ c ∈ (lower s).toList, IsLower c.toLower := by
    intro c member
    rw [lower, String.toList_ofList] at member
    have here := isLower_lowerFrom [] s.toList c member
    rwa [toLower_eq_of_isLower here]
  have folded := asciiFold_lower_eq s
  rw [asciiFold] at folded
  rw [lower, lowerFrom_eq_map [] small, folded, String.ofList_toList]

def lowersAscii (s : String) : Bool :=
  (lower s).toList == asciiFold s

theorem asciiFold_lower_eq_iff (stored s : String) :
    asciiFold (lower stored) = asciiFold s ↔ lowersAscii s = true ∧ lower s = lower stored := by
  rw [asciiFold_lower_eq, lowersAscii, beq_iff_eq]
  constructor
  next =>
    intro found
    have small : ∀ c ∈ s.toList, IsLower c.toLower := by
      intro c member
      have folded : c.toLower ∈ asciiFold s := List.mem_map_of_mem member
      rw [← found, lower, String.toList_ofList] at folded
      exact isLower_lowerFrom [] stored.toList _ folded
    have form : (lower s).toList = asciiFold s := by
      rw [lower, lowerFrom_eq_map [] small, String.toList_ofList, asciiFold]
    exact ⟨form, String.toList_inj.mp (form.trans found.symm)⟩
  next =>
    rintro ⟨form, same⟩
    rw [← same, form]

theorem lower_of_isAscii {s : String} (ascii : isAscii s = true) :
    lower s = String.ofList (asciiFold s) := by
  have small : ∀ c ∈ s.toList, IsLower c.toLower := by
    intro c member
    have inside : c.toNat < 128 := by simpa using List.all_eq_true.mp ascii c member
    exact isLower_of_ascii (toNat_toLower_lt inside) (Char.isUpper_toLower_eq_false c)
  rw [lower, lowerFrom_eq_map [] small, asciiFold]

theorem isAscii_lower {s : String} (ascii : isAscii s = true) : isAscii (lower s) = true := by
  rw [lower_of_isAscii ascii]
  have small : ∀ c ∈ s.toList, c.toNat < 128 := by simpa [isAscii] using ascii
  simpa [isAscii, asciiFold] using fun c member => toNat_toLower_lt (small c member)

theorem asciiFold_lower {s : String} (ascii : isAscii s = true) :
    asciiFold (lower s) = asciiFold s := by
  rw [lower_of_isAscii ascii]
  simp [asciiFold, Function.comp_def]

theorem lower_eq_iff {a b : String} (left : isAscii a = true) (right : isAscii b = true) :
    lower a = lower b ↔ asciiFold a = asciiFold b := by
  rw [lower_of_isAscii left, lower_of_isAscii right, String.ofList_inj]

end CoinWallet.Text
