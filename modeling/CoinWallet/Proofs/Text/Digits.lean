set_option autoImplicit false

namespace CoinWallet.Text

-- powers are those of the core library
attribute [local instance (high)] instPowNat

def padded (n width : Nat) : List Char :=
  List.replicate (width - (Nat.toDigits 10 n).length) '0' ++ Nat.toDigits 10 n

theorem isDigit_of_mem_padded {n width : Nat} {c : Char} (member : c ∈ padded n width) :
    c.isDigit = true := by
  rcases List.mem_append.mp member with zero | digit
  · rw [List.eq_of_mem_replicate zero]
    rfl
  · exact Nat.isDigit_of_mem_toDigits (by decide) (by decide) digit

theorem ofDigitChars_padded (n width : Nat) : Nat.ofDigitChars 10 (padded n width) 0 = n := by
  rw [padded, Nat.ofDigitChars_append, Nat.ofDigitChars_replicate_zero, Nat.mul_zero,
    Nat.ofDigitChars_ten_toDigits]

theorem length_padded (n width : Nat) :
    (padded n width).length = max width (Nat.toDigits 10 n).length := by
  simp only [padded, List.length_append, List.length_replicate]
  omega

theorem length_padded_of_lt {n width : Nat} (some : 0 < width) (room : n < 10 ^ width) :
    (padded n width).length = width := by
  rw [length_padded, Nat.max_eq_left ((Nat.length_toDigits_le_iff (by decide) some).mpr room)]

theorem le_ofDigitChars (cs : List Char) (n : Nat) : n ≤ Nat.ofDigitChars 10 cs n := by
  rw [Nat.ofDigitChars_eq_ofDigitChars_zero]
  exact Nat.le_trans (Nat.le_mul_of_pos_left n (Nat.pow_pos (by decide))) (Nat.le_add_right _ _)

end CoinWallet.Text
