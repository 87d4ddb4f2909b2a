set_option autoImplicit false

namespace CoinWallet

/-- The three ways a quotient is rounded: towards zero, or to the nearest whole number with a tie
going to the even neighbour or away from zero. -/
inductive Rounding
  | toZero
  | halfEven
  | halfAway
deriving DecidableEq, Repr

namespace Rounding

-- whether the whole part `q`, left with the remainder `rem` of `den`, goes up by one
def goesUp : Rounding → (q rem den : Nat) → Bool
  | toZero, _, _, _ => false
  | halfEven, q, rem, den => den < 2 * rem || (2 * rem == den && q % 2 == 1)
  | halfAway, _, rem, den => den ≤ 2 * rem

def quotient (r : Rounding) (n d : Nat) : Nat :=
  n / d + (if r.goesUp (n / d) (n % d) d then 1 else 0)

def round (r : Rounding) (n : Int) (d : Nat) : Int :=
  n.sign * (r.quotient n.natAbs d : Int)

theorem quotient_zero (r : Rounding) {d : Nat} (h : 2 ≤ d) : r.quotient 0 d = 0 := by
  cases r <;> simp [quotient, goesUp]
  omega

theorem quotient_le (r : Rounding) (n : Nat) {d : Nat} (h : 2 ≤ d) : r.quotient n d ≤ n := by
  rcases Nat.eq_zero_or_pos n with rfl | pos
  · simp [quotient_zero r h]
  · have half : n / d ≤ n / 2 := Nat.div_le_div_left h (by omega)
    unfold quotient
    split <;> omega

theorem natAbs_round (r : Rounding) (n : Int) (d : Nat) :
    (r.round n d).natAbs = n.sign.natAbs * r.quotient n.natAbs d := by
  simp [round, Int.natAbs_mul]

theorem natAbs_round_le (r : Rounding) (n : Int) {d : Nat} (h : 2 ≤ d) :
    (r.round n d).natAbs ≤ n.natAbs := by
  rw [natAbs_round]
  rcases Int.lt_trichotomy n 0 with neg | rfl | pos
  · simpa [Int.sign_eq_neg_one_of_neg neg] using r.quotient_le n.natAbs h
  · simp
  · simpa [Int.sign_eq_one_of_pos pos] using r.quotient_le n.natAbs h

def ceiling (n : Int) (d : Nat) : Int :=
  -((-n) / (d : Int))

theorem natAbs_ceiling_le (n : Int) (d : Nat) : (ceiling n d).natAbs ≤ n.natAbs := by
  unfold ceiling
  rcases Nat.eq_zero_or_pos d with rfl | pos
  · simp
  · have bound : ((-n) / (d : Int)).natAbs ≤ (-n).natAbs := by
      rcases Int.lt_or_le 0 n with hn | hn
      · have h1 : (-n) / (d : Int) < 0 := Int.ediv_neg_of_neg_of_pos (by omega) (by omega)
        have h2 : -n ≤ (-n) / (d : Int) := by
          rw [Int.le_ediv_iff_mul_le (by omega)]
          have : (-n) * (d : Int) ≤ (-n) * 1 := by
            apply Int.mul_le_mul_of_nonpos_left <;> omega
          omega
        omega
      · have h1 : 0 ≤ (-n) / (d : Int) := Int.ediv_nonneg (by omega) (by omega)
        have h2 : (-n) / (d : Int) ≤ -n := Int.ediv_le_self _ (by omega)
        omega
    omega

end Rounding

end CoinWallet
