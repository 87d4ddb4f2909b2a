import CoinWallet.Proofs.Decimal.Nearest
import CoinWallet.Proofs.Payment.Rules

set_option autoImplicit false

namespace CoinWallet

-- powers and sums are those of the core library
attribute [local instance (high)] instPowNat Zero.ofOfNat0

open Decimal

namespace Payment

variable {p : Payment} {w : Wallet} {errors : List PaymentError} {spent : Decimal}

def Crowded (p : Payment) (w : Wallet) : Prop :=
  p.amount.kind = .coin ∧
    (2 ^ 96 - 1 / 2 ≤ p.amount.value.toRat + p.feeValue.toRat ∨
      ∃ spent, p.amount.value.add? p.feeValue = some spent ∧ p.dust.isSome ∧
        2 ^ 96 - 1 / 2 ≤ w.coinAmount.value.toRat - spent.toRat)

theorem errors?_eq_none_iff :
    p.errors? w = none ↔
      p.spent? = none ∨ ∃ spent, p.spent? = some spent ∧ p.left? w spent = none := by
  rw [Option.eq_none_iff_forall_ne_some]
  constructor
  next =>
    intro never
    cases made : p.spent? with
    | none => exact .inl rfl
    | some spent =>
      refine .inr ⟨spent, rfl, Option.eq_none_iff_forall_ne_some.mpr fun left remains => ?_⟩
      exact never _ (errors?_eq_some_iff.mpr ⟨spent, left, made, remains, rfl⟩)
  next =>
    intro fails errors answer
    obtain ⟨spent, left, made, remains, _⟩ := errors?_eq_some_iff.mp answer
    rcases fails with none | ⟨other, same, none⟩
    · cases none.symm.trans made
    · cases same.symm.trans made
      cases none.symm.trans remains

theorem left?_eq_none_iff :
    p.left? w spent = none ↔
      p.dust.isSome ∧ 2 ^ 96 - 1 / 2 ≤ |w.coinAmount.value.toRat - spent.toRat| := by
  unfold left?
  cases p.dust <;> simp [sub?_eq_none_iff]

theorem abs_sub_lt (first : 0 ≤ w.coinAmount.value.toRat) (second : 0 ≤ spent.toRat) :
    |w.coinAmount.value.toRat - spent.toRat| < 2 ^ 96 - 1 / 2 := by
  have balance := le_of_abs_le w.coinAmount.value.abs_toRat_le
  have most := le_of_abs_le spent.abs_toRat_le
  rw [abs_lt]
  constructor <;> linarith

theorem crowded_iff (balance : 0 ≤ w.coinAmount.value.toRat) (fee : 0 ≤ p.feeValue.toRat) :
    p.errors? w = none ↔ p.Crowded w := by
  rw [errors?_eq_none_iff, Crowded]
  by_cases coin : p.amount.kind = .coin
  next =>
    have least := (abs_le.mp p.amount.value.abs_toRat_le).1
    have sum : |p.amount.value.toRat + p.feeValue.toRat| < 2 ^ 96 - 1 / 2 ↔
        p.amount.value.toRat + p.feeValue.toRat < 2 ^ 96 - 1 / 2 := by
      rw [abs_lt, and_iff_right (by linarith)]
    have spends : p.spent? = p.amount.value.add? p.feeValue := if_pos (spendsCoin_iff.mpr coin)
    rw [spends, add?_eq_none_iff, ← not_lt, sum, not_lt, and_iff_right coin]
    refine or_congr Iff.rfl (exists_congr fun spent => and_congr_right fun _ => ?_)
    rw [left?_eq_none_iff]
    refine and_congr_right fun _ => ?_
    have limit := (abs_le.mp spent.abs_toRat_le).2
    rw [le_abs]
    constructor
    · rintro (here | there)
      · exact here
      · linarith
    · exact .inl
  next =>
    have spends : p.spent? = some p.feeValue := if_neg (mt spendsCoin_iff.mp coin)
    simp only [spends, reduceCtorEq, Option.some.injEq, exists_eq_left', false_or, coin, false_and,
      iff_false, left?_eq_none_iff, not_and, not_le]
    exact fun _ => abs_sub_lt balance fee

-- nothing that is paid is more than the balance holds, in size
theorem crowded_of_nonneg (balance : 0 ≤ w.coinAmount.value.toRat) (fee : 0 ≤ p.feeValue.toRat)
    (amount : 0 ≤ p.amount.value.toRat) :
    p.Crowded w ↔ p.amount.kind = .coin ∧
      2 ^ 96 - 1 / 2 ≤ p.amount.value.toRat + p.feeValue.toRat := by
  refine and_congr_right fun _ => or_iff_left ?_
  rintro ⟨spent, made, _, beyond⟩
  have nearest := nearest_add? made
  have nonneg : 0 ≤ spent.toRat := by
    rw [← toRat_zero]
    exact (Nearest.self zero).mono nearest (by rw [toRat_zero]; exact add_nonneg amount fee)
  have room := (abs_lt.mp (abs_sub_lt balance nonneg)).2
  linarith

/-- There is an answer on a payment exactly if it is not crowded, which for a payment of nothing
less than zero means that amount and fee together have room; and each answer is right on the rules
that compare given values. -/
theorem answers_iff_of_nonneg (balance : 0 ≤ w.coinAmount.value.toRat) (fee : 0 ≤ p.feeValue.toRat) :
    ((∃ errors, p.errors? w = some errors) ↔ ¬ p.Crowded w) ∧
      (0 ≤ p.amount.value.toRat → (p.Crowded w ↔ p.amount.kind = .coin ∧
        2 ^ 96 - 1 / 2 ≤ p.amount.value.toRat + p.feeValue.toRat)) ∧
      ∀ errors, p.errors? w = some errors →
        ∀ e, ComparesGiven e → (e ∈ errors ↔ p.Violates w e) := by
  refine ⟨?_, crowded_of_nonneg balance fee, fun errors made e given => mem_iff_of_comparesGiven made given⟩
  rw [← crowded_iff balance fee, ← ne_eq, Option.ne_none_iff_exists']

namespace Sample

def largest : Decimal where
  mantissa := 2 ^ (96 : Nat) - 1
  scale := 0
  scale_le := Decimal.zero.scale_le

def paying (fee : Decimal) : Payment where
  amount := .coin .dogecoin largest
  fee := some (.coin .dogecoin fee)

-- a fee below half a unit is lost in the sum
theorem answers_iff_of_nonneg_brink :
    ¬ (paying { mantissa := 4, scale := 1 }).Crowded purse ∧
      ∃ errors, (paying { mantissa := 4, scale := 1 }).errors? purse = some errors ∧
        .amountExceedsBalance ∈ errors ∧ .feeExceedsBalance ∉ errors := by
  obtain ⟨answers, plain, right⟩ := answers_iff_of_nonneg
    (p := paying { mantissa := 4, scale := 1 }) (w := purse) (by decide +kernel) (by decide +kernel)
  have room := mt (plain (by decide +kernel)).mp (by decide +kernel)
  obtain ⟨errors, made⟩ := answers.mpr room
  have told := right errors made
  exact ⟨room, errors, made, (told .amountExceedsBalance trivial).mpr (by decide +kernel),
    mt (told .feeExceedsBalance trivial).mp (by decide +kernel)⟩

-- the purse holds one coin, and all there could be is asked of it
theorem largest_amount_unanswered :
    0 ≤ purse.coinAmount.value.toRat ∧ 0 ≤ (paying .one).feeValue.toRat ∧
      (paying .one).Violates purse .amountExceedsBalance ∧ (paying .one).errors? purse = none := by
  decide +kernel

end Sample

end Payment

end CoinWallet
