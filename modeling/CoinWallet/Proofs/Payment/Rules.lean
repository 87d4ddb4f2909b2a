import CoinWallet.Payment
import CoinWallet.Proofs.Decimal.Order
import CoinWallet.Proofs.Wallet.Assets

set_option autoImplicit false

namespace CoinWallet

-- powers and sums are those of the core library
attribute [local instance (high)] instPowNat Zero.ofOfNat0

open Decimal

def Decimal.Modest (d : Decimal) : Prop :=
  OnGrid 18 d.toRat ∧ |d.toRat| < 2 * 10 ^ 10

namespace Payment

variable {p : Payment} {w : Wallet} {errors : List PaymentError}

def outlay (p : Payment) : Rat :=
  if p.amount.kind = .coin then p.amount.value.toRat + p.feeValue.toRat else p.feeValue.toRat

def change (p : Payment) (w : Wallet) : Rat :=
  w.coinAmount.value.toRat - p.outlay

/-- When a payment breaks a rule. A fee that is not given counts as zero. -/
def Violates (p : Payment) (w : Wallet) : PaymentError → Prop
  | .invalidAmountValue => p.amount.value.toRat ≤ 0
  | .amountExceedsBalance => (w.funds p.amount.kind).toRat < p.amount.value.toRat
  | .feeExceedsBalance => w.coinAmount.value.toRat < p.feeValue.toRat
  | .totalExceedsBalance =>
    p.amount.kind = .coin ∧ w.coinAmount.value.toRat < p.amount.value.toRat + p.feeValue.toRat
  | .dustAmount => ∃ dust ∈ p.dust, p.amount.value.toRat ≠ 0 ∧ p.amount.value.toRat < dust.toRat
  | .dustChange => ∃ dust ∈ p.dust, 0 < p.change w ∧ p.change w < dust.toRat

instance (p : Payment) (w : Wallet) : DecidablePred (p.Violates w)
  | .invalidAmountValue => inferInstanceAs (Decidable (_ ≤ _))
  | .amountExceedsBalance => inferInstanceAs (Decidable (_ < _))
  | .feeExceedsBalance => inferInstanceAs (Decidable (_ < _))
  | .totalExceedsBalance => inferInstanceAs (Decidable (_ ∧ _))
  | .dustAmount => inferInstanceAs (Decidable (∃ dust ∈ p.dust, _ ∧ _))
  | .dustChange => inferInstanceAs (Decidable (∃ dust ∈ p.dust, _ ∧ _))

def ComparesGiven : PaymentError → Prop
  | .totalExceedsBalance | .dustChange => False
  | _ => True

theorem violatesSimple_iff {e : PaymentError} (given : ComparesGiven e) :
    p.violatesSimple w e = true ↔ p.Violates w e := by
  cases e with
  | invalidAmountValue => simp [violatesSimple, Violates, le_iff]
  | amountExceedsBalance => simp [violatesSimple, Violates, lt_iff]
  | feeExceedsBalance => simp [violatesSimple, Violates, lt_iff]
  | totalExceedsBalance => exact given.elim
  | dustAmount =>
    cases dust : p.dust with
    | none => simp [violatesSimple, Violates, dust]
    | some least =>
      have zero : p.amount.value.isZero = false ↔ p.amount.value.toRat ≠ 0 := by
        rw [ne_eq, ← isZero_iff, Bool.not_eq_true]
      simp [violatesSimple, Violates, dust, lt_iff, zero]
  | dustChange => exact given.elim

theorem violatesTotal_of_comparesGiven {e : PaymentError} (given : ComparesGiven e) (spent : Decimal)
    (left : Option Decimal) : p.violatesTotal w spent left e = false := by
  cases e <;> first | rfl | exact given.elim

theorem spendsCoin_iff : p.spendsCoin = true ↔ p.amount.kind = .coin := by
  rw [spendsCoin, beq_iff_eq]

-- only where there is a dust value
def left? (p : Payment) (w : Wallet) (spent : Decimal) : Option (Option Decimal) :=
  match p.dust with
  | some _ => (w.coinAmount.value.sub? spent).map some
  | none => some none

theorem errors?_eq_some_iff :
    p.errors? w = some errors ↔ ∃ spent left, p.spent? = some spent ∧
      p.left? w spent = some left ∧ errors = PaymentError.all.filter fun e =>
        p.violatesSimple w e || p.violatesTotal w spent left e := by
  unfold errors? left?
  cases p.dust <;>
    simp only [Option.bind_eq_bind, Option.bind_eq_some_iff, Option.pure_def, Option.some.injEq,
      exists_and_left, eq_comm (a := errors)]

theorem mem_all (e : PaymentError) : e ∈ PaymentError.all := by
  cases e <;> decide

theorem mem_iff_of_comparesGiven (made : p.errors? w = some errors) {e : PaymentError}
    (given : ComparesGiven e) : e ∈ errors ↔ p.Violates w e := by
  obtain ⟨spent, left, _, _, rfl⟩ := errors?_eq_some_iff.mp made
  rw [List.mem_filter, and_iff_right (mem_all e), violatesTotal_of_comparesGiven given, Bool.or_false,
    violatesSimple_iff given]

structure Modest (p : Payment) (w : Wallet) : Prop where
  balance : w.coinAmount.value.Modest
  amount : p.amount.value.Modest
  fee : ∀ fee ∈ p.fee, fee.value.Modest

theorem Modest.feeValue (modest : p.Modest w) : p.feeValue.Modest := by
  unfold Payment.feeValue
  cases fee : p.fee with
  | none => exact ⟨⟨0, by simp⟩, by norm_num⟩
  | some paid => exact modest.fee paid fee

theorem Modest.exists_spent (modest : p.Modest w) :
    ∃ spent, p.spent? = some spent ∧ spent.toRat = p.outlay := by
  unfold spent? outlay
  by_cases coin : p.amount.kind = .coin
  next =>
    obtain ⟨amount, bound⟩ := modest.amount
    obtain ⟨fee, limit⟩ := modest.feeValue
    have triangle := abs_add_le p.amount.value.toRat p.feeValue.toRat
    rw [if_pos (spendsCoin_iff.mpr coin), if_pos coin]
    exact add?_exact (amount.add fee) (by linarith)
  next => exact ⟨p.feeValue, by simp [spendsCoin_iff, coin]⟩

theorem Modest.outlay (modest : p.Modest w) :
    OnGrid 18 p.outlay ∧ |p.outlay| < 4 * 10 ^ 10 := by
  obtain ⟨amount, bound⟩ := modest.amount
  obtain ⟨fee, limit⟩ := modest.feeValue
  have triangle := abs_add_le p.amount.value.toRat p.feeValue.toRat
  unfold Payment.outlay
  split
  · exact ⟨amount.add fee, by linarith⟩
  · exact ⟨fee, by linarith⟩

theorem Modest.exists_left (modest : p.Modest w) {spent : Decimal} (exact : spent.toRat = p.outlay) :
    ∃ left, p.left? w spent = some left ∧
      ∀ dust ∈ p.dust, ∃ rest, left = some rest ∧ rest.toRat = p.change w := by
  obtain ⟨balance, bound⟩ := modest.balance
  obtain ⟨outlay, limit⟩ := modest.outlay
  have triangle := abs_sub w.coinAmount.value.toRat p.outlay
  obtain ⟨rest, made, value⟩ := sub?_exact (a := w.coinAmount.value) (b := spent)
    (exact ▸ balance.sub outlay) (by rw [exact]; linarith)
  unfold left?
  cases p.dust with
  | none => exact ⟨none, rfl, nofun⟩
  | some least =>
    refine ⟨some rest, by simp [made], fun _ _ => ⟨rest, rfl, ?_⟩⟩
    rw [value, exact, change]

theorem violates_iff {spent : Decimal} {left : Option Decimal} (exact : spent.toRat = p.outlay)
    (rest : ∀ dust ∈ p.dust, ∃ rest, left = some rest ∧ rest.toRat = p.change w) (e : PaymentError) :
    (p.violatesSimple w e || p.violatesTotal w spent left e) = true ↔ p.Violates w e := by
  by_cases given : ComparesGiven e
  next => rw [violatesTotal_of_comparesGiven given, Bool.or_false, violatesSimple_iff given]
  cases e with
  | totalExceedsBalance =>
    simp only [violatesSimple, violatesTotal, Violates, Bool.false_or, Bool.and_eq_true,
      spendsCoin_iff, decide_eq_true_eq, lt_iff, exact]
    exact and_congr_right fun coin => by rw [outlay, if_pos coin]
  | dustChange =>
    cases dust : p.dust with
    | none => simp [violatesSimple, violatesTotal, Violates, dust]
    | some least =>
      obtain ⟨rest, rfl, value⟩ := rest least dust
      simp [violatesSimple, violatesTotal, Violates, dust, isPositive_iff, lt_iff, value]
  | _ => exact absurd trivial given

theorem nothing_violated_iff (coin : p.amount.kind = .coin) (fee : 0 ≤ p.feeValue.toRat) {dust : Decimal}
    (least : p.dust = some dust) :
    (∀ e, ¬ p.Violates w e) ↔ 0 < p.amount.value.toRat ∧
      p.amount.value.toRat + p.feeValue.toRat ≤ w.coinAmount.value.toRat ∧
      dust.toRat ≤ p.amount.value.toRat ∧ (p.change w = 0 ∨ dust.toRat ≤ p.change w) := by
  have funds : (w.funds p.amount.kind).toRat = w.coinAmount.value.toRat := by
    rw [coin, Wallet.coinAmount_value]
  have change_eq : p.change w =
      w.coinAmount.value.toRat - (p.amount.value.toRat + p.feeValue.toRat) := by
    rw [change, outlay, if_pos coin]
  constructor
  next =>
    intro kept
    have positive := kept .invalidAmountValue
    have total := kept .totalExceedsBalance
    have dusty := kept .dustAmount
    have remains := kept .dustChange
    simp only [Violates, least, Option.mem_some_iff, exists_eq_left', coin, true_and, not_le, not_lt,
      not_and] at positive total dusty remains
    refine ⟨positive, total, dusty positive.ne', ?_⟩
    rcases (sub_nonneg.mpr total).eq_or_lt with none | some
    · exact .inl (change_eq ▸ none.symm)
    · exact .inr (remains (change_eq ▸ some))
  next =>
    rintro ⟨positive, total, worth, remains⟩ e
    cases e with
    | invalidAmountValue => exact not_le.mpr positive
    | amountExceedsBalance => exact not_lt.mpr (by linarith)
    | feeExceedsBalance => exact not_lt.mpr (by linarith)
    | totalExceedsBalance => exact fun ⟨_, more⟩ => not_le.mpr more total
    | dustAmount =>
      rintro ⟨_, same, _, less⟩
      cases least.symm.trans same
      exact not_le.mpr less worth
    | dustChange =>
      rintro ⟨_, same, some, less⟩
      cases least.symm.trans same
      rcases remains with none | enough
      · exact some.ne' none
      · exact not_le.mpr less enough

/-- The answer on a payment whose values are modest names exactly the rules that are broken, each
once and in their order; and what it means that none is, for a payment in coin. -/
theorem errors?_of_modest (modest : p.Modest w) :
    (∃ errors, p.errors? w = some errors ∧ errors.Sublist PaymentError.all ∧
      ∀ e, e ∈ errors ↔ p.Violates w e) ∧
      (p.amount.kind = .coin → 0 ≤ p.feeValue.toRat → ∀ dust ∈ p.dust,
        (p.errors? w = some [] ↔ 0 < p.amount.value.toRat ∧
          p.amount.value.toRat + p.feeValue.toRat ≤ w.coinAmount.value.toRat ∧
          dust.toRat ≤ p.amount.value.toRat ∧ (p.change w = 0 ∨ dust.toRat ≤ p.change w))) := by
  obtain ⟨spent, made, exact⟩ := modest.exists_spent
  obtain ⟨left, remains, rest⟩ := modest.exists_left exact
  let errors := PaymentError.all.filter fun e =>
    p.violatesSimple w e || p.violatesTotal w spent left e
  have answer : p.errors? w = some errors :=
    errors?_eq_some_iff.mpr ⟨spent, left, made, remains, rfl⟩
  have right (e : PaymentError) : e ∈ errors ↔ p.Violates w e := by
    rw [List.mem_filter, and_iff_right (mem_all e), violates_iff exact rest]
  refine ⟨⟨errors, answer, List.filter_sublist, right⟩, fun coin fee dust least => ?_⟩
  rw [answer, ← nothing_violated_iff coin fee least, Option.some.injEq, List.eq_nil_iff_forall_not_mem]
  exact forall_congr' fun e => not_congr (right e)

namespace Sample

def purse : Wallet :=
  (Wallet.new ⟨0⟩ .dogecoin ⟨[], none⟩ [⟨"DMain", .standard⟩]).setCoin .one

-- all of the purse but a hair for the fee, and less by so many more
def allBut (hairs : Fin 3) : Payment where
  amount := .coin .dogecoin
    { mantissa := 10 ^ (18 : Nat) - 1 - hairs.val, scale := 18, mantissa_lt := by omega }
  fee := some (.coin .dogecoin (.unit 18))
  dust := some (.unit 17)

theorem modest_allBut (hairs : Fin 3) : (allBut hairs).Modest purse where
  balance := ⟨.of_scale_le (by decide), by decide +kernel⟩
  amount := ⟨.of_scale_le (Nat.le_refl 18), by revert hairs; decide +kernel⟩
  fee := by
    rintro _ ⟨⟩
    exact ⟨.of_scale_le (by decide), by decide +kernel⟩

theorem errors?_of_modest_hair :
    (allBut 2).Modest purse ∧
      (∃ errors, (allBut 2).errors? purse = some errors ∧ ∀ e, e ∈ errors ↔ e = .dustChange) ∧
      (allBut 0).errors? purse = some [] := by
  obtain ⟨errors, made, _, right⟩ := (errors?_of_modest (modest_allBut 2)).1
  have clean := (errors?_of_modest (modest_allBut 0)).2 rfl (by decide +kernel) (.unit 17) rfl
  refine ⟨modest_allBut 2, ⟨errors, made, fun e => (right e).trans ?_⟩, clean.mpr (by decide +kernel)⟩
  cases e <;> decide +kernel

end Sample

end Payment

end CoinWallet
