import CoinWallet.Account.JsonRpc
import CoinWallet.Account.Pricing
import CoinWallet.Account.Refresh
import CoinWallet.Proofs.Fee.Tiers
import CoinWallet.Proofs.Http.Dialogue

set_option autoImplicit false

namespace CoinWallet

open Outcome

namespace Account

variable {chain : Blockchain}

-- the point of a fee is shifted without a check, by no more places than a decimal has
theorem gasFee?_isSome (chain : Blockchain) (limit : UInt64) (fee price : Decimal) :
    ∃ result, gasFee? chain limit fee price = some result := by
  obtain ⟨value, shifted⟩ := fee.shiftLeft?_isSome chain.decimals_le
  exact ⟨_, by simp [gasFee?, shifted]; rfl⟩

theorem feeOffer_ne_overflow (gas : GasPolicy) (estimate : UInt64) (rawPrice : Nat) :
    feeOffer chain gas estimate rawPrice ≠ .error .overflow := by
  cases held : Decimal.ofBaseUnits? rawPrice 0 with
  | none => simp [feeOffer, held, fail]
  | some price =>
    simp only [feeOffer, held]
    split
    next fees prices _ _ =>
      obtain ⟨tiers, made⟩ := Tiers.exists_forall₂ fun pair (_ : pair ∈ (fees.zip prices).toList) =>
        gasFee?_isSome chain (gas.adjustLimit estimate) pair.1 pair.2
      rw [Tiers.mapM?_eq_some_iff.mpr made]
      simp [Outcome.ofOption]
    next => exact fail_ne_overflow _

theorem conclude_feePlan_ne_overflow {gas : GasPolicy} {w : Wallet} {amount : Amount}
    {destination : String} {plan : Plan FeeOffer}
    (planned : feePlan chain gas w amount destination = .ok plan) (replies : Replies plan.queries) :
    plan.conclude replies ≠ .error .overflow := by
  unfold feePlan at planned
  split at planned <;> cases planned
  match replies with
  | .cons estimate (.cons price .nil) => exact feeOffer_ne_overflow gas estimate price

theorem conclude_refreshPlan_ne_overflow (w : Wallet)
    (replies : Replies (refreshPlan chain w).queries) :
    (refreshPlan chain w).conclude replies ≠ .error .overflow := by
  match replies with
  | .cons balance (.cons count (.cons pending tokens)) => exact ofExcept_ne_overflow _ _

-- tokens have no part in it
theorem conclude_refreshPlan_eq_fail {w : Wallet} {replies : Replies (refreshPlan chain w).queries}
    {fault : Fault ManagerError} (failed : (refreshPlan chain w).conclude replies = .error fault) :
    ∃ balance rest, replies = .cons balance rest ∧
      Decimal.ofBaseUnits? balance chain.decimals = none := by
  match replies with
  | .cons balance (.cons count (.cons pending tokens)) =>
    refine ⟨balance, _, rfl, ?_⟩
    cases held : Decimal.ofBaseUnits? balance chain.decimals with
    | none => rfl
    | some value => simp [refreshPlan, update, held, Outcome.ofExcept] at failed

end Account

namespace JsonRpc

open Http

theorem ne_overflow_of_call {α : Type} {host method : String} {id : Nat} {params : List Node}
    {use : String → Except NetworkError α} {r : Outcome NetworkError α}
    (yields : (call host id method params use).Yields r) : r ≠ .error .overflow := by
  cases yields with
  | ask answer rest =>
    cases answer with
    | error cause =>
      cases rest
      exact fail_ne_overflow cause
    | ok response =>
      cases rest
      exact ofExcept_ne_overflow _ _

theorem yields_of_map {α β : Type} {f : α → β} {d : Dialogue α} {r : Outcome NetworkError β}
    (yields : (d.map f).Yields r) : ∃ inner, d.Yields inner ∧ r = inner.map f := by
  induction d with
  | done inner =>
    cases yields
    exact ⟨inner, .done inner, rfl⟩
  | ask request next ih =>
    cases yields with
    | ask answer rest =>
      obtain ⟨inner, there, same⟩ := ih answer rest
      exact ⟨inner, .ask answer there, same⟩

def Answers (q : Query) (r : Outcome NetworkError q.Reply) : Prop :=
  ∃ host id dialogue repetitions, dialogue? host id q = some dialogue ∧
    (dialogue.retrying repetitions).Yields r

theorem Answers.ne_overflow {q : Query} {r : Outcome NetworkError q.Reply} (answers : Answers q r) :
    r ≠ .error .overflow := by
  obtain ⟨host, id, dialogue, repetitions, found, yields⟩ := answers
  have yields := yields.of_retrying
  cases q <;> cases found
  case tokenBalance address t =>
    obtain ⟨inner, there, rfl⟩ := yields_of_map yields
    exact mt map_eq_error_iff.mp (ne_overflow_of_call there)
  all_goals exact ne_overflow_of_call yields

end JsonRpc

end CoinWallet
