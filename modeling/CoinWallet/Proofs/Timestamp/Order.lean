import CoinWallet.Timestamp
import Mathlib.Data.List.Induction
import Mathlib.Order.Lattice

set_option autoImplicit false

namespace CoinWallet.Timestamp

theorem le_def (a b : Timestamp) :
    a ≤ b ↔ a.seconds < b.seconds ∨ (a.seconds = b.seconds ∧ a.nanos ≤ b.nanos) :=
  Iff.rfl

instance : LinearOrder Timestamp where
  le_refl a := by
    rw [le_def]
    omega
  le_trans a b c := by
    simp only [le_def]
    omega
  le_antisymm a b := by
    cases a
    cases b
    simp only [le_def, mk.injEq]
    omega
  le_total a b := by
    simp only [le_def]
    omega
  toDecidableLE := inferInstance
  toDecidableEq := inferInstance

theorem earlier_eq_min (a b : Timestamp) : a.earlier b = min a b := rfl

theorem min?_append (xs ys : List Timestamp) :
    (xs ++ ys).min? = earliest xs.min? ys.min? := by
  induction xs with
  | nil => simp [earliest]
  | cons x rest ih =>
    rw [List.cons_append, List.min?_cons, List.min?_cons, ih]
    cases rest.min? <;> cases ys.min? <;> simp [earliest, earlier_eq_min, min_assoc]

theorem min?_perm {xs ys : List Timestamp} (perm : xs.Perm ys) : xs.min? = ys.min? := by
  ext first
  simp only [List.min?_eq_some_iff, perm.mem_iff]

theorem foldl_earliest (dates : List (Option Timestamp)) :
    dates.foldl earliest none = (dates.filterMap id).min? := by
  induction dates using List.reverseRecOn with
  | nil => rfl
  | append_singleton dates date ih =>
    rw [List.foldl_append, ih, List.filterMap_append, min?_append]
    cases date <;> rfl

end CoinWallet.Timestamp
