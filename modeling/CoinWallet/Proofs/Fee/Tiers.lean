import CoinWallet.Fee.Offer
import CoinWallet.Fee.Pricing
import CoinWallet.Proofs.Decimal.Order

set_option autoImplicit false

namespace CoinWallet

namespace Tiers

variable {α β : Type}

theorem toList_map (f : α → β) (t : Tiers α) : (t.map f).toList = t.toList.map f :=
  rfl

structure Forall₂ (R : α → β → Prop) (a : Tiers α) (b : Tiers β) : Prop where
  minimum : R a.minimum b.minimum
  normal : R a.normal b.normal
  priority : R a.priority b.priority

namespace Forall₂

variable {γ : Type} {R : α → β → Prop} {a : Tiers α} {b : Tiers β}

theorem imp_of_mem {S : α → β → Prop} (all : Forall₂ R a b)
    (implies : ∀ x ∈ a.toList, ∀ y, R x y → S x y) : Forall₂ S a b where
  minimum := implies _ (by simp [toList]) _ all.minimum
  normal := implies _ (by simp [toList]) _ all.normal
  priority := implies _ (by simp [toList]) _ all.priority

theorem imp {S : α → β → Prop} (all : Forall₂ R a b) (implies : ∀ x y, R x y → S x y) :
    Forall₂ S a b :=
  all.imp_of_mem fun x _ y => implies x y

theorem trans {S : β → γ → Prop} {T : α → γ → Prop} {c : Tiers γ} (first : Forall₂ R a b)
    (second : Forall₂ S b c) (both : ∀ x y z, R x y → S y z → T x z) : Forall₂ T a c where
  minimum := both _ _ _ first.minimum second.minimum
  normal := both _ _ _ first.normal second.normal
  priority := both _ _ _ first.priority second.priority

theorem zip {S : α → γ → Prop} {c : Tiers γ} (first : Forall₂ R a b) (second : Forall₂ S a c) :
    Forall₂ (fun x pair => R x pair.1 ∧ S x pair.2) a (b.zip c) where
  minimum := ⟨first.minimum, second.minimum⟩
  normal := ⟨first.normal, second.normal⟩
  priority := ⟨first.priority, second.priority⟩

theorem of_mem_right (all : Forall₂ R a b) {y : β} (member : y ∈ b.toList) :
    ∃ x ∈ a.toList, R x y := by
  simp only [toList, List.mem_cons, List.not_mem_nil, or_false] at member
  rcases member with rfl | rfl | rfl
  · exact ⟨a.minimum, by simp [toList], all.minimum⟩
  · exact ⟨a.normal, by simp [toList], all.normal⟩
  · exact ⟨a.priority, by simp [toList], all.priority⟩

end Forall₂

theorem exists_forall₂ {R : α → β → Prop} {a : Tiers α} (all : ∀ x ∈ a.toList, ∃ y, R x y) :
    ∃ b, Forall₂ R a b := by
  obtain ⟨minimum, first⟩ := all a.minimum (by simp [toList])
  obtain ⟨normal, second⟩ := all a.normal (by simp [toList])
  obtain ⟨priority, third⟩ := all a.priority (by simp [toList])
  exact ⟨⟨minimum, normal, priority⟩, first, second, third⟩

theorem mapM?_eq_some_iff {f : α → Option β} {a : Tiers α} {b : Tiers β} :
    a.mapM? f = some b ↔ Forall₂ (fun x y => f x = some y) a b := by
  simp only [mapM?, Option.bind_eq_bind, Option.bind_eq_some_iff, Option.pure_def,
    Option.some.injEq]
  constructor
  next =>
    rintro ⟨_, first, _, second, _, third, rfl⟩
    exact ⟨first, second, third⟩
  next => exact fun all => ⟨_, all.minimum, _, all.normal, _, all.priority, rfl⟩

theorem map_eq_map_iff {γ : Type} {f : α → γ} {g : β → γ} {a : Tiers α} {b : Tiers β} :
    b.map g = a.map f ↔ Forall₂ (fun x y => g y = f x) a b := by
  rw [map, map, mk.injEq]
  exact ⟨fun ⟨first, second, third⟩ => ⟨first, second, third⟩,
    fun all => ⟨all.minimum, all.normal, all.priority⟩⟩

theorem fst_mem_of_mem_zip {a : Tiers α} {b : Tiers β} {pair : α × β}
    (member : pair ∈ (a.zip b).toList) : pair.1 ∈ a.toList := by
  simp only [toList, zip, List.mem_cons, List.not_mem_nil, or_false] at member ⊢
  rcases member with rfl | rfl | rfl <;> simp

-- from the least to the most urgent
def Ascending (t : Tiers Rat) : Prop :=
  t.minimum ≤ t.normal ∧ t.normal ≤ t.priority

instance (t : Tiers Rat) : Decidable t.Ascending :=
  inferInstanceAs (Decidable (_ ∧ _))

theorem Ascending.of_mul {t t' : Tiers Rat} (ascending : t.Ascending) {k : Rat} (pos : 0 < k)
    (times : Forall₂ (fun product x => x * k = product) t t') : t'.Ascending := by
  obtain ⟨first, second⟩ := ascending
  rw [← times.minimum, ← times.normal] at first
  rw [← times.normal, ← times.priority] at second
  exact ⟨le_of_mul_le_mul_right first pos, le_of_mul_le_mul_right second pos⟩

def values (t : Tiers Decimal) : Tiers Rat :=
  t.map Decimal.toRat

variable {t : Tiers Decimal}

theorem ascending_ordered (t : Tiers Decimal) : t.ordered.values.Ascending := by
  constructor <;> simp [values, map, ordered]

-- the largest so far
def highest (t : Tiers Rat) : Tiers Rat where
  minimum := t.minimum
  normal := Max.max t.minimum t.normal
  priority := Max.max (Max.max t.minimum t.normal) t.priority

theorem mem_of_mem_ordered {d : Decimal} (member : d ∈ t.ordered.toList) : d ∈ t.toList := by
  simp only [toList, ordered, List.mem_cons, List.not_mem_nil, or_false] at member ⊢
  have raised := Decimal.max_eq_or t.normal t.minimum
  have highest := Decimal.max_eq_or t.priority (t.normal.max t.minimum)
  grind

theorem minimum_le_of_ascending {t : Tiers Rat} (ascending : t.Ascending) {x : Rat}
    (member : x ∈ t.toList) : t.minimum ≤ x := by
  simp only [toList, List.mem_cons, List.not_mem_nil, or_false] at member
  rcases member with rfl | rfl | rfl
  · exact le_rfl
  · exact ascending.1
  · exact ascending.1.trans ascending.2

theorem values_ordered (ascending : t.values.Ascending) : t.ordered.values = t.values := by
  obtain ⟨first, second⟩ := ascending
  simp only [values, map] at first second
  simp [values, map, ordered, max_eq_left first, max_eq_left second]

end Tiers

theorem FeeOffer.choosable?_eq_some_iff {fees : Tiers Fee} {offer : FeeOffer} :
    choosable? fees = some offer ↔
      (fees.map fun fee => fee.amount.value.toRat).Ascending ∧ offer = .choosable fees := by
  simp only [choosable?, Decimal.le_iff, Option.ite_none_right_eq_some, Option.some.injEq]
  exact and_congr Iff.rfl eq_comm

end CoinWallet
