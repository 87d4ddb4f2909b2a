import Mathlib.Data.List.Forall2
import Mathlib.Data.List.Induction
import Mathlib.Data.List.Nodup

set_option autoImplicit false

namespace CoinWallet

variable {α β γ : Type}

section Duplicates

variable [BEq α] [LawfulBEq α]

theorem eraseDups_snoc (xs : List α) (x : α) :
    (xs ++ [x]).eraseDups = if x ∈ xs then xs.eraseDups else xs.eraseDups ++ [x] := by
  by_cases known : x ∈ xs <;>
    simp [List.eraseDups_append, List.removeAll, List.eraseDups_cons, known]

theorem nodup_eraseDups (xs : List α) : xs.eraseDups.Nodup := by
  induction xs using List.reverseRecOn with
  | nil => simp
  | append_singleton xs x ih =>
    rw [eraseDups_snoc]
    split
    next => exact ih
    next fresh =>
      refine List.nodup_append.mpr ⟨ih, List.nodup_singleton x, ?_⟩
      rintro y old _ new rfl
      rw [List.mem_singleton] at new
      exact fresh (new ▸ List.mem_eraseDups.mp old)

theorem filter_eraseDups (p : α → Bool) (xs : List α) :
    xs.eraseDups.filter p = (xs.filter p).eraseDups := by
  induction xs using List.reverseRecOn with
  | nil => rfl
  | append_singleton xs x ih =>
    rw [eraseDups_snoc, List.filter_append]
    by_cases held : p x = true <;> by_cases known : x ∈ xs <;>
      simp [held, known, ih, eraseDups_snoc]

theorem eraseDups_of_nodup {xs : List α} (once : xs.Nodup) : xs.eraseDups = xs := by
  induction xs using List.reverseRecOn with
  | nil => rfl
  | append_singleton xs x ih =>
    rw [List.nodup_append] at once
    obtain ⟨former, _, apart⟩ := once
    have fresh : x ∉ xs := fun known => apart x known x (List.mem_singleton_self x) rfl
    rw [eraseDups_snoc, if_neg fresh, ih former]

theorem eraseDups_append_eraseDups (xs ys : List α) :
    (xs.eraseDups ++ ys.eraseDups).eraseDups = (xs ++ ys).eraseDups := by
  rw [List.eraseDups_append, List.eraseDups_append, eraseDups_of_nodup (nodup_eraseDups xs)]
  simp only [List.removeAll, List.elem_eq_contains, List.contains_eq_mem, List.mem_eraseDups]
  rw [filter_eraseDups, eraseDups_of_nodup (nodup_eraseDups _)]

theorem eraseDups_perm {xs ys : List α} (perm : xs.Perm ys) : xs.eraseDups.Perm ys.eraseDups := by
  rw [List.perm_ext_iff_of_nodup (nodup_eraseDups xs) (nodup_eraseDups ys)]
  intro x
  rw [List.mem_eraseDups, List.mem_eraseDups, perm.mem_iff]

end Duplicates

-- of members with keys of their own, only one has a given key
theorem filter_eq_singleton {key : α → β} {xs : List α} (distinct : (xs.map key).Nodup) {x : α}
    (member : x ∈ xs) {p : α → Bool} (same : ∀ y, p y = true ↔ key y = key x) :
    xs.filter p = [x] := by
  obtain ⟨before, after, rfl⟩ := List.append_of_mem member
  simp only [List.map_append, List.map_cons, List.nodup_append, List.nodup_cons] at distinct
  obtain ⟨_, ⟨behind, _⟩, ahead⟩ := distinct
  have first : before.filter p = [] := by
    rw [List.filter_eq_nil_iff]
    intro y present equal
    exact ahead _ (List.mem_map_of_mem present) _ List.mem_cons_self ((same y).mp equal)
  have last : after.filter p = [] := by
    rw [List.filter_eq_nil_iff]
    intro y present equal
    exact behind (List.mem_map.mpr ⟨y, present, (same y).mp equal⟩)
  simp [first, last, (same x).mpr rfl]

theorem exists_cons_eq_append {P : List α → α → List α → Prop} (x : α) (rest : List α) :
    (∃ first y later, x :: rest = first ++ y :: later ∧ P first y later) ↔
      P [] x rest ∨ ∃ first y later, rest = first ++ y :: later ∧ P (x :: first) y later := by
  constructor
  next =>
    rintro ⟨first, y, later, split, holds⟩
    cases first with
    | nil =>
      cases split
      exact .inl holds
    | cons head first =>
      rw [List.cons_append, List.cons_eq_cons] at split
      obtain ⟨rfl, split⟩ := split
      exact .inr ⟨first, y, later, split, holds⟩
  next =>
    rintro (here | ⟨first, y, later, rfl, holds⟩)
    · exact ⟨[], x, rest, rfl, here⟩
    · exact ⟨x :: first, y, later, rfl, holds⟩

theorem exists_mem_of_mem {R : α → β → Prop} {xs : List α} {ys : List β}
    (related : List.Forall₂ R xs ys) {x : α} (member : x ∈ xs) : ∃ y ∈ ys, R x y := by
  induction related with
  | nil => cases member
  | cons here _ ih =>
    rcases List.mem_cons.mp member with rfl | later
    · exact ⟨_, List.mem_cons_self, here⟩
    · obtain ⟨y, present, there⟩ := ih later
      exact ⟨y, List.mem_cons_of_mem _ present, there⟩

theorem exists_split {R : α → β → Prop} {before after : List α} {x : α} {ys : List β}
    (related : List.Forall₂ R (before ++ x :: after) ys) :
    ∃ first y later, ys = first ++ y :: later ∧ R x y ∧ List.Forall₂ R after later := by
  induction before generalizing ys with
  | nil =>
    cases related with
    | cons here rest => exact ⟨[], _, _, rfl, here, rest⟩
  | cons z before ih =>
    cases related with
    | @cons _ w _ _ here rest =>
      obtain ⟨first, y, later, rfl, held, others⟩ := ih rest
      exact ⟨w :: first, y, later, rfl, held, others⟩

theorem exists_last {p : α → Bool} {xs : List α} {x : α} (member : x ∈ xs) (holds : p x = true) :
    ∃ before y after, xs = before ++ y :: after ∧ p y = true ∧ ∀ z ∈ after, p z = false := by
  induction xs generalizing x with
  | nil => cases member
  | cons y rest ih =>
    by_cases later : ∃ z ∈ rest, p z = true
    next =>
      obtain ⟨z, there, holds⟩ := later
      obtain ⟨before, last, after, rfl, found, none⟩ := ih there holds
      exact ⟨y :: before, last, after, rfl, found, none⟩
    next =>
      have none : ∀ z ∈ rest, p z = false := fun z there =>
        Bool.eq_false_iff.mpr fun found => later ⟨z, there, found⟩
      rcases List.mem_cons.mp member with rfl | there
      · exact ⟨[], x, rest, rfl, holds, none⟩
      · exact absurd ⟨x, there, holds⟩ later

theorem exists_between {R : α → β → Prop} {S : β → γ → Prop} {xs : List α} {zs : List γ}
    (related : List.Forall₂ (fun x z => ∃ y, R x y ∧ S y z) xs zs) :
    ∃ ys, List.Forall₂ R xs ys ∧ List.Forall₂ S ys zs := by
  induction related with
  | nil => exact ⟨[], .nil, .nil⟩
  | cons here _ ih =>
    obtain ⟨y, left, right⟩ := here
    obtain ⟨ys, first, second⟩ := ih
    exact ⟨y :: ys, .cons left first, .cons right second⟩

theorem map_eq_map {f : α → γ} {g : β → γ} {xs : List α} {ys : List β}
    (same : List.Forall₂ (fun x y => f x = g y) xs ys) : xs.map f = ys.map g := by
  induction same with
  | nil => rfl
  | cons here _ ih => rw [List.map_cons, List.map_cons, here, ih]

theorem mapM_eq_some_iff {f : α → Option β} {xs : List α} {ys : List β} :
    xs.mapM f = some ys ↔ List.Forall₂ (fun x y => f x = some y) xs ys := by
  induction xs generalizing ys with
  | nil => cases ys <;> simp
  | cons x rest ih =>
    rw [List.mapM_cons]
    cases ys with
    | nil => simp [Option.bind_eq_some_iff]
    | cons y others => simp [Option.bind_eq_some_iff, ih]

theorem mapM_map_eq_some {f : β → Option γ} {g : α → β} {k : α → γ} {xs : List α}
    (each : ∀ x ∈ xs, f (g x) = some (k x)) : (xs.map g).mapM f = some (xs.map k) := by
  rw [mapM_eq_some_iff, List.forall₂_map_left_iff, List.forall₂_map_right_iff, List.forall₂_same]
  exact each

theorem exists_mapM {R : α → β → Prop} {f : α → Option β} {xs : List α}
    (each : ∀ x ∈ xs, ∃ y, f x = some y ∧ R x y) :
    ∃ ys, xs.mapM f = some ys ∧ List.Forall₂ R xs ys := by
  induction xs with
  | nil => exact ⟨[], rfl, .nil⟩
  | cons x rest ih =>
    obtain ⟨y, here, related⟩ := each x List.mem_cons_self
    obtain ⟨ys, there, others⟩ := ih fun other later => each other (List.mem_cons_of_mem x later)
    exact ⟨y :: ys, by simp [List.mapM_cons, here, there], .cons related others⟩

theorem mapM_eq_none_iff {f : α → Option β} {xs : List α} :
    xs.mapM f = none ↔ ∃ x ∈ xs, f x = none := by
  constructor
  next =>
    intro none
    by_contra all
    have each : ∀ x ∈ xs, ∃ y, f x = some y ∧ True := by
      intro x member
      obtain ⟨y, found⟩ := Option.ne_none_iff_exists'.mp fun fails => all ⟨x, member, fails⟩
      exact ⟨y, found, trivial⟩
    obtain ⟨ys, mapped, _⟩ := exists_mapM each
    simp [mapped] at none
  next =>
    rintro ⟨x, member, fails⟩
    rw [Option.eq_none_iff_forall_ne_some]
    intro ys mapped
    obtain ⟨y, _, found⟩ := exists_mem_of_mem (mapM_eq_some_iff.mp mapped) member
    simp [fails] at found

theorem mapM_eq_ok_iff {ε : Type} {f : α → Except ε β} {xs : List α} {ys : List β} :
    xs.mapM f = .ok ys ↔ List.Forall₂ (fun x y => f x = .ok y) xs ys := by
  induction xs generalizing ys with
  | nil => cases ys <;> simp [pure, Except.pure]
  | cons x rest ih =>
    rw [List.mapM_cons]
    cases here : f x with
    | error e => cases ys <;> simp [bind, Except.bind, here]
    | ok y =>
      cases there : rest.mapM f with
      | error e => cases ys <;> simp [bind, Except.bind, ← ih, there]
      | ok others => cases ys <;> simp [bind, Except.bind, pure, Except.pure, ← ih, here, there]

theorem mapM_eq_error_iff {ε : Type} {f : α → Except ε β} {xs : List α} {e : ε} :
    xs.mapM f = .error e ↔ ∃ before x after, xs = before ++ x :: after ∧
      (∀ y ∈ before, ∃ z, f y = .ok z) ∧ f x = .error e := by
  induction xs with
  | nil => simp [pure, Except.pure]
  | cons x rest ih =>
    rw [List.mapM_cons, exists_cons_eq_append]
    cases here : f x with
    | error e => simp [bind, Except.bind, here]
    | ok y =>
      simp only [List.not_mem_nil, false_implies, implies_true, here, reduceCtorEq, and_false,
        false_or, List.forall_mem_cons, Except.ok.injEq, exists_eq', true_and, ← ih]
      cases rest.mapM f <;> simp [bind, Except.bind, pure, Except.pure]

end CoinWallet
