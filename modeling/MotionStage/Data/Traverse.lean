import Mathlib.Data.List.Forall2

/-!
This module contains lists that are worked off element by element: `mapM` in `Except`, and the
relation between the elements of two lists that it leaves behind.
-/

namespace Traverse

theorem bind_eq_ok_iff {ε α β : Type} {x : Except ε α} {f : α → Except ε β} {b : β}
    : (x >>= f) = .ok b ↔ ∃ a, x = .ok a ∧ f a = .ok b := by
  cases x with
  | error e =>
    constructor
    . intro h
      cases h
    . rintro ⟨a, h, -⟩
      cases h
  | ok a =>
    constructor
    . intro h
      exact ⟨a, rfl, h⟩
    . rintro ⟨a', h, hf⟩
      cases h
      exact hf

theorem map_eq_ok_iff {ε α β : Type} {x : Except ε α} {f : α → β} {b : β}
    : x.map f = .ok b ↔ ∃ a, x = .ok a ∧ f a = b := by
  cases x <;> simp [Except.map]

theorem mapM_eq_ok_iff {ε α β : Type} {f : α → Except ε β} {xs : List α} {ys : List β}
    : xs.mapM f = .ok ys ↔ List.Forall₂ (fun x y => f x = .ok y) xs ys := by
  induction xs generalizing ys with
  | nil =>
    rw [List.mapM_nil, List.forall₂_nil_left_iff]
    constructor
    . intro h
      cases h
      rfl
    . intro h
      rw [h]
      rfl
  | cons x xs ih =>
    rw [List.mapM_cons, List.forall₂_cons_left_iff]
    constructor
    . intro h
      cases hx : f x with
      | error e =>
        rw [hx] at h
        cases h
      | ok y =>
        rw [hx] at h
        cases hxs : xs.mapM f with
        | error e =>
          rw [hxs] at h
          cases h
        | ok rest =>
          rw [hxs] at h
          cases h
          exact ⟨y, rest, rfl, ih.mp hxs, rfl⟩
    . rintro ⟨y, rest, hx, hrest, rfl⟩
      rw [hx, ih.mpr hrest]
      rfl

section Forall₂

variable {α β : Type} {R : α → β → Prop} {xs : List α} {ys : List β}

theorem forall₂_left (h : List.Forall₂ R xs ys) : ∀ x ∈ xs, ∃ y ∈ ys, R x y := by
  induction h with
  | nil => simp
  | cons hxy _ ih =>
    intro x hx
    rcases List.mem_cons.mp hx with rfl | hx
    . exact ⟨_, List.mem_cons_self, hxy⟩
    . obtain ⟨y, hy, hxy'⟩ := ih x hx
      exact ⟨y, List.mem_cons_of_mem _ hy, hxy'⟩

theorem forall₂_right (h : List.Forall₂ R xs ys) : ∀ y ∈ ys, ∃ x ∈ xs, R x y := by
  have hflip : List.Forall₂ (flip R) ys xs := List.Forall₂.flip h
  exact forall₂_left hflip

theorem exists_forall₂ (h : ∀ x ∈ xs, ∃ y, R x y) : ∃ ys, List.Forall₂ R xs ys := by
  induction xs with
  | nil => exact ⟨[], .nil⟩
  | cons x xs ih =>
    obtain ⟨y, hy⟩ := h x List.mem_cons_self
    obtain ⟨ys, hys⟩ := ih fun x' hx' => h x' (List.mem_cons_of_mem _ hx')
    exact ⟨y :: ys, .cons hy hys⟩

theorem forall₂_comp {γ : Type} {S : β → γ → Prop} {T : α → γ → Prop} {zs : List γ}
    (h : List.Forall₂ R xs ys) (h' : List.Forall₂ S ys zs)
    (hcomp : ∀ x y z, R x y → S y z → T x z)
    : List.Forall₂ T xs zs := by
  induction h generalizing zs with
  | nil =>
    cases h'
    exact .nil
  | cons hxy _ ih =>
    cases h' with
    | cons hyz htail => exact .cons (hcomp _ _ _ hxy hyz) (ih htail)

end Forall₂

end Traverse
