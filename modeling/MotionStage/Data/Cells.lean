import Mathlib.Logic.Function.Basic
import MotionStage.Data.Traverse

/-!
This module contains containers whose cells are read and written by an index, where a write can
fail, and what a list of writes makes of such a container.
-/

/--
A write succeeds exactly on the cells that there are, and changes the cell it is for and no other.
-/
structure Cells (σ ι α ε : Type) [DecidableEq ι] where
  get : σ → ι → Option α
  set : σ → ι → α → Except ε σ
  set_isOk : ∀ s i a, (set s i a).isOk = (get s i).isSome
  get_set : ∀ {s i a s'}, set s i a = .ok s' → get s' = Function.update (get s) i (some a)

namespace Cells

variable {σ ι α ε : Type} [DecidableEq ι] (c : Cells σ ι α ε)

def fill (source : ι → Except ε α) (is : List ι) (s : σ) : Except ε σ :=
  is.foldlM (fun s i => source i >>= c.set s i) s

variable {c} {source : ι → Except ε α}

theorem fill_cons (i : ι) (is : List ι) (s : σ)
    : c.fill source (i :: is) s = (source i >>= c.set s i) >>= c.fill source is := by
  rw [fill, List.foldlM_cons]
  rfl

theorem fill_invariant {P : σ → Prop} (hset : ∀ {s i a s'}, c.set s i a = .ok s' → P s → P s')
    {is : List ι} {s s' : σ} (h : c.fill source is s = .ok s') (hs : P s)
    : P s' := by
  induction is generalizing s with
  | nil =>
    cases h
    exact hs
  | cons i is ih =>
    rw [fill_cons] at h
    obtain ⟨s₁, hone, hrest⟩ := Traverse.bind_eq_ok_iff.mp h
    obtain ⟨a, -, hone⟩ := Traverse.bind_eq_ok_iff.mp hone
    exact ih hrest (hset hone hs)

theorem isSome_get_set {s s' : σ} {i : ι} {a : α} (h : c.set s i a = .ok s') (j : ι)
    : (c.get s' j).isSome = (c.get s j).isSome := by
  rw [c.get_set h, Function.update_apply]
  split
  . next hj =>
    rw [hj, ← c.set_isOk s i a, h]
    rfl
  . rfl

theorem isOk_fill_iff {is : List ι} {s : σ}
    : (c.fill source is s).isOk = true
        ↔
      ∀ i ∈ is, (source i).isOk = true ∧ (c.get s i).isSome = true := by
  induction is generalizing s with
  | nil => simp [fill, pure, Except.pure, Except.isOk, Except.toBool]
  | cons i is ih =>
    rw [fill_cons, List.forall_mem_cons]
    cases source i with
    | error e => simp [bind, Except.bind, Except.isOk, Except.toBool]
    | ok a =>
      have hset := c.set_isOk s i a
      cases hone : c.set s i a with
      | error e =>
        rw [hone] at hset
        simp only [bind, Except.bind, hone, ← hset]
        simp [Except.isOk, Except.toBool]
      | ok s' =>
        rw [hone] at hset
        have hcells : ∀ j, (c.get s' j).isSome = (c.get s j).isSome := isSome_get_set hone
        simp only [bind, Except.bind, hone, ← hset, ih, hcells]
        simp [Except.isOk, Except.toBool]

theorem get_fill {is : List ι} {s s' : σ} (h : c.fill source is s = .ok s') (j : ι)
    : c.get s' j = if j ∈ is then (source j).toOption else c.get s j := by
  induction is generalizing s with
  | nil =>
    cases h
    simp
  | cons i is ih =>
    rw [fill_cons] at h
    obtain ⟨s₁, hone, hrest⟩ := Traverse.bind_eq_ok_iff.mp h
    obtain ⟨a, hsource, hset⟩ := Traverse.bind_eq_ok_iff.mp hone
    rw [ih hrest, c.get_set hset, Function.update_apply]
    by_cases hj : j = i
    . subst hj
      simp [hsource, Except.toOption]
    . simp [hj]

end Cells
