import Mathlib.Logic.Basic

/-!
This module contains finite runs of a deterministic step function together with the rules that
lift what one step preserves to what a whole run preserves.
-/

namespace Run

variable {σ ι : Type} (step : σ → ι → σ)

def run (s : σ) (is : List ι) : σ := is.foldl step s

/--
Every step of the run meets `C`, a condition on an input and the state right before it.
-/
def AllSteps (C : σ → ι → Prop) : σ → List ι → Prop
  | _, [] => True
  | s, i :: is => C s i ∧ AllSteps C (step s i) is

def AllStates (P : σ → Prop) : σ → List ι → Prop
  | s, [] => P s
  | s, i :: is => P s ∧ AllStates P (step s i) is

def log : σ → List ι → List (σ × ι)
  | _, [] => []
  | s, i :: is => (s, i) :: log (step s i) is

instance AllSteps.decidable {C : σ → ι → Prop} [∀ s i, Decidable (C s i)]
    : ∀ (s : σ) (is : List ι), Decidable (AllSteps step C s is)
  | _, [] => inferInstanceAs (Decidable True)
  | s, i :: is =>
    have := AllSteps.decidable (C := C) (step s i) is
    inferInstanceAs (Decidable (C s i ∧ AllSteps step C (step s i) is))

instance AllStates.decidable {P : σ → Prop} [DecidablePred P]
    : ∀ (s : σ) (is : List ι), Decidable (AllStates step P s is)
  | s, [] => inferInstanceAs (Decidable (P s))
  | s, i :: is =>
    have := AllStates.decidable (P := P) (step s i) is
    inferInstanceAs (Decidable (P s ∧ AllStates step P (step s i) is))

@[simp]
theorem run_nil (s : σ) : run step s [] = s := rfl

@[simp]
theorem run_cons (s : σ) (i : ι) (is : List ι) : run step s (i :: is) = run step (step s i) is := rfl

theorem run_append (s : σ) (is js : List ι)
    : run step s (is ++ js) = run step (run step s is) js :=
  List.foldl_append

theorem allSteps_true {s : σ} (is : List ι) : AllSteps step (fun _ _ => True) s is := by
  induction is generalizing s with
  | nil => trivial
  | cons i is ih => exact ⟨trivial, ih⟩

theorem allSteps_of_forall {C : ι → Prop} {s : σ} {is : List ι} (h : ∀ i ∈ is, C i)
    : AllSteps step (fun _ => C) s is := by
  induction is generalizing s with
  | nil => trivial
  | cons i is ih => exact ⟨h i List.mem_cons_self, ih fun j hj => h j (List.mem_cons_of_mem _ hj)⟩

theorem allSteps_iff_log {C : σ → ι → Prop} {s : σ} {is : List ι}
    : AllSteps step C s is ↔ ∀ p ∈ log step s is, C p.1 p.2 := by
  induction is generalizing s with
  | nil => simp [AllSteps, log]
  | cons i is ih => simp [AllSteps, log, ih]

theorem allSteps_congr {C D : σ → ι → Prop} (h : ∀ s i, C s i ↔ D s i) {s : σ} {is : List ι}
    : AllSteps step C s is ↔ AllSteps step D s is := by
  simp only [allSteps_iff_log, h]

theorem AllSteps.and {C D : σ → ι → Prop} {s : σ} {is : List ι} (hC : AllSteps step C s is)
    (hD : AllSteps step D s is)
    : AllSteps step (fun s i => C s i ∧ D s i) s is := by
  induction is generalizing s with
  | nil => trivial
  | cons i is ih => exact ⟨⟨hC.1, hD.1⟩, ih hC.2 hD.2⟩

variable {step} {P : σ → Prop} {C : σ → ι → Prop}

theorem allSteps_part_iff {τ : Type} (wide : τ → ι → τ) (part : τ → σ)
    (hpart : ∀ t i, part (wide t i) = step (part t) i) {t : τ} {is : List ι}
    : AllSteps wide (fun t => C (part t)) t is ↔ AllSteps step C (part t) is := by
  induction is generalizing t with
  | nil => exact Iff.rfl
  | cons i is ih => simp only [AllSteps, ih, hpart]

theorem run_unchanged {γ : Type} {g : σ → γ} (hstep : ∀ s i, g (step s i) = g s) (s : σ)
    (is : List ι)
    : g (run step s is) = g s := by
  induction is generalizing s with
  | nil => rfl
  | cons i is ih => rw [run_cons, ih, hstep]

theorem AllStates.imp {Q : σ → Prop} (h : ∀ s, P s → Q s) {s : σ} {is : List ι}
    (hP : AllStates step P s is)
    : AllStates step Q s is := by
  induction is generalizing s with
  | nil => exact h s hP
  | cons i is ih => exact ⟨h s hP.1, ih hP.2⟩

theorem AllStates.and {Q : σ → Prop} {s : σ} {is : List ι} (hP : AllStates step P s is)
    (hQ : AllStates step Q s is)
    : AllStates step (fun s => P s ∧ Q s) s is := by
  induction is generalizing s with
  | nil => exact ⟨hP, hQ⟩
  | cons i is ih => exact ⟨⟨hP.1, hQ.1⟩, ih hP.2 hQ.2⟩

theorem AllStates.first {s : σ} {is : List ι} (h : AllStates step P s is) : P s := by
  cases is with
  | nil => exact h
  | cons i is => exact h.1

theorem AllStates.last {s : σ} {is : List ι} (h : AllStates step P s is) : P (run step s is) := by
  induction is generalizing s with
  | nil => exact h
  | cons i is ih => exact ih h.2

theorem AllStates.allSteps {s : σ} {is : List ι} (h : AllStates step P s is)
    : AllSteps step (fun s _ => P s) s is := by
  induction is generalizing s with
  | nil => trivial
  | cons i is ih => exact ⟨h.1, ih h.2⟩

theorem allStates_of_allSteps (hstep : ∀ s i, P s → C s i → P (step s i)) {s : σ} {is : List ι}
    (hs : P s) (hC : AllSteps step C s is)
    : AllStates step P s is := by
  induction is generalizing s with
  | nil => exact hs
  | cons i is ih => exact ⟨hs, ih (hstep s i hs hC.1) hC.2⟩

theorem run_invariant (hstep : ∀ s i, P s → C s i → P (step s i)) {s : σ} {is : List ι}
    (hs : P s) (hC : AllSteps step C s is)
    : P (run step s is) :=
  (allStates_of_allSteps hstep hs hC).last

theorem allSteps_of_invariant {D : σ → ι → Prop} (hstep : ∀ s i, P s → C s i → P (step s i))
    (hD : ∀ s i, P s → C s i → D s i) {s : σ} {is : List ι} (hs : P s)
    (hC : AllSteps step C s is)
    : AllSteps step D s is := by
  induction is generalizing s with
  | nil => trivial
  | cons i is ih => exact ⟨hD s i hs hC.1, ih (hstep s i hs hC.1) hC.2⟩

theorem allStates_iff_allSteps (hstep : ∀ s i, P s → (P (step s i) ↔ C s i)) {s : σ} {is : List ι}
    (hs : P s)
    : AllStates step P s is ↔ AllSteps step C s is := by
  constructor
  . intro h
    induction is generalizing s with
    | nil => trivial
    | cons i is ih =>
      have hnext : P (step s i) := h.2.first
      exact ⟨(hstep s i hs).mp hnext, ih hnext h.2⟩
  . exact allStates_of_allSteps (fun s i h hC => (hstep s i h).mpr hC) hs

theorem allStates_iff_allSteps_under {I : σ → Prop} {D : σ → ι → Prop}
    (hinv : ∀ s i, I s → D s i → I (step s i))
    (hstep : ∀ s i, I s → D s i → P s → (P (step s i) ↔ C s i)) {s : σ} {is : List ι} (hI : I s)
    (hs : P s) (hD : AllSteps step D s is)
    : AllStates step P s is ↔ AllSteps step C s is := by
  induction is generalizing s with
  | nil => exact iff_of_true hs trivial
  | cons i is ih =>
    have hnext := hinv s i hI hD.1
    have hiff := hstep s i hI hD.1 hs
    constructor
    . rintro ⟨-, h⟩
      exact ⟨hiff.mp h.first, (ih hnext h.first hD.2).mp h⟩
    . rintro ⟨hC, h⟩
      exact ⟨hs, (ih hnext (hiff.mpr hC) hD.2).mpr h⟩

theorem allStates_iff_allSteps_of_invariant {I : σ → Prop} (hinv : ∀ s i, I s → I (step s i))
    (hstep : ∀ s i, I s → P s → (P (step s i) ↔ C s i)) {s : σ} {is : List ι} (hI : I s)
    (hs : P s)
    : AllStates step P s is ↔ AllSteps step C s is :=
  allStates_iff_allSteps_under (D := fun _ _ => True) (fun s i h _ => hinv s i h)
    (fun s i hI _ => hstep s i hI) hI hs (allSteps_true step is)

/--
Two conditions that agree on every step inside the invariant, and that keep the invariant, agree on
whole runs.
-/
theorem allSteps_iff_of_invariant {A B D : σ → ι → Prop}
    (hiff : ∀ s i, P s → D s i → (A s i ↔ B s i))
    (hstep : ∀ s i, P s → D s i → A s i → P (step s i)) {s : σ} {is : List ι} (hs : P s)
    (hD : AllSteps step D s is)
    : AllSteps step A s is ↔ AllSteps step B s is := by
  induction is generalizing s with
  | nil => exact Iff.rfl
  | cons i is ih =>
    constructor
    . rintro ⟨hA, hrest⟩
      exact ⟨(hiff s i hs hD.1).mp hA, (ih (hstep s i hs hD.1 hA) hD.2).mp hrest⟩
    . rintro ⟨hB, hrest⟩
      have hA := (hiff s i hs hD.1).mpr hB
      exact ⟨hA, (ih (hstep s i hs hD.1 hA) hD.2).mpr hrest⟩

/--
When a step keeps the invariant if it meets `C` and otherwise falls into a trap, a run ends inside
the invariant or in the trap, depending on whether all of its steps meet `C`.
-/
theorem invariant_or_trapped {Trap : σ → Prop} {D : σ → ι → Prop}
    (hstep : ∀ s i, P s → D s i →
      (C s i ∧ P (step s i)) ∨ (¬ C s i ∧ Trap (step s i)))
    (htrap : ∀ s i, Trap s → D s i → Trap (step s i)) {s : σ} {is : List ι} (hs : P s)
    (hD : AllSteps step D s is)
    : (AllSteps step C s is ∧ P (run step s is))
        ∨
      (¬ AllSteps step C s is ∧ Trap (run step s is)) := by
  induction is generalizing s with
  | nil => exact .inl ⟨trivial, hs⟩
  | cons i is ih =>
    rcases hstep s i hs hD.1 with ⟨hC, hnext⟩ | ⟨hC, hnext⟩
    . rcases ih hnext hD.2 with ⟨hall, hrun⟩ | ⟨hall, hrun⟩
      . exact .inl ⟨⟨hC, hall⟩, hrun⟩
      . exact .inr ⟨fun h => hall h.2, hrun⟩
    . refine .inr ⟨fun h => hC h.1, ?_⟩
      rw [run_cons]
      exact run_invariant htrap hnext hD.2

/--
The invariant rule for properties that look at the whole past of a run.
-/
theorem log_invariant {H : List (σ × ι) → σ → Prop}
    (hstep : ∀ l s i, H l s → H (l ++ [(s, i)]) (step s i)) {s : σ} (is : List ι) (hs : H [] s)
    : H (log step s is) (run step s is) := by
  suffices h : ∀ l s, H l s → H (l ++ log step s is) (run step s is) by
    simpa using h [] s hs
  clear hs
  induction is with
  | nil =>
    intro l s hl
    simpa [log] using hl
  | cons i is ih =>
    intro l s hl
    have := ih (l ++ [(s, i)]) (step s i) (hstep l s i hl)
    simpa [log] using this

theorem log_concat (s : σ) (is : List ι) (i : ι)
    : log step s (is ++ [i]) = log step s is ++ [(run step s is, i)] := by
  induction is generalizing s with
  | nil => rfl
  | cons j is ih => simp only [List.cons_append, log, ih, run_cons]

theorem log_eq_append_cons {s : σ} {is : List ι} {earlier later : List (σ × ι)} {call : σ × ι}
    (h : log step s is = earlier ++ call :: later)
    : ∃ js ks, is = js ++ call.2 :: ks ∧ earlier = log step s js ∧ call.1 = run step s js := by
  induction is generalizing s earlier with
  | nil => simp [log] at h
  | cons i is ih =>
    cases earlier with
    | nil =>
      simp only [log, List.nil_append, List.cons.injEq] at h
      obtain ⟨rfl, -⟩ := h
      exact ⟨[], is, rfl, rfl, rfl⟩
    | cons first earlier =>
      simp only [log, List.cons_append, List.cons.injEq] at h
      obtain ⟨rfl, hrest⟩ := h
      obtain ⟨js, ks, rfl, hearlier, hcall⟩ := ih hrest
      exact ⟨i :: js, ks, rfl, by rw [log, hearlier], hcall⟩

theorem AllSteps.of_append {s : σ} {is js : List ι} (h : AllSteps step C s (is ++ js))
    : AllSteps step C s is := by
  induction is generalizing s with
  | nil => trivial
  | cons i is ih => exact ⟨h.1, ih h.2⟩

section Failing

variable (step? : σ → ι → Option σ)

/--
The run of a step function that can fail. It fails with the first step that does.
-/
def run? (s : σ) (is : List ι) : Option σ := is.foldlM step? s

variable {step?}

theorem run?_of_allSteps (hok : ∀ s i, C s i → step? s i = some (step s i)) {s : σ} {is : List ι}
    (hC : AllSteps step C s is)
    : run? step? s is = some (run step s is) := by
  induction is generalizing s with
  | nil => rfl
  | cons i is ih =>
    simp only [run?, List.foldlM_cons, hok s i hC.1]
    exact ih hC.2

theorem isSome_run?_iff (hok : ∀ s i, C s i → step? s i = some (step s i))
    (hfail : ∀ s i, ¬ C s i → step? s i = none) {s : σ} {is : List ι}
    : (run? step? s is).isSome = true ↔ AllSteps step C s is := by
  constructor
  . intro h
    induction is generalizing s with
    | nil => trivial
    | cons i is ih =>
      simp only [run?, List.foldlM_cons] at h
      by_cases hC : C s i
      . rw [hok s i hC] at h
        exact ⟨hC, ih h⟩
      . rw [hfail s i hC] at h
        cases h
  . intro h
    rw [run?_of_allSteps hok h]
    rfl

end Failing

end Run
