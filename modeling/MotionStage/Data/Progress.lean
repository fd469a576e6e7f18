import MotionStage.Data.Run

/-!
This module contains runs that come to an end: every move makes a measure smaller, so that a run has
only so many of them, and where some move is possible in every state that is not final, each run can
be led to a final one.
-/

namespace Run

variable {σ ι : Type} (step : σ → ι → σ)

def moves (Move : σ → ι → Prop) [∀ s i, Decidable (Move s i)] (s : σ)
    (is : List ι) : Nat :=
  (log step s is).countP fun p => Move p.1 p.2

section Measure

variable {P : σ → Prop} {C : σ → ι → Prop}

theorem moves_cons (Move : σ → ι → Prop) [∀ s i, Decidable (Move s i)] (s : σ) (i : ι) (is : List ι)
    : moves step Move s (i :: is) = moves step Move (step s i) is + if Move s i then 1 else 0 := by
  simp [moves, log, List.countP_cons]

theorem moves_add_measure_le (μ : σ → Nat) (Move : σ → ι → Prop)
    [∀ s i, Decidable (Move s i)] (hinv : ∀ s i, P s → C s i → P (step s i))
    (hmove : ∀ s i, P s → C s i → Move s i → μ (step s i) < μ s)
    (hrest : ∀ s i, P s → C s i → ¬ Move s i → μ (step s i) = μ s) {s : σ} {is : List ι} (hs : P s)
    (hC : AllSteps step C s is)
    : moves step Move s is + μ (run step s is) ≤ μ s := by
  induction is generalizing s with
  | nil => simp [moves, log]
  | cons i is ih =>
    have hlater := ih (hinv s i hs hC.1) hC.2
    rw [moves_cons, run_cons]
    split
    . next h =>
      have := hmove s i hs hC.1 h
      omega
    . next h =>
      have := hrest s i hs hC.1 h
      omega

/--
Deadlock freedom and a measure give completion.
-/
theorem exists_final (μ : σ → Nat) (Final : σ → Prop) (hinv : ∀ s i, P s → C s i → P (step s i))
    (hprogress : ∀ s, P s → ¬ Final s → ∃ i, C s i ∧ μ (step s i) < μ s) {s : σ} (hs : P s)
    : ∃ is, AllSteps step C s is ∧ Final (run step s is) := by
  by_cases hfinal : Final s
  . exact ⟨[], trivial, hfinal⟩
  . obtain ⟨i, hC, hlt⟩ := hprogress s hs hfinal
    obtain ⟨is, his, hend⟩ := exists_final μ Final hinv hprogress (hinv s i hs hC)
    exact ⟨i :: is, ⟨hC, his⟩, hend⟩
termination_by μ s

end Measure

end Run
