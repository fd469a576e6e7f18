import MotionStage.Core.Range

/-!
This module contains how far the filters go that only look at the previous value: in exact
arithmetic they never leave the way from the previous value to the incoming one.
-/

namespace MotionStage

def ValueKind.filtered : ValueKind → Bool
  | .float32 | .float64 | .vec3f => true
  | _ => false

theorem applyEma_of_not_filtered {F : Floats} {previous current : AttributeValue F}
    (h : current.kind.filtered = false) (alpha : F.f32)
    : applyEma previous current alpha = current := by
  unfold applyEma
  cases current <;> cases h <;> cases previous <;> rfl

theorem applyDeadband_of_not_filtered {F : Floats} {previous current : AttributeValue F}
    (h : current.kind.filtered = false) (threshold : F.f32)
    : applyDeadband previous current threshold = current := by
  unfold applyDeadband
  cases current <;> cases h <;> cases previous <;> rfl

variable {K : Type} [Field K] [LinearOrder K] {p : Primitives K}

namespace AttributeValue

/--
Every component of the result lies between those of the previous and of the incoming value. A value
of a kind that the filters do not work on comes out as it went in.
-/
inductive Between : (previous incoming result : AttributeValue (Floats.exact p)) → Prop where
  | float32 (a b c : K) (h : c ∈ Set.uIcc a b) : Between (.float32 a) (.float32 b) (.float32 c)
  | float64 (a b c : K) (h : c ∈ Set.uIcc a b) : Between (.float64 a) (.float64 b) (.float64 c)
  | vec3f (a b c : Vector K 3) (h : ∀ i, c.get i ∈ Set.uIcc (a.get i) (b.get i))
    : Between (.vec3f a) (.vec3f b) (.vec3f c)
  | other (previous incoming) (h : incoming.kind.filtered = false)
    : Between previous incoming incoming

variable {previous incoming current : AttributeValue (Floats.exact p)}

theorem between_incoming (h : previous.kind = incoming.kind)
    : Between previous incoming incoming := by
  cases hfiltered : incoming.kind.filtered with
  | false => exact .other previous incoming hfiltered
  | true =>
    cases incoming <;> cases hfiltered <;> cases previous <;> cases h
    . exact .float32 _ _ _ Set.right_mem_uIcc
    . exact .float64 _ _ _ Set.right_mem_uIcc
    . exact .vec3f _ _ _ fun i => Set.right_mem_uIcc

theorem Between.back (h : Between previous incoming current)
    : current.kind.filtered = false ∨ Between previous incoming previous := by
  cases h with
  | float32 a b c => exact .inr (.float32 a b a Set.left_mem_uIcc)
  | float64 a b c => exact .inr (.float64 a b a Set.left_mem_uIcc)
  | vec3f a b c => exact .inr (.vec3f a b a fun i => Set.left_mem_uIcc)
  | other _ _ hkind => exact .inl hkind

end AttributeValue

open AttributeValue

variable {previous incoming current : AttributeValue (Floats.exact p)}

theorem between_applyDeadband (h : Between previous incoming current) (threshold : K)
    : Between previous incoming (applyDeadband previous current threshold) := by
  rcases h.back with hkind | hprevious
  . rw [applyDeadband_of_not_filtered hkind]
    exact h
  . rcases applyDeadband_eq_or previous current threshold with heq | heq
    . rw [heq]
      exact hprevious
    . rw [heq]
      exact h

section Ema

variable [IsStrictOrderedRing K]

theorem mix_mem_uIcc (alpha : K) {a b c : K} (h : c ∈ Set.uIcc a b)
    : FloatFormat.mix (FloatFormat.exact p.sqrt)
        ((FloatFormat.exact p.sqrt).clamp alpha ((FloatFormat.exact p.sqrt).ofNat 0)
          ((FloatFormat.exact p.sqrt).ofNat 1)) c a ∈ Set.uIcc a b :=
  FloatFormat.mix_mem_Icc p.sqrt (FloatFormat.clamp_unit p.sqrt alpha) h Set.left_mem_uIcc

theorem between_applyEma (h : Between previous incoming current) (alpha : K)
    : Between previous incoming (applyEma previous current alpha) := by
  cases h with
  | float32 a b c h => exact .float32 a b _ (mix_mem_uIcc alpha h)
  | float64 a b c h => exact .float64 a b _ (mix_mem_uIcc alpha h)
  | vec3f a b c h =>
    refine .vec3f a b _ fun i => ?_
    change (Vector.zipWith _ c a)[i] ∈ _
    rw [Fin.getElem_fin, Vector.getElem_zipWith]
    exact mix_mem_uIcc alpha (h i)
  | other _ _ hkind =>
    rw [applyEma_of_not_filtered hkind]
    exact .other _ _ hkind

theorem between_applyFilter (h : Between previous incoming current)
    {filter : AttributeFilter (Floats.exact p)} (hfilter : filter.isClamp = false)
    : Between previous incoming (applyFilter previous current filter) := by
  cases filter with
  | passthrough => exact h
  | ema alpha => exact between_applyEma h alpha
  | deadband threshold => exact between_applyDeadband h threshold
  | clamp min max => cases hfilter

theorem between_applyFilters {filters : List (AttributeFilter (Floats.exact p))}
    (hfilters : ∀ filter ∈ filters, filter.isClamp = false) (hkind : previous.kind = incoming.kind)
    : Between previous incoming (applyFilters previous incoming filters) := by
  -- every filter refers to the same previous value, and starts from what the last one has made
  suffices h : ∀ current, Between previous incoming current
      → Between previous incoming (filters.foldl (applyFilter previous) current) by
    exact h incoming (between_incoming hkind)
  induction filters with
  | nil => exact fun current h => h
  | cons filter filters ih =>
    intro current h
    apply ih fun f hf => hfilters f (List.mem_cons_of_mem _ hf)
    exact between_applyFilter h (hfilters filter List.mem_cons_self)

end Ema

theorem between_applyFilters_smoothed
    : Between (p := Primitives.rational) (.float32 (0 : ℚ)) (.float32 (4 : ℚ))
        (applyFilters (.float32 (0 : ℚ)) (.float32 (4 : ℚ))
          [.ema (1 / 2 : ℚ), .deadband (1 : ℚ), .passthrough, .ema (3 : ℚ)]) :=
  between_applyFilters (p := Primitives.rational) (by simp [AttributeFilter.isClamp])
    (show ValueKind.float32 = ValueKind.float32 from rfl)

end MotionStage
