import MotionStage.Core.Exact
import MotionStage.Core.Kind

/-!
This module contains the range of clamped attributes: in exact arithmetic the values of an attribute
stay inside the bounds of the last clamp of its filter chain.
-/

namespace MotionStage

theorem applyDeadband_eq_or {F : Floats} (previous current : AttributeValue F) (threshold : F.f32)
    : applyDeadband previous current threshold = previous
        ∨ applyDeadband previous current threshold = current := by
  unfold applyDeadband
  dsimp only
  split
  . split
    . exact .inl rfl
    . exact .inr rfl
  . split
    . exact .inl rfl
    . exact .inr rfl
  . split
    . exact .inl rfl
    . exact .inr rfl
  . exact .inr rfl

variable {K : Type} [Field K] [LinearOrder K] {p : Primitives K}

def AttributeValue.Within (lo hi : K) : AttributeValue (Floats.exact p) → Prop
  | .float32 (v : K) => v ∈ Set.Icc lo hi
  | .float64 (v : K) => v ∈ Set.Icc lo hi
  | .vec3f (v : Vector K 3) => ∀ index (h : index < 3), v[index] ∈ Set.Icc lo hi
  | _ => False

def AttributeFilter.isClamp : AttributeFilter (Floats.exact p) → Bool
  | .clamp _ _ => true
  | _ => false

variable {lo hi : K} {previous current : AttributeValue (Floats.exact p)}

theorem within_applyClamp_of_le {a b lo hi : K} (h : lo ≤ hi)
    (hsorted : (if (Floats.exact p).f32.le a b then (a, b) else (b, a)) = (lo, hi))
    (hkind : current.kind = .float32 ∨ current.kind = .float64 ∨ current.kind = .vec3f)
    : (applyClamp current a b).Within lo hi := by
  unfold applyClamp
  rw [hsorted]
  rcases hkind with hkind | hkind | hkind <;> cases current <;> cases hkind
  . exact FloatFormat.clamp_mem_Icc p.sqrt _ h
  . exact FloatFormat.clamp_mem_Icc p.sqrt _ h
  . intro index hindex
    rw [Vector.getElem_map]
    exact FloatFormat.clamp_mem_Icc p.sqrt _ h

theorem within_applyClamp {a b : K}
    (hkind : current.kind = .float32 ∨ current.kind = .float64 ∨ current.kind = .vec3f)
    : (applyClamp current a b).Within (min a b) (max a b) := by
  apply within_applyClamp_of_le min_le_max _ hkind
  change (if decide (a ≤ b) = true then (a, b) else (b, a)) = _
  by_cases h : a ≤ b
  . simp [h]
  . simp [h, min_eq_right (not_le.mp h).le, max_eq_left (not_le.mp h).le]

theorem within_applyEma [IsStrictOrderedRing K] {alpha : K} (hkind : current.kind = previous.kind)
    (hprevious : previous.Within lo hi) (hcurrent : current.Within lo hi)
    : (applyEma previous current alpha).Within lo hi := by
  have halpha := FloatFormat.clamp_unit p.sqrt alpha
  unfold applyEma
  cases previous <;> cases current <;> cases hkind <;> try exact hcurrent
  . exact FloatFormat.mix_mem_Icc p.sqrt halpha hcurrent hprevious
  . exact FloatFormat.mix_mem_Icc p.sqrt halpha hcurrent hprevious
  . intro index hindex
    rw [Vector.getElem_zipWith]
    exact FloatFormat.mix_mem_Icc p.sqrt halpha (hcurrent index hindex)
      (hprevious index hindex)

theorem within_applyDeadband {threshold : K} (hprevious : previous.Within lo hi)
    (hcurrent : current.Within lo hi)
    : (applyDeadband previous current threshold).Within lo hi := by
  rcases applyDeadband_eq_or previous current threshold with h | h
  . rw [h]
    exact hprevious
  . rw [h]
    exact hcurrent

theorem within_applyFilter [IsStrictOrderedRing K] {filter : AttributeFilter (Floats.exact p)}
    (hfilter : filter.isClamp = false) (hkind : current.kind = previous.kind)
    (hprevious : previous.Within lo hi) (hcurrent : current.Within lo hi)
    : (applyFilter previous current filter).Within lo hi := by
  cases filter with
  | passthrough => exact hcurrent
  | ema alpha => exact within_applyEma hkind hprevious hcurrent
  | deadband threshold => exact within_applyDeadband hprevious hcurrent
  | clamp min max => cases hfilter

/--
The filters behind the last clamp only mix in the previous value, which is in the range as well.
-/
theorem within_applyFilters_of_not_clamp [IsStrictOrderedRing K]
    {filters : List (AttributeFilter (Floats.exact p))}
    (hfilters : ∀ filter ∈ filters, filter.isClamp = false) (hkind : current.kind = previous.kind)
    (hprevious : previous.Within lo hi) (hcurrent : current.Within lo hi)
    : (applyFilters previous current filters).Within lo hi := by
  unfold applyFilters
  induction filters generalizing current with
  | nil => exact hcurrent
  | cons filter filters ih =>
    rw [List.foldl_cons]
    have hone := hfilters filter List.mem_cons_self
    apply ih (fun f hf => hfilters f (List.mem_cons_of_mem _ hf))
    . rw [← hkind]
      exact AttributeValue.kind_eq_of_typeName_eq (typeName_applyFilter previous current filter)
    . exact within_applyFilter hone hkind hprevious hcurrent

theorem within_applyFilters [IsStrictOrderedRing K] {a b : K}
    {before after : List (AttributeFilter (Floats.exact p))}
    (hafter : ∀ filter ∈ after, filter.isClamp = false) {kind : ValueKind}
    (hclamped : kind = .float32 ∨ kind = .float64 ∨ kind = .vec3f)
    (hprevious : previous.kind = kind) (hcurrent : current.kind = kind)
    (hwithin : previous.Within (min a b) (max a b))
    : (applyFilters previous current (before ++ .clamp a b :: after)).Within (min a b)
        (max a b) := by
  have hbefore : (applyFilters previous current before).kind = kind := by
    rw [kind_applyFilters, hcurrent]
  have hclamp : (applyClamp (applyFilters previous current before) a b).Within (min a b)
      (max a b) := by
    apply within_applyClamp
    rw [hbefore]
    exact hclamped
  have hkind : (applyClamp (applyFilters previous current before) a b).kind = previous.kind := by
    rw [hprevious, ← hbefore]
    exact AttributeValue.kind_eq_of_typeName_eq
      (typeName_applyFilter previous (applyFilters previous current before) (.clamp a b))
  have hall := within_applyFilters_of_not_clamp hafter hkind hwithin hclamp
  unfold applyFilters at hall ⊢
  rw [List.foldl_append, List.foldl_cons]
  exact hall

structure SceneAttribute.InRange (attr : SceneAttribute (Floats.exact p)) (kind : ValueKind)
    (filters : List (AttributeFilter (Floats.exact p))) (lo hi : K) : Prop where
  kind : attr.HasKind kind
  filterChain : attr.filterChain = filters
  defaultValue : attr.defaultValue.Within lo hi
  currentValue : attr.currentValue.Within lo hi

namespace RuntimeCore

section Clamped

variable [IsStrictOrderedRing K] {a b : K} {before after : List (AttributeFilter (Floats.exact p))}
  {kind : ValueKind}

variable (a b before) in
theorem evolves_inRange (hafter : ∀ filter ∈ after, filter.isClamp = false)
    (hclamped : kind = .float32 ∨ kind = .float64 ∨ kind = .vec3f)
    : Evolves fun attr attr' : SceneAttribute (Floats.exact p) =>
        attr.InRange kind (before ++ .clamp a b :: after) (min a b) (max a b)
          → attr'.InRange kind (before ++ .clamp a b :: after) (min a b) (max a b) where
  refl _ h := h
  trans hab hbc h := hbc (hab h)
  write {attr value mask v} hnext h := by
    refine ⟨⟨h.kind.1, kind_nextValue h.kind hnext⟩, h.filterChain, h.defaultValue, ?_⟩
    unfold nextValue at hnext
    dsimp only at hnext
    split at hnext
    . cases hnext
    . next transformed htransformed =>
      have hkind : v.kind = kind := by
        apply kind_nextValue h.kind
        unfold nextValue
        rw [htransformed]
        exact hnext
      cases hnext
      rw [kind_applyFilters] at hkind
      dsimp only
      rw [h.filterChain]
      exact within_applyFilters hafter hclamped h.kind.2 hkind h.currentValue
  reset attr h := by
    unfold BaselineSync.sync
    split
    . exact ⟨⟨h.kind.1, h.kind.1⟩, h.filterChain, h.defaultValue, h.defaultValue⟩
    . exact h
  commit attr h := by
    unfold BaselineSync.sync
    split
    . exact ⟨⟨h.kind.2, h.kind.2⟩, h.filterChain, h.currentValue, h.currentValue⟩
    . exact h

theorem inRange_run (hafter : ∀ filter ∈ after, filter.isClamp = false)
    (hclamped : kind = .float32 ∨ kind = .float64 ∨ kind = .vec3f)
    {s : RuntimeCore (Floats.exact p)} {t : Target} {attr : SceneAttribute (Floats.exact p)}
    (hattr : s.attributeAt t = some attr)
    (hrange : attr.InRange kind (before ++ .clamp a b :: after) (min a b) (max a b))
    {ops : List (RuntimeOp (Floats.exact p))} (hops : ∀ scene, .loadScene scene ∉ ops)
    : Run.AllStates step (fun s => ∃ attr, s.attributeAt t = some attr
        ∧ attr.InRange kind (before ++ .clamp a b :: after) (min a b) (max a b)) s ops := by
  apply Run.allStates_of_allSteps (C := fun _ op => ∀ scene, op ≠ .loadScene scene)
  . rintro s op ⟨attr, hattr, hrange⟩ hop
    have hrel : Option.Rel _ (s.attributeAt t) ((s.step op).attributeAt t) :=
      (evolves_inRange a b before hafter hclamped).step hop t
    rw [hattr] at hrel
    generalize (s.step op).attributeAt t = found at hrel
    cases hrel with
    | some hstep => exact ⟨_, rfl, hstep hrange⟩
  . exact ⟨attr, hattr, hrange⟩
  . apply Run.allSteps_of_forall
    rintro op hop scene rfl
    exact hops scene hop

end Clamped

/--
A dial whose chain smooths the value before and after it is clamped to at most one.
-/
def dial : SceneAttribute (Floats.exact .rational) :=
  { SceneAttribute.new "dial" (.float32 (0 : ℚ)) with
    filterChain := [.ema (1 / 2 : ℚ), .clamp (1 : ℚ) (-1 : ℚ), .ema (1 / 4 : ℚ)] }

def dialStage : RuntimeCore (Floats.exact .rational) :=
  ((new .default).loadScene ((Scene.new 1 "stage").withObject
    ((SceneObject.new 2 "panel").withAttribute dial))).2

theorem inRange_run_dial
    : Run.AllStates step (fun s => ∃ attr, s.attributeAt ⟨1, 2, "dial"⟩ = some attr
        ∧ attr.InRange .float32 ([.ema (1 / 2 : ℚ)] ++ .clamp (1 : ℚ) (-1 : ℚ) :: [.ema (1 / 4 : ℚ)])
            (min 1 (-1)) (max 1 (-1))) dialStage
        [.setMode .live, .createMapping (switchRequest 7 "dial") 10 100,
          .applyUpdates 7 [⟨"button", .float32 (8 : ℚ)⟩] 20, .commitSceneBaseline 1] := by
  apply inRange_run _ _ (show dialStage.attributeAt ⟨1, 2, "dial"⟩ = some dial from rfl)
  . refine ⟨⟨rfl, rfl⟩, rfl, ?_, ?_⟩
    . simp [dial, SceneAttribute.new, AttributeValue.Within]
    . simp [dial, SceneAttribute.new, AttributeValue.Within]
  . simp
  . simp [AttributeFilter.isClamp]
  . exact .inl rfl

end RuntimeCore

end MotionStage
