import MotionStage.Core.Runtime

/-!
This module contains what the transform pipeline makes of the type of a value: whether an incoming
value is accepted does not depend on the value an attribute currently has, only on its type.
-/

namespace MotionStage

variable {F : Floats}

/--
Both computations fail, or both give a value of the type `name`.
-/
def Agree (name : String) (x y : Except CoreError (AttributeValue F)) : Prop :=
  (∃ a b, x = .ok a ∧ y = .ok b ∧ a.typeName = name ∧ b.typeName = name)
    ∨
  (∃ e e', x = .error e ∧ y = .error e')

namespace Agree

variable {name : String}

theorem error (e e' : CoreError) : Agree (F := F) name (.error e) (.error e') :=
  .inr ⟨e, e', rfl, rfl⟩

theorem ok {a b : AttributeValue F} (ha : a.typeName = name) (hb : b.typeName = name)
    : Agree name (.ok a) (.ok b) :=
  .inl ⟨a, b, rfl, rfl, ha, hb⟩

theorem typeName_left {a : AttributeValue F} {y : Except CoreError (AttributeValue F)}
    (h : Agree name (.ok a) y)
    : a.typeName = name := by
  rcases h with ⟨a', b, ha, -, hname, -⟩ | ⟨e, e', he, -⟩
  . cases ha
    exact hname
  . cases he

theorem foldlM {ι : Type} {f : AttributeValue F → ι → Except CoreError (AttributeValue F)}
    (hf : ∀ a b i, a.typeName = name → b.typeName = name → Agree name (f a i) (f b i))
    (is : List ι) {a b : AttributeValue F} (ha : a.typeName = name) (hb : b.typeName = name)
    : Agree name (is.foldlM f a) (is.foldlM f b) := by
  induction is generalizing a b with
  | nil => exact ok ha hb
  | cons i is ih =>
    simp only [List.foldlM_cons]
    rcases hf a b i ha hb with ⟨a', b', ha', hb', hname, hname'⟩ | ⟨e, e', he, he'⟩
    . rw [ha', hb']
      exact ih hname hname'
    . rw [he, he']
      exact error e e'

end Agree

theorem agree_setVectorComponent {name : String} {a b : AttributeValue F} (index : Nat)
    (value : F.f32) (ha : a.typeName = name) (hb : b.typeName = name)
    : Agree name (setVectorComponent a index value) (setVectorComponent b index value) := by
  subst ha
  -- values with the same type name are built by the same constructor
  cases a <;> cases b <;> simp only [AttributeValue.typeName, String.reduceEq] at hb <;>
    simp only [setVectorComponent, setVectorComponent.set] <;>
    first
    | exact .error _ _
    | (split
       . exact .ok rfl rfl
       . exact .error _ _)

theorem agree_setScalarValue {name : String} {a b : AttributeValue F} (component : F.f32)
    (ha : a.typeName = name) (hb : b.typeName = name)
    : Agree name (setScalarValue a component) (setScalarValue b component) := by
  subst ha
  cases a <;> cases b <;> simp only [AttributeValue.typeName, String.reduceEq] at hb <;>
    first
    | exact .error _ _
    | exact .ok rfl rfl

theorem agree_setMaskedVector {name : String} {a b : AttributeValue F} (source : AttributeValue F)
    (mask : List Nat) (ha : a.typeName = name) (hb : b.typeName = name)
    : Agree name (setMaskedVector source mask a) (setMaskedVector source mask b) := by
  apply Agree.foldlM _ mask ha hb
  intro a b index ha hb
  cases vectorComponent source index with
  | none => exact .error _ _
  | some component => exact agree_setVectorComponent index component ha hb

theorem vectorLen_congr {a b : AttributeValue F} (h : a.typeName = b.typeName)
    : vectorLen a = vectorLen b := by
  cases a <;> cases b <;> simp only [AttributeValue.typeName, String.reduceEq] at h <;> rfl

theorem agree_applyMappingTransform {name : String} {a b : AttributeValue F}
    (source : AttributeValue F) (mask : Option (List Nat)) (ha : a.typeName = name)
    (hb : b.typeName = name)
    : Agree name (applyMappingTransform a source mask) (applyMappingTransform b source mask) := by
  unfold applyMappingTransform
  cases mask with
  | none =>
    dsimp only
    rw [ha, hb]
    split
    . exact .error _ _
    . next heq =>
      simp only [ne_eq, not_not] at heq
      exact .ok heq.symm heq.symm
  | some mask =>
    dsimp only
    split
    . exact .error _ _
    . rw [vectorLen_congr (ha.trans hb.symm)]
      split
      . cases scalarAsF32 source with
        | some value =>
          exact Agree.foldlM (fun a b i ha hb => agree_setVectorComponent i value ha hb) mask ha hb
        | none =>
          dsimp only
          split
          . exact agree_setMaskedVector source mask ha hb
          . exact .error _ _
      . match mask with
        | [] => exact .error _ _
        | [index] =>
          dsimp only
          cases vectorComponent source index with
          | none => exact .error _ _
          | some component => exact agree_setScalarValue component ha hb
        | _ :: _ :: _ => exact .error _ _

theorem typeName_applyFilter (previous current : AttributeValue F) (filter : AttributeFilter F)
    : (applyFilter previous current filter).typeName = current.typeName := by
  cases filter with
  | passthrough => rfl
  | ema alpha =>
    simp only [applyFilter, applyEma]
    split <;> rfl
  | deadband threshold =>
    simp only [applyFilter, applyDeadband]
    split
    . split <;> rfl
    . split <;> rfl
    . split <;> rfl
    . rfl
  | clamp min max =>
    simp only [applyFilter, applyClamp]
    split <;> rfl

theorem typeName_applyFilters (previous incoming : AttributeValue F)
    (filters : List (AttributeFilter F))
    : (applyFilters previous incoming filters).typeName = incoming.typeName := by
  unfold applyFilters
  induction filters generalizing incoming with
  | nil => rfl
  | cons filter filters ih =>
    simp only [List.foldl_cons]
    rw [ih, typeName_applyFilter]

namespace SceneAttribute

/--
The attribute `b` may differ from `a` in its current value, but not in what `apply_updates` accepts
for it.
-/
def Interchangeable (a b : SceneAttribute F) : Prop :=
  b = { a with currentValue := b.currentValue }
    ∧ (supportsRelativeComposition a.defaultValue = true
        ∨ b.currentValue.typeName = a.currentValue.typeName)

theorem Interchangeable.refl (a : SceneAttribute F) : a.Interchangeable a :=
  ⟨rfl, .inr rfl⟩

theorem Interchangeable.trans {a b c : SceneAttribute F} (hab : a.Interchangeable b)
    (hbc : b.Interchangeable c)
    : a.Interchangeable c := by
  obtain ⟨hb, hab⟩ := hab
  obtain ⟨hc, hbc⟩ := hbc
  constructor
  . rw [hc, hb]
  . rw [hb] at hbc
    rcases hab with hrel | hab
    . exact .inl hrel
    . rcases hbc with hrel | hbc
      . exact .inl hrel
      . exact .inr (hbc.trans hab)

end SceneAttribute

/--
The errors that the pipeline itself raises: everything else that `apply_updates` refuses has been
looked up before.
-/
def CoreError.isTransform : CoreError → Bool
  | .typeMismatch _ _ | .invalidComponentMask _ | .unsupportedTransform _ => true
  | _ => false

section Errors

variable {e : CoreError}

theorem isTransform_setVectorComponent {target : AttributeValue F} {index : Nat} {value : F.f32}
    (h : setVectorComponent target index value = .error e)
    : e.isTransform = true := by
  cases target <;> simp only [setVectorComponent, setVectorComponent.set] at h <;>
    first
    | (cases h
       rfl)
    | (split at h
       . cases h
       . cases h
         rfl)

theorem isTransform_foldlM {ι : Type} {f : AttributeValue F → ι → Except CoreError (AttributeValue F)}
    (hf : ∀ a i e, f a i = .error e → e.isTransform = true) {is : List ι} {a : AttributeValue F}
    (h : is.foldlM f a = .error e)
    : e.isTransform = true := by
  induction is generalizing a with
  | nil => cases h
  | cons i is ih =>
    rw [List.foldlM_cons] at h
    cases hone : f a i with
    | error e' =>
      rw [hone] at h
      cases h
      exact hf a i e hone
    | ok b =>
      rw [hone] at h
      exact ih h

theorem isTransform_setMaskedScalar {value : F.f32} {mask : List Nat} {target : AttributeValue F}
    (h : setMaskedScalar value mask target = .error e)
    : e.isTransform = true :=
  isTransform_foldlM (fun _ _ _ => isTransform_setVectorComponent) h

theorem isTransform_setMaskedVector {source : AttributeValue F} {mask : List Nat}
    {target : AttributeValue F} (h : setMaskedVector source mask target = .error e)
    : e.isTransform = true := by
  apply isTransform_foldlM _ h
  intro a index e he
  split at he
  . cases he
    rfl
  . exact isTransform_setVectorComponent he

theorem isTransform_setScalarValue {target : AttributeValue F} {component : F.f32}
    (h : setScalarValue target component = .error e)
    : e.isTransform = true := by
  cases target <;> cases h <;> rfl

theorem isTransform_applyMappingTransform {current incoming : AttributeValue F}
    {mask : Option (List Nat)} (h : applyMappingTransform current incoming mask = .error e)
    : e.isTransform = true := by
  unfold applyMappingTransform at h
  repeat' split at h
  all_goals
    first
    | (cases h
       rfl)
    | cases h
    | exact isTransform_setMaskedScalar h
    | exact isTransform_setMaskedVector h
    | exact isTransform_setScalarValue h

theorem isTransform_defaultDeltaForTarget {target : AttributeValue F}
    (h : defaultDeltaForTarget target = .error e)
    : e.isTransform = true := by
  cases target <;> cases h <;> rfl

theorem isTransform_applyMappingDeltaTransform {baseline incoming : AttributeValue F}
    {mask : Option (List Nat)} (h : applyMappingDeltaTransform baseline incoming mask = .error e)
    : e.isTransform = true := by
  unfold applyMappingDeltaTransform at h
  repeat' split at h
  case h_1 heq =>
    cases h
    exact isTransform_defaultDeltaForTarget heq
  all_goals
    first
    | (cases h
       rfl)
    | cases h
    | exact isTransform_setMaskedScalar h
    | exact isTransform_setMaskedVector h
    | exact isTransform_setScalarValue h

theorem isTransform_composeRelativeValue {baseline delta : AttributeValue F}
    (h : composeRelativeValue baseline delta = .error e)
    : e.isTransform = true := by
  unfold composeRelativeValue at h
  split at h <;> cases h
  rfl

theorem isTransform_nextValue {attr : SceneAttribute F} {value : AttributeValue F}
    {mask : Option (List Nat)} (h : RuntimeCore.nextValue attr value mask = .error e)
    : e.isTransform = true := by
  unfold RuntimeCore.nextValue at h
  dsimp only at h
  split at h
  . next htransformed =>
    cases h
    split at htransformed
    . split at htransformed
      . next hdelta =>
        cases htransformed
        exact isTransform_applyMappingDeltaTransform hdelta
      . exact isTransform_composeRelativeValue htransformed
    . exact isTransform_applyMappingTransform htransformed
  . cases h

end Errors

namespace RuntimeCore

theorem isOk_nextValue {a b : SceneAttribute F} (h : a.Interchangeable b)
    (value : AttributeValue F) (mask : Option (List Nat))
    : (nextValue b value mask).isOk = (nextValue a value mask).isOk := by
  obtain ⟨hb, h⟩ := h
  rw [hb]
  unfold nextValue
  dsimp only
  by_cases hrel : supportsRelativeComposition a.defaultValue = true
  . rw [if_pos hrel, if_pos hrel]
    cases applyMappingDeltaTransform a.defaultValue value mask with
    | error e => rfl
    | ok delta =>
      dsimp only
      cases composeRelativeValue a.defaultValue delta <;> rfl
  . rw [if_neg hrel, if_neg hrel]
    have htype := h.resolve_left hrel
    rcases agree_applyMappingTransform value mask htype rfl with
      ⟨v, v', hv, hv', -, -⟩ | ⟨e, e', he, he'⟩
    . rw [hv, hv']
      rfl
    . rw [he, he']
      rfl

theorem interchangeable_nextValue {attr : SceneAttribute F} {value v : AttributeValue F}
    {mask : Option (List Nat)} (h : nextValue attr value mask = .ok v)
    : attr.Interchangeable { attr with currentValue := v } := by
  refine ⟨rfl, ?_⟩
  by_cases hrel : supportsRelativeComposition attr.defaultValue = true
  . exact .inl hrel
  . refine .inr ?_
    simp only [nextValue, hrel, Bool.false_eq_true, if_false] at h
    have hagree := agree_applyMappingTransform value mask
      (rfl : attr.currentValue.typeName = _) rfl
    split at h
    . cases h
    . next transformed ht =>
      cases h
      rw [ht] at hagree
      rw [typeName_applyFilters]
      exact hagree.typeName_left

end RuntimeCore

end MotionStage
