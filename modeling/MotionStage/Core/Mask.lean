import MotionStage.Core.Drift
import MotionStage.Data.Cells

/-!
This module contains the two sides of a component mask: what `validate_component_mask` accepts when
a mapping is assigned, and what the transforms make of the mask when a value comes in.
-/

namespace MotionStage

variable {F : Floats}

theorem isSome_vector_getElem? {α : Type} {n : Nat} (v : Vector α n) (index : Nat)
    : v[index]?.isSome = decide (index < n) := by
  by_cases h : index < n <;> simp [h]

theorem vector_eq_of_getElem? {α : Type} {n : Nat} {v w : Vector α n}
    (h : ∀ index : Nat, v[index]? = w[index]?)
    : v = w := by
  apply Vector.ext
  intro index hindex
  simpa [hindex] using h index

def vectorCells : Cells (AttributeValue F) Nat F.f32 CoreError where
  get := vectorComponent
  set := setVectorComponent
  set_isOk v index component := by
    cases v <;> simp only [setVectorComponent, setVectorComponent.set, vectorComponent] <;>
      first
      | rfl
      | (split
         . next h => simp [h, Except.isOk, Except.toBool]
         . next h => simp [h, Except.isOk, Except.toBool])
  get_set {v index component v'} h := by
    funext j
    rw [Function.update_apply]
    cases v <;> simp only [setVectorComponent, setVectorComponent.set] at h <;>
      first
      | cases h
      | (split at h
         . next hindex =>
           cases h
           simp only [vectorComponent, Vector.getElem?_set, eq_comm]
         . cases h)

theorem setMaskedScalar_eq (value : F.f32) (mask : List Nat) (target : AttributeValue F)
    : setMaskedScalar value mask target = vectorCells.fill (fun _ => .ok value) mask target :=
  rfl

def sourceComponent (source : AttributeValue F) (index : Nat) : Except CoreError F.f32 :=
  match vectorComponent source index with
  | none =>
    .error (.unsupportedTransform
      s!"source component {index} is unavailable on '{source.typeName}'")
  | some component => .ok component

theorem setMaskedVector_eq (source : AttributeValue F) (mask : List Nat) (target : AttributeValue F)
    : setMaskedVector source mask target
        =
      vectorCells.fill (sourceComponent source) mask target := by
  unfold setMaskedVector Cells.fill
  congr 1
  funext transformed index
  unfold sourceComponent
  cases vectorComponent source index <;> rfl

/--
The component that a source has for an index under a mask: a scalar is the same for every index.
-/
def suppliedComponent (source : AttributeValue F) (index : Nat) : Except CoreError F.f32 :=
  match scalarAsF32 source with
  | some value => .ok value
  | none => sourceComponent source index

theorem toOption_suppliedComponent (source : AttributeValue F) (index : Nat)
    : (suppliedComponent source index).toOption
        =
      (scalarAsF32 source).or (vectorComponent source index) := by
  unfold suppliedComponent sourceComponent
  cases scalarAsF32 source with
  | some value => rfl
  | none => cases vectorComponent source index <;> rfl

theorem vectorComponent_of_vectorLen {value : AttributeValue F} (h : vectorLen value = none)
    (index : Nat)
    : vectorComponent value index = none := by
  cases value <;> first | rfl | cases h

theorem isSome_vectorComponent {value : AttributeValue F} {len : Nat}
    (h : vectorLen value = some len) (index : Nat)
    : (vectorComponent value index).isSome = decide (index < len) := by
  cases value <;> cases h <;> exact isSome_vector_getElem? _ index

theorem kind_setVectorComponent {value value' : AttributeValue F} {index : Nat} {component : F.f32}
    (h : setVectorComponent value index component = .ok value')
    : value'.kind = value.kind := by
  cases value <;> simp only [setVectorComponent, setVectorComponent.set] at h <;>
    first
    | cases h
    | (split at h <;> cases h
       rfl)

theorem kind_fill {source : Nat → Except CoreError F.f32} {mask : List Nat}
    {value value' : AttributeValue F} (h : vectorCells.fill source mask value = .ok value')
    : value'.kind = value.kind := by
  apply Cells.fill_invariant (P := fun v => v.kind = value.kind) _ h rfl
  intro s i a s' hset hs
  exact (kind_setVectorComponent hset).trans hs

theorem eq_of_vectorComponent {a b : AttributeValue F} (hkind : a.kind = b.kind)
    (hvector : (vectorLen a).isSome = true) (h : vectorComponent a = vectorComponent b)
    : a = b := by
  cases a <;> cases hvector <;> cases b <;> cases hkind <;>
    exact congrArg _ (vector_eq_of_getElem? (congrFun h))

theorem toOption_applyMappingDeltaTransform {baseline neutral : AttributeValue F}
    (hneutral : defaultDeltaForTarget baseline = .ok neutral) {mask : List Nat} (hmask : mask ≠ [])
    (source : AttributeValue F)
    : (applyMappingDeltaTransform baseline source (some mask)).toOption
        =
      (vectorCells.fill (suppliedComponent source) mask neutral).toOption := by
  have hvector : (vectorLen baseline).isSome = true := by
    cases baseline <;> first | rfl | cases hneutral
  have hempty : mask.isEmpty = false := by simpa using hmask
  simp only [applyMappingDeltaTransform, hempty, hvector, hneutral, Bool.false_eq_true, if_false,
    if_true, setMaskedScalar_eq, setMaskedVector_eq]
  unfold suppliedComponent
  cases scalarAsF32 source with
  | some value => rfl
  | none =>
    dsimp only
    split
    . rfl
    . next hsource =>
      -- the source has no components, and the mask asks for one
      cases hfill : vectorCells.fill (sourceComponent source) mask neutral with
      | error e => rfl
      | ok v =>
        have hall := Cells.isOk_fill_iff.mp (congrArg Except.isOk hfill)
        obtain ⟨index, hindex⟩ := List.exists_mem_of_ne_nil mask hmask
        have hone := (hall index hindex).1
        rw [sourceComponent, vectorComponent_of_vectorLen (by simpa using hsource)] at hone
        cases hone

theorem neutral_of_additive {baseline : AttributeValue F}
    (hkind : baseline.kind = .vec2f ∨ baseline.kind = .vec3f ∨ baseline.kind = .vec4f)
    : ∃ neutral, defaultDeltaForTarget baseline = .ok neutral ∧ neutral.kind = baseline.kind
        ∧ ∀ index, vectorComponent neutral index
            = (vectorComponent baseline index).map fun _ => F.f32.ofNat 0 := by
  have hzero : ∀ {n : Nat} (v : Vector F.f32 n) (index : Nat),
      (Vector.replicate n (F.f32.ofNat 0))[index]? = v[index]?.map fun _ => F.f32.ofNat 0 := by
    intro n v index
    by_cases h : index < n <;> simp [h]
  rcases hkind with hkind | hkind | hkind <;> cases baseline <;> cases hkind <;>
    exact ⟨_, rfl, rfl, hzero _⟩

theorem composeRelativeValue_additive {baseline delta : AttributeValue F}
    (hkind : baseline.kind = .vec2f ∨ baseline.kind = .vec3f ∨ baseline.kind = .vec4f)
    (hsame : delta.kind = baseline.kind)
    : ∃ v, composeRelativeValue baseline delta = .ok v ∧ v.kind = baseline.kind
        ∧ ∀ index, vectorComponent v index
            = Option.map₂ F.f32.add (vectorComponent baseline index)
                (vectorComponent delta index) := by
  have hadd : ∀ {n : Nat} (v w : Vector F.f32 n) (index : Nat),
      (Vector.zipWith F.f32.add v w)[index]? = Option.map₂ F.f32.add v[index]? w[index]? := by
    intro n v w index
    by_cases h : index < n <;> simp [h]
  rcases hkind with hkind | hkind | hkind <;> cases baseline <;> cases hkind <;> cases delta <;>
    cases hsame <;> exact ⟨_, rfl, rfl, hadd _ _⟩

def relativeValue (baseline source : AttributeValue F) (mask : Option (List Nat))
    : Except CoreError (AttributeValue F) :=
  applyMappingDeltaTransform baseline source mask >>= composeRelativeValue baseline

section Additive

variable {baseline : AttributeValue F} {mask : List Nat}

theorem relativeValue_additive (hzero : ∀ a, F.f32.add a (F.f32.ofNat 0) = a)
    (hkind : baseline.kind = .vec2f ∨ baseline.kind = .vec3f ∨ baseline.kind = .vec4f)
    (hmask : mask ≠ []) {source v : AttributeValue F}
    (hv : relativeValue baseline source (some mask) = .ok v)
    : v.kind = baseline.kind
        ∧ ∀ index, vectorComponent v index
            = if index ∈ mask then
                Option.map₂ F.f32.add (vectorComponent baseline index)
                  ((scalarAsF32 source).or (vectorComponent source index))
              else
                vectorComponent baseline index := by
  obtain ⟨neutral, hneutral, hkindNeutral, hcells⟩ := neutral_of_additive hkind
  obtain ⟨delta, hdelta, hcompose⟩ := Traverse.bind_eq_ok_iff.mp hv
  have hfill : vectorCells.fill (suppliedComponent source) mask neutral = .ok delta := by
    have hoption := toOption_applyMappingDeltaTransform hneutral hmask source
    rw [hdelta] at hoption
    cases hresult : vectorCells.fill (suppliedComponent source) mask neutral with
    | error e =>
      rw [hresult] at hoption
      cases hoption
    | ok delta' =>
      rw [hresult] at hoption
      cases hoption
      rfl
  have hkindDelta : delta.kind = baseline.kind := (kind_fill hfill).trans hkindNeutral
  obtain ⟨v', hv', hkind', hadd⟩ := composeRelativeValue_additive hkind hkindDelta
  rw [hcompose, Except.ok.injEq] at hv'
  subst hv'
  refine ⟨hkind', fun index => ?_⟩
  have hget : vectorComponent delta index = if index ∈ mask then _ else _ :=
    Cells.get_fill hfill index
  rw [hadd, hget]
  split
  . rw [toOption_suppliedComponent]
  . change Option.map₂ _ _ (vectorComponent neutral index) = _
    rw [hcells]
    cases vectorComponent baseline index with
    | none => rfl
    | some component => simp [hzero]

theorem isOk_relativeValue_iff
    (hkind : baseline.kind = .vec2f ∨ baseline.kind = .vec3f ∨ baseline.kind = .vec4f)
    (hfits : MaskFits baseline (some mask)) (source : AttributeValue F)
    : (relativeValue baseline source (some mask)).isOk = true
        ↔
      ∀ index ∈ mask, (suppliedComponent source index).isOk = true := by
  obtain ⟨neutral, hneutral, hkindNeutral, hcells⟩ := neutral_of_additive hkind
  obtain ⟨hmask, -, hbounds⟩ := hfits
  have hcell : ∀ index ∈ mask, (vectorComponent neutral index).isSome = true := by
    intro index hindex
    cases hlen : vectorLen baseline with
    | none =>
      rcases hkind with hkind | hkind | hkind <;> cases baseline <;> cases hkind <;> cases hlen
    | some len =>
      rw [hlen] at hbounds
      rw [hcells, Option.isSome_map, isSome_vectorComponent hlen, decide_eq_true_eq]
      exact hbounds.2 index hindex
  have hfill : (vectorCells.fill (suppliedComponent source) mask neutral).isOk = true
      ↔ ∀ index ∈ mask, (suppliedComponent source index).isOk = true := by
    rw [Cells.isOk_fill_iff]
    exact forall₂_congr fun index hindex => and_iff_left (hcell index hindex)
  rw [← hfill]
  have hoption := toOption_applyMappingDeltaTransform hneutral hmask source
  unfold relativeValue
  cases hresult : vectorCells.fill (suppliedComponent source) mask neutral with
  | error e =>
    rw [hresult] at hoption
    cases hdelta : applyMappingDeltaTransform baseline source (some mask) with
    | error e' => rfl
    | ok delta =>
      rw [hdelta] at hoption
      cases hoption
  | ok delta =>
    rw [hresult] at hoption
    cases hdelta : applyMappingDeltaTransform baseline source (some mask) with
    | error e' =>
      rw [hdelta] at hoption
      cases hoption
    | ok delta' =>
      rw [hdelta] at hoption
      cases hoption
      obtain ⟨v, hv, -⟩ :=
        composeRelativeValue_additive hkind ((kind_fill hresult).trans hkindNeutral)
      simp only [bind, Except.bind, hv]
      rfl

theorem maskFits_perm {value : AttributeValue F} {mask' : List Nat} (hperm : mask'.Perm mask)
    (h : MaskFits value (some mask))
    : MaskFits value (some mask') := by
  obtain ⟨hmask, hmat, hrest⟩ := h
  refine ⟨fun hnil => hmask (List.nil_perm.mp (hnil ▸ hperm)), hmat, ?_⟩
  cases hlen : vectorLen value with
  | none =>
    rw [hlen] at hrest
    exact hperm.length_eq.trans hrest
  | some len =>
    rw [hlen] at hrest
    exact ⟨hperm.nodup_iff.mpr hrest.1, fun index hindex => hrest.2 index (hperm.mem_iff.mp hindex)⟩

theorem relativeValue_perm (hzero : ∀ a, F.f32.add a (F.f32.ofNat 0) = a)
    (hkind : baseline.kind = .vec2f ∨ baseline.kind = .vec3f ∨ baseline.kind = .vec4f)
    (hfits : MaskFits baseline (some mask)) {mask' : List Nat} (hperm : mask'.Perm mask)
    (source : AttributeValue F)
    : (relativeValue baseline source (some mask')).toOption
        =
      (relativeValue baseline source (some mask)).toOption := by
  have hfits' := maskFits_perm hperm hfits
  have hisOk : (relativeValue baseline source (some mask')).isOk = true
      ↔ (relativeValue baseline source (some mask)).isOk = true := by
    rw [isOk_relativeValue_iff hkind hfits', isOk_relativeValue_iff hkind hfits]
    simp only [hperm.mem_iff]
  cases hv : relativeValue baseline source (some mask) with
  | error e =>
    cases hv' : relativeValue baseline source (some mask') with
    | error e' => rfl
    | ok v' => simp [hv, hv', Except.isOk, Except.toBool] at hisOk
  | ok v =>
    cases hv' : relativeValue baseline source (some mask') with
    | error e' => simp [hv, hv', Except.isOk, Except.toBool] at hisOk
    | ok v' =>
      obtain ⟨hsame, hget⟩ := relativeValue_additive hzero hkind hfits.1 hv
      obtain ⟨hsame', hget'⟩ := relativeValue_additive hzero hkind hfits'.1 hv'
      have hvector : (vectorLen v').isSome = true := by
        rw [vectorLen_of_kind_eq hsame']
        rcases hkind with hkind | hkind | hkind <;> cases baseline <;> cases hkind <;> rfl
      have heq : v' = v := by
        apply eq_of_vectorComponent (hsame'.trans hsame.symm) hvector
        funext index
        rw [hget, hget']
        simp only [hperm.mem_iff]
      rw [heq]

theorem supplied_iff {source : AttributeValue F} (hmask : mask ≠ [])
    : (∀ index ∈ mask, (suppliedComponent source index).isOk = true)
        ↔
      (source.kind = .int32 ∨ source.kind = .float32 ∨ source.kind = .float64)
        ∨ ∃ len, vectorLen source = some len ∧ ∀ index ∈ mask, index < len := by
  have hone : ∀ index, (suppliedComponent source index).isOk
      = ((scalarAsF32 source).isSome || (vectorComponent source index).isSome) := by
    intro index
    unfold suppliedComponent sourceComponent
    cases scalarAsF32 source with
    | some value => rfl
    | none => cases vectorComponent source index <;> rfl
  simp only [hone, Bool.or_eq_true]
  cases hlen : vectorLen source with
  | none =>
    obtain ⟨index, hindex⟩ := List.exists_mem_of_ne_nil mask hmask
    have hscalar : (scalarAsF32 source).isSome = true
        ↔ source.kind = .int32 ∨ source.kind = .float32 ∨ source.kind = .float64 := by
      cases source <;> simp [scalarAsF32, AttributeValue.kind]
    simp only [vectorComponent_of_vectorLen hlen, Option.isSome_none, Bool.false_eq_true, or_false,
      reduceCtorEq, false_and, exists_false, ← hscalar]
    exact ⟨fun h => h index hindex, fun h _ _ => h⟩
  | some len =>
    have hscalar : (scalarAsF32 source).isSome = false
        ∧ ¬ (source.kind = .int32 ∨ source.kind = .float32 ∨ source.kind = .float64) := by
      cases source <;> cases hlen <;> simp [scalarAsF32, AttributeValue.kind]
    simp [isSome_vectorComponent hlen, hscalar.1, hscalar.2]

end Additive

namespace RuntimeCore

theorem relativeValue_masked (hzero : ∀ a, F.f32.add a (F.f32.ofNat 0) = a) {s : RuntimeCore F}
    {t : Target} {attr : SceneAttribute F} (hattr : s.attributeAt t = some attr) {kind : ValueKind}
    (hkind : kind = .vec2f ∨ kind = .vec3f ∨ kind = .vec4f) (hkinds : attr.HasKind kind)
    {mask : List Nat} (haccepted : s.validateComponentMask t (some mask) = .ok ())
    (source : AttributeValue F)
    : ((relativeValue attr.defaultValue source (some mask)).isOk = true
          ↔
        (source.kind = .int32 ∨ source.kind = .float32 ∨ source.kind = .float64)
          ∨ ∃ len, vectorLen source = some len ∧ ∀ index ∈ mask, index < len)
        ∧ (∀ v, relativeValue attr.defaultValue source (some mask) = .ok v
            → v.kind = kind
              ∧ ∀ index, vectorComponent v index
                  = if index ∈ mask then
                      Option.map₂ F.f32.add (vectorComponent attr.defaultValue index)
                        ((scalarAsF32 source).or (vectorComponent source index))
                    else
                      vectorComponent attr.defaultValue index)
        ∧ ∀ mask', mask'.Perm mask
            → (relativeValue attr.defaultValue source (some mask')).toOption
                = (relativeValue attr.defaultValue source (some mask)).toOption := by
  have hfits : MaskFits attr.defaultValue (some mask) :=
    (maskFits_congr (hkinds.2.trans hkinds.1.symm) _).mp
      ((validateComponentMask_ok_iff hattr _).mp haccepted)
  rw [← hkinds.1] at hkind
  have hmask : mask ≠ [] := hfits.1
  refine ⟨?_, ?_, ?_⟩
  . rw [isOk_relativeValue_iff hkind hfits, supplied_iff hmask]
  . intro v hv
    rw [← hkinds.1]
    exact relativeValue_additive hzero hkind hmask hv
  . intro mask' hperm
    exact relativeValue_perm hzero hkind hfits hperm source

theorem relativeValue_masked_point
    : let attr := pointAttribute (point 4 4 4) (point 0 0 0)
      ∀ v, relativeValue attr.defaultValue (point 1 2 3) (some [2, 0]) = .ok v
        → vectorComponent v 2 = some (7 : Rat) := by
  intro attr v hv
  have hattr : (pointStage attr).attributeAt ⟨1, 2, "point"⟩ = some attr := rfl
  have haccepted : (pointStage attr).validateComponentMask ⟨1, 2, "point"⟩ (some [2, 0]) = .ok () :=
    rfl
  obtain ⟨-, hcomponents, -⟩ := relativeValue_masked (fun a => Rat.add_zero a) hattr
    (.inr (.inl rfl)) ⟨rfl, rfl⟩ haccepted (point 1 2 3)
  rw [(hcomponents v hv).2, if_pos (by decide)]
  exact congrArg some (show (4 : Rat) + 3 = 7 by grind)

end RuntimeCore

open RuntimeCore

/--
The transform step of `apply_updates`, which comes before the filters.
-/
def transformStep (attr : SceneAttribute F) (value : AttributeValue F) (mask : Option (List Nat))
    : Except CoreError (AttributeValue F) :=
  if supportsRelativeComposition attr.defaultValue then
    relativeValue attr.defaultValue value mask
  else
    applyMappingTransform attr.currentValue value mask

theorem nextValue_eq (attr : SceneAttribute F) (value : AttributeValue F)
    (mask : Option (List Nat))
    : nextValue attr value mask
        =
      (transformStep attr value mask).map fun v =>
        applyFilters attr.currentValue v attr.filterChain := by
  unfold nextValue transformStep relativeValue
  by_cases hrel : supportsRelativeComposition attr.defaultValue = true
  . simp only [hrel, if_true]
    cases applyMappingDeltaTransform attr.defaultValue value mask with
    | error e => rfl
    | ok delta =>
      simp only [bind, Except.bind]
      cases composeRelativeValue attr.defaultValue delta <;> rfl
  . simp only [hrel, Bool.false_eq_true, if_false]
    cases applyMappingTransform attr.currentValue value mask <;> rfl

/--
No value has more components than this, so a scalar target cannot be fed from a later one.
-/
def maxComponents : Nat := 4

def MaskUsable (value : AttributeValue F) : Option (List Nat) → Prop
  | none => True
  | some mask =>
    (vectorLen value).isSome = true
      ∨ (isScalarTarget value = true ∧ ∀ index ∈ mask, index < maxComponents)

theorem lt_of_vectorComponent {value : AttributeValue F} {index : Nat} {component : F.f32}
    (h : vectorComponent value index = some component)
    : index < maxComponents := by
  cases hlen : vectorLen value with
  | none =>
    rw [vectorComponent_of_vectorLen hlen] at h
    cases h
  | some len =>
    have hindex := isSome_vectorComponent hlen index
    have hle : len ≤ maxComponents := by cases value <;> cases hlen <;> decide
    rw [h, Option.isSome_some, eq_comm, decide_eq_true_eq] at hindex
    omega

theorem isOk_composeRelativeValue {baseline delta : AttributeValue F}
    (hrel : supportsRelativeComposition baseline = true) (hkind : delta.kind = baseline.kind)
    : (composeRelativeValue baseline delta).isOk = true := by
  cases baseline <;> cases hrel <;> cases delta <;> cases hkind <;> rfl

theorem isOk_relativeValue_scalar {baseline : AttributeValue F} {mask : List Nat}
    (hvector : (vectorLen baseline).isSome = true) (hfits : MaskFits baseline (some mask))
    (value : F.f32)
    : (relativeValue baseline (.float32 value) (some mask)).isOk = true := by
  obtain ⟨hmask, -, hbounds⟩ := hfits
  obtain ⟨len, hlen⟩ := Option.isSome_iff_exists.mp hvector
  rw [hlen] at hbounds
  obtain ⟨neutral, hneutral, hkindNeutral⟩ : ∃ neutral,
      defaultDeltaForTarget baseline = .ok neutral ∧ neutral.kind = baseline.kind := by
    cases baseline <;> cases hvector <;> exact ⟨_, rfl, rfl⟩
  have hfill : (setMaskedScalar value mask neutral).isOk = true := by
    rw [setMaskedScalar_eq]
    refine Cells.isOk_fill_iff.mpr fun index hindex => ⟨rfl, ?_⟩
    change (vectorComponent neutral index).isSome = true
    rw [isSome_vectorComponent ((vectorLen_of_kind_eq hkindNeutral).trans hlen), decide_eq_true_eq]
    exact hbounds.2 index hindex
  cases hdelta : setMaskedScalar value mask neutral with
  | error e =>
    rw [hdelta] at hfill
    cases hfill
  | ok delta =>
    have hrel : supportsRelativeComposition baseline = true := by
      cases baseline <;> first | rfl | cases hvector
    have hempty : mask.isEmpty = false := by simpa using hmask
    have happly : applyMappingDeltaTransform baseline (.float32 value) (some mask) = .ok delta := by
      simp only [applyMappingDeltaTransform, hempty, hvector, hneutral, scalarAsF32,
        Bool.false_eq_true, if_false, if_true, hdelta]
    simp only [relativeValue, happly]
    rw [setMaskedScalar_eq] at hdelta
    exact isOk_composeRelativeValue hrel ((kind_fill hdelta).trans hkindNeutral)

theorem usable_of_none (attr : SceneAttribute F)
    : ∃ source, (transformStep attr source none).isOk = true := by
  by_cases hrel : supportsRelativeComposition attr.defaultValue = true
  . refine ⟨attr.defaultValue, ?_⟩
    simp only [transformStep, hrel, if_true, relativeValue, applyMappingDeltaTransform, ne_eq,
      not_true_eq_false, if_false]
    exact isOk_composeRelativeValue hrel rfl
  . refine ⟨attr.currentValue, ?_⟩
    simp only [transformStep, hrel, applyMappingTransform, ne_eq, not_true_eq_false]
    rfl

theorem isOk_relativeValue_component_iff {baseline : AttributeValue F}
    (hscalar : isScalarTarget baseline = true) (index : Nat)
    : (∃ source, (relativeValue baseline source (some [index])).isOk = true)
        ↔
      index < maxComponents := by
  have hvector : (vectorLen baseline).isSome = false := by
    cases baseline <;> first | rfl | cases hscalar
  have hdelta : ∀ source : AttributeValue F,
      applyMappingDeltaTransform baseline source (some [index])
        = (vectorComponent source index).elim
            (.error (.unsupportedTransform
              s!"source '{source.typeName}' does not have component {index}"))
            (setScalarValue baseline) := by
    intro source
    simp only [applyMappingDeltaTransform, List.isEmpty_cons, Bool.false_eq_true, if_false,
      hvector, hscalar, if_true]
    cases vectorComponent source index <;> rfl
  simp only [relativeValue, hdelta]
  constructor
  . rintro ⟨source, hok⟩
    cases hcomponent : vectorComponent source index with
    | none =>
      rw [hcomponent] at hok
      cases hok
    | some component => exact lt_of_vectorComponent hcomponent
  . intro hindex
    let source : AttributeValue F := .vec4f (Vector.replicate 4 (F.f32.ofNat 0))
    have hsome : (vectorComponent source index).isSome = true := by
      rw [isSome_vectorComponent (rfl : vectorLen source = some 4), decide_eq_true_eq]
      exact hindex
    obtain ⟨component, hcomponent⟩ := Option.isSome_iff_exists.mp hsome
    refine ⟨source, ?_⟩
    rw [hcomponent]
    cases baseline <;> cases hscalar <;> rfl

theorem not_isOk_applyMappingTransform {current : AttributeValue F}
    (hkind : current.kind = .bool ∨ current.kind = .trigger) (source : AttributeValue F)
    (mask : List Nat)
    : (applyMappingTransform current source (some mask)).isOk = false := by
  have hvector : (vectorLen current).isSome = false := by
    rcases hkind with hkind | hkind <;> cases current <;> cases hkind <;> rfl
  simp only [applyMappingTransform, hvector, Bool.false_eq_true, if_false]
  split
  . rfl
  . split
    . split
      . rfl
      . rcases hkind with hkind | hkind <;> cases current <;> cases hkind <;> rfl
    . rfl

namespace RuntimeCore

theorem usable_iff_maskUsable {s : RuntimeCore F} {t : Target} {attr : SceneAttribute F}
    (hattr : s.attributeAt t = some attr) {kind : ValueKind} (hkind : attr.HasKind kind)
    {mask : Option (List Nat)} (haccepted : s.validateComponentMask t mask = .ok ())
    : (∃ source, (transformStep attr source mask).isOk = true)
        ↔
      MaskUsable attr.currentValue mask := by
  have hfits := (validateComponentMask_ok_iff hattr mask).mp haccepted
  cases mask with
  | none => simp only [MaskUsable, usable_of_none attr]
  | some mask =>
    have hsame : attr.defaultValue.kind = attr.currentValue.kind := hkind.1.trans hkind.2.symm
    by_cases hvector : (vectorLen attr.currentValue).isSome = true
    . have hvector' : (vectorLen attr.defaultValue).isSome = true := by
        rw [vectorLen_of_kind_eq hsame]
        exact hvector
      have hrel : supportsRelativeComposition attr.defaultValue = true := by
        generalize attr.defaultValue = default at hvector'
        cases default <;> first | rfl | cases hvector'
      simp only [MaskUsable, hvector, true_or, iff_true]
      refine ⟨.float32 (F.f32.ofNat 0), ?_⟩
      rw [transformStep, if_pos hrel]
      exact isOk_relativeValue_scalar hvector' ((maskFits_congr hsame _).mpr hfits) _
    . obtain ⟨-, hmat, hlength⟩ := hfits
      have hnone : vectorLen attr.currentValue = none := by simpa using hvector
      rw [hnone] at hlength
      obtain ⟨index, rfl⟩ := List.length_eq_one_iff.mp hlength
      simp only [MaskUsable, hvector, Bool.false_eq_true, false_or, List.mem_singleton, forall_eq]
      by_cases hscalar : isScalarTarget attr.currentValue = true
      . have hscalar' : isScalarTarget attr.defaultValue = true := by
          generalize attr.defaultValue = default at hsame
          generalize attr.currentValue = current at hsame hscalar
          cases current <;> cases hscalar <;> cases default <;> cases hsame <;> rfl
        have hrel : supportsRelativeComposition attr.defaultValue = true := by
          generalize attr.defaultValue = default at hscalar'
          cases default <;> first | rfl | cases hscalar'
        simp only [hscalar, true_and, transformStep, hrel, if_true]
        exact isOk_relativeValue_component_iff hscalar' index
      . have hbool : attr.currentValue.kind = .bool ∨ attr.currentValue.kind = .trigger := by
          generalize attr.currentValue = current at hmat hnone hscalar
          cases current <;> simp_all [AttributeValue.kind, isScalarTarget, vectorLen]
        have hrel : supportsRelativeComposition attr.defaultValue = false := by
          rw [← hsame] at hbool
          generalize attr.defaultValue = default at hbool
          rcases hbool with hbool | hbool <;> cases default <;> cases hbool <;> rfl
        simp only [hscalar, transformStep, hrel, Bool.false_eq_true, if_false, false_and,
          not_isOk_applyMappingTransform hbool, exists_false]

theorem usable_iff_maskUsable_point
    : let attr := pointAttribute (point 4 4 4) (point 0 0 0)
      (∃ source, (transformStep attr source (some [0])).isOk = true)
        ↔
      MaskUsable attr.currentValue (some [0]) :=
  usable_iff_maskUsable (s := pointStage (pointAttribute (point 4 4 4) (point 0 0 0)))
    (t := ⟨1, 2, "point"⟩) rfl
    (show SceneAttribute.HasKind .vec3f (pointAttribute (point 4 4 4) (point 0 0 0)) from ⟨rfl, rfl⟩) rfl

/--
The mask of a switch is accepted, and no value that comes in can be put through it.
-/
theorem usable_fails
    : ¬ ∀ (s : RuntimeCore Floats.rational) (t : Target) (attr : SceneAttribute Floats.rational)
        (kind : ValueKind) (mask : Option (List Nat)),
        s.attributeAt t = some attr → attr.HasKind kind → s.validateComponentMask t mask = .ok ()
          → ∃ source, (transformStep attr source mask).isOk = true := by
  intro h
  obtain ⟨source, hok⟩ := h ((new .default).loadScene (switchScene _)).2 ⟨1, 2, "left"⟩
    (.new "left" (.bool false)) .bool (some [0]) rfl ⟨rfl, rfl⟩ rfl
  rw [transformStep, if_neg (by decide), not_isOk_applyMappingTransform (.inl rfl)] at hok
  cases hok

end RuntimeCore

end MotionStage
