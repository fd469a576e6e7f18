import Mathlib.Algebra.Quaternion
import Mathlib.Data.Matrix.Mul
import Mathlib.Tactic.Ring
import MotionStage.Core.Exact
import MotionStage.Core.Mask
import MotionStage.Core.Serving

/-!
This module contains the algebra of relative values in exact arithmetic: deltas are applied by the
addition, the matrix product or the quaternion product of their type, so a baseline commit between
two deltas makes no difference.
-/

/--
The values point in one direction: they are equal up to a positive factor.
-/
def SameDirection (K : Type) {M : Type} [Zero K] [LT K] [SMul K M] (v w : M) : Prop :=
  ∃ c : K, 0 < c ∧ v = c • w

namespace SameDirection

variable {K : Type} [Field K] [LinearOrder K] [IsStrictOrderedRing K]

theorem refl {M : Type} [AddCommGroup M] [Module K M] (v : M) : SameDirection K v v :=
  ⟨1, one_pos, (one_smul K v).symm⟩

theorem symm {M : Type} [AddCommGroup M] [Module K M] {v w : M} (h : SameDirection K v w)
    : SameDirection K w v := by
  obtain ⟨c, hc, rfl⟩ := h
  exact ⟨c⁻¹, inv_pos.mpr hc, (inv_smul_smul₀ hc.ne' w).symm⟩

theorem trans {M : Type} [AddCommGroup M] [Module K M] {u v w : M} (h : SameDirection K u v)
    (h' : SameDirection K v w)
    : SameDirection K u w := by
  obtain ⟨c, hc, rfl⟩ := h
  obtain ⟨c', hc', rfl⟩ := h'
  exact ⟨c * c', mul_pos hc hc', smul_smul c c' w⟩

omit [IsStrictOrderedRing K] in
theorem mul_right {M : Type} [Ring M] [Algebra K M] {v w : M} (h : SameDirection K v w) (u : M)
    : SameDirection K (v * u) (w * u) := by
  obtain ⟨c, hc, rfl⟩ := h
  exact ⟨c, hc, smul_mul_assoc c w u⟩

end SameDirection

theorem eq_of_all_zip {α : Type} {r : α → α → Bool} (hr : ∀ a b, r a b = true → a = b)
    {xs ys : List α} (hlength : xs.length = ys.length)
    (h : ((xs.zip ys).all fun p => r p.1 p.2) = true)
    : xs = ys := by
  induction xs generalizing ys with
  | nil => exact (List.length_eq_zero_iff.mp hlength.symm).symm
  | cons x xs ih =>
    cases ys with
    | nil => cases hlength
    | cons y ys =>
      simp only [List.zip_cons_cons, List.all_cons, Bool.and_eq_true] at h
      rw [hr x y h.1, ih (Nat.succ.inj hlength) h.2]

section Storage

variable {K : Type}

theorem vector_get_eq {n : Nat} (v : Vector K n) (i : Fin n)
    : v.get i = getElem v i.val i.isLt :=
  rfl

def toMatrix (v : Vector (Vector K 4) 4) : Matrix (Fin 4) (Fin 4) K := fun row col => (v.get row).get col

def ofMatrix (m : Matrix (Fin 4) (Fin 4) K) : Vector (Vector K 4) 4 :=
  Vector.ofFn fun row => Vector.ofFn fun col => m row col

@[simp]
theorem toMatrix_ofMatrix (m : Matrix (Fin 4) (Fin 4) K) : toMatrix (ofMatrix m) = m := by
  funext row col
  simp [toMatrix, ofMatrix, vector_get_eq]

@[simp]
theorem ofMatrix_toMatrix (v : Vector (Vector K 4) 4) : ofMatrix (toMatrix v) = v := by
  apply Vector.ext
  intro row hrow
  apply Vector.ext
  intro col hcol
  simp [toMatrix, ofMatrix, vector_get_eq]

variable [Field K]

/--
The four components are stored as `x`, `y`, `z`, `w`, the real part comes last.
-/
def toQuaternion (v : Vector K 4) : Quaternion K := ⟨v.get 3, v.get 0, v.get 1, v.get 2⟩

def ofQuaternion (q : Quaternion K) : Vector K 4 := #v[q.imI, q.imJ, q.imK, q.re]

@[simp]
theorem toQuaternion_ofQuaternion (q : Quaternion K) : toQuaternion (ofQuaternion q) = q := rfl

theorem ofQuaternion_mul (v w : Vector K 4)
    : ofQuaternion (toQuaternion v * toQuaternion w)
        =
      #v[v.get 3 * w.get 0 + v.get 0 * w.get 3 + v.get 1 * w.get 2 - v.get 2 * w.get 1,
        v.get 3 * w.get 1 - v.get 0 * w.get 2 + v.get 1 * w.get 3 + v.get 2 * w.get 0,
        v.get 3 * w.get 2 + v.get 0 * w.get 1 - v.get 1 * w.get 0 + v.get 2 * w.get 3,
        v.get 3 * w.get 3 - v.get 0 * w.get 0 - v.get 1 * w.get 1 - v.get 2 * w.get 2] := by
  simp only [ofQuaternion, Quaternion.re_mul, Quaternion.imI_mul, Quaternion.imJ_mul,
    Quaternion.imK_mul]
  rfl

def Primitives.norm (p : Primitives K) (q : Quaternion K) : K := p.sqrt (Quaternion.normSq q)

end Storage

namespace MotionStage

variable {K : Type} [Field K] [LinearOrder K] {p : Primitives K}

section Equality

theorem eq_of_eqVector {n : Nat} {v w : Vector K n}
    (h : (FloatFormat.exact p.sqrt).eqVector v w = true)
    : v = w := by
  apply Vector.toList_inj.mp
  apply eq_of_all_zip (r := fun a b : K => decide (a = b)) (fun a b => of_decide_eq_true)
  . rw [Vector.length_toList, Vector.length_toList]
  . exact h

theorem AttributeValue.eq_of_eq {a b : AttributeValue (Floats.exact p)} (h : a.eq b = true)
    : a = b := by
  cases a <;> cases b <;> try cases h
  . rw [eq_of_beq h]
  . rw [eq_of_beq h]
  . rw [of_decide_eq_true h]
  . rw [of_decide_eq_true h]
  . rw [eq_of_eqVector h]
  . rw [eq_of_eqVector h]
  . rw [eq_of_eqVector h]
  . rw [eq_of_eqVector h]
  . next v w =>
    congr 1
    apply Vector.toList_inj.mp
    apply eq_of_all_zip (r := (FloatFormat.exact p.sqrt).eqVector) (fun a b => eq_of_eqVector)
    . rw [Vector.length_toList, Vector.length_toList]
    . exact h
  . rw [eq_of_beq h]

theorem commit_sync (attr : SceneAttribute (Floats.exact p))
    : RuntimeCore.BaselineSync.commit.sync attr = { attr with defaultValue := attr.currentValue } := by
  unfold RuntimeCore.BaselineSync.sync
  split
  . rfl
  . next h =>
    simp only [RuntimeCore.BaselineSync.commit, Bool.not_eq_true, Bool.not_eq_false'] at h
    obtain ⟨name, defaultValue, currentValue, liveEnabled, recordEnabled, filterChain⟩ := attr
    rw [show defaultValue = currentValue from AttributeValue.eq_of_eq h]

end Equality

section Product

theorem norm_ofQuaternion (q : Quaternion K)
    : p.sqrt ((FloatFormat.exact p.sqrt).sum ((ofQuaternion q).toList.map fun v => v * v))
        = p.norm q := by
  simp only [FloatFormat.sum, ofQuaternion, Primitives.norm, Quaternion.normSq_def', List.map_cons,
    List.map_nil, List.foldl_cons, List.foldl_nil, Vector.toList_mk, Nat.cast_zero]
  congr 1
  ring

omit [LinearOrder K] in
theorem map_div_ofQuaternion (q : Quaternion K) (c : K)
    : (ofQuaternion q).map (fun v => v / c) = ofQuaternion (c⁻¹ • q) := by
  simp [ofQuaternion, div_eq_inv_mul]

variable (p) in
/--
The sixteen terms are those of the quaternion product.
-/
theorem quatMultiplyNormalized_eq (base delta : Vector K 4)
    : quatMultiplyNormalized (F := .exact p) base delta
        =
      if p.norm (toQuaternion base * toQuaternion delta) ≤ p.epsilon then
        base
      else
        ofQuaternion ((p.norm (toQuaternion base * toQuaternion delta))⁻¹
          • (toQuaternion base * toQuaternion delta)) := by
  have hproduct : quatMultiplyNormalized (F := .exact p) base delta
      = (let result := ofQuaternion (toQuaternion base * toQuaternion delta)
        let norm := p.sqrt ((FloatFormat.exact p.sqrt).sum (result.toList.map fun v => v * v))
        if decide (norm ≤ p.epsilon) = true then base else result.map fun v => v / norm) := by
    rw [ofQuaternion_mul]
    rfl
  rw [hproduct]
  dsimp only
  rw [norm_ofQuaternion, map_div_ofQuaternion]
  simp only [decide_eq_true_eq]

section Direction

variable [IsStrictOrderedRing K] (hepsilon : 0 ≤ p.epsilon)
include hepsilon

theorem sameDirection_quatMultiplyNormalized {base delta : Vector K 4}
    (h : p.epsilon < p.norm (toQuaternion base * toQuaternion delta))
    : SameDirection K (toQuaternion (quatMultiplyNormalized (F := .exact p) base delta))
        (toQuaternion base * toQuaternion delta) := by
  rw [quatMultiplyNormalized_eq, if_neg (not_le.mpr h)]
  exact ⟨_, inv_pos.mpr (hepsilon.trans_lt h), rfl⟩

/--
The neutral rotation leaves the direction of the baseline even where the product is too short.
-/
theorem sameDirection_quatMultiplyNormalized_one {base delta : Vector K 4}
    (hone : toQuaternion delta = 1)
    : SameDirection K (toQuaternion (quatMultiplyNormalized (F := .exact p) base delta))
        (toQuaternion base) := by
  by_cases h : p.epsilon < p.norm (toQuaternion base * toQuaternion delta)
  . have hsame := sameDirection_quatMultiplyNormalized hepsilon h
    rw [hone, mul_one] at hsame
    exact hsame
  . rw [quatMultiplyNormalized_eq, if_pos (not_lt.mp h)]
    exact .refl _

theorem sameDirection_quatMultiplyNormalized_mul {base d₁ d₂ d : Vector K 4}
    (hd : toQuaternion d = toQuaternion d₁ * toQuaternion d₂)
    (h₁ : p.epsilon < p.norm (toQuaternion base * toQuaternion d₁))
    (h₂ : p.epsilon < p.norm
      (toQuaternion (quatMultiplyNormalized (F := .exact p) base d₁) * toQuaternion d₂))
    (h : p.epsilon < p.norm (toQuaternion base * toQuaternion d))
    : SameDirection K
        (toQuaternion (quatMultiplyNormalized (F := .exact p)
          (quatMultiplyNormalized (F := .exact p) base d₁) d₂))
        (toQuaternion (quatMultiplyNormalized (F := .exact p) base d)) := by
  apply (sameDirection_quatMultiplyNormalized hepsilon h₂).trans
  apply ((sameDirection_quatMultiplyNormalized hepsilon h₁).mul_right (toQuaternion d₂)).trans
  rw [mul_assoc, ← hd]
  exact (sameDirection_quatMultiplyNormalized hepsilon h).symm

end Direction

variable (p) in
theorem mat4Multiply_eq (base delta : Vector (Vector K 4) 4)
    : mat4Multiply (F := .exact p) base delta = ofMatrix (toMatrix base * toMatrix delta) := by
  unfold mat4Multiply ofMatrix
  congr 1
  funext row
  congr 1
  funext col
  rw [Matrix.mul_apply, Fin.sum_univ_four]
  simp [FloatFormat.sum, FloatFormat.exact, toMatrix, List.finRange, vector_get_eq]

end Product

namespace AttributeValue

def mul : AttributeValue (Floats.exact p) → AttributeValue (Floats.exact p)
    → Option (AttributeValue (Floats.exact p))
  | float32 (a : K), float32 (b : K) => some (float32 (a + b))
  | float64 (a : K), float64 (b : K) => some (float64 (a + b))
  | vec2f (a : Vector K 2), vec2f (b : Vector K 2) => some (vec2f (a + b))
  | vec3f (a : Vector K 3), vec3f (b : Vector K 3) => some (vec3f (a + b))
  | vec4f (a : Vector K 4), vec4f (b : Vector K 4) => some (vec4f (a + b))
  | quatf a, quatf b => some (quatf (ofQuaternion (toQuaternion a * toQuaternion b)))
  | mat4f a, mat4f b => some (mat4f (ofMatrix (toMatrix a * toMatrix b)))
  | _, _ => none

def neutral : ValueKind → Option (AttributeValue (Floats.exact p))
  | .float32 => some (float32 (0 : K))
  | .float64 => some (float64 (0 : K))
  | .vec2f => some (vec2f (0 : Vector K 2))
  | .vec3f => some (vec3f (0 : Vector K 3))
  | .vec4f => some (vec4f (0 : Vector K 4))
  | .quatf => some (quatf (#v[0, 0, 0, 1] : Vector K 4))
  | .mat4f => some (mat4f (ofMatrix 1))
  | _ => none

/--
The values are equal, where rotations may have different lengths.
-/
def Agrees : AttributeValue (Floats.exact p) → AttributeValue (Floats.exact p) → Prop
  | quatf a, quatf b => SameDirection K (toQuaternion a) (toQuaternion b)
  | a, b => a = b

/--
The raw product of two rotations is long enough to be normalized.
-/
def Normalizes : AttributeValue (Floats.exact p) → AttributeValue (Floats.exact p) → Prop
  | quatf base, quatf delta => p.epsilon < p.norm (toQuaternion base * toQuaternion delta)
  | _, _ => True

end AttributeValue

section Values

open AttributeValue

variable [IsStrictOrderedRing K] (hepsilon : 0 ≤ p.epsilon)
  {base d₁ d₂ d : AttributeValue (Floats.exact p)}
include hepsilon

theorem composeRelativeValue_mul (hkind : d₁.kind = base.kind) (hd : d₁.mul d₂ = some d)
    (h₁ : base.Normalizes d₁)
    (h₂ : ∀ v, composeRelativeValue base d₁ = .ok v → v.Normalizes d₂) (h : base.Normalizes d)
    : ∃ u v w, composeRelativeValue base d₁ = .ok u ∧ composeRelativeValue u d₂ = .ok v
        ∧ composeRelativeValue base d = .ok w ∧ v.Agrees w := by
  have hassoc : ∀ a b c : K, a + b + c = a + (b + c) := add_assoc
  cases base <;> cases d₁ <;> cases hkind <;> cases d₂ <;> cases hd
  . next a b c => exact ⟨_, _, _, rfl, rfl, rfl, congrArg float32 (hassoc a b c)⟩
  . next a b c => exact ⟨_, _, _, rfl, rfl, rfl, congrArg float64 (hassoc a b c)⟩
  . next a b c => exact ⟨_, _, _, rfl, rfl, rfl, congrArg vec2f (Vector.add_assoc hassoc a b c)⟩
  . next a b c => exact ⟨_, _, _, rfl, rfl, rfl, congrArg vec3f (Vector.add_assoc hassoc a b c)⟩
  . next a b c => exact ⟨_, _, _, rfl, rfl, rfl, congrArg vec4f (Vector.add_assoc hassoc a b c)⟩
  . exact ⟨_, _, _, rfl, rfl, rfl, sameDirection_quatMultiplyNormalized_mul hepsilon
      (toQuaternion_ofQuaternion _) h₁ (h₂ _ rfl) h⟩
  . next a b c =>
    refine ⟨_, _, _, rfl, rfl, rfl, congrArg mat4f ?_⟩
    simp only [mat4Multiply_eq, toMatrix_ofMatrix, mul_assoc]

theorem composeRelativeValue_neutral {e : AttributeValue (Floats.exact p)}
    (he : AttributeValue.neutral base.kind = some e)
    : ∃ v, composeRelativeValue base e = .ok v ∧ v.Agrees base := by
  have hzero : ∀ a : K, a + 0 = a := add_zero
  cases base <;> cases he
  . next a => exact ⟨_, rfl, congrArg float32 (hzero a)⟩
  . next a => exact ⟨_, rfl, congrArg float64 (hzero a)⟩
  . next a => exact ⟨_, rfl, congrArg vec2f (Vector.add_zero hzero a)⟩
  . next a => exact ⟨_, rfl, congrArg vec3f (Vector.add_zero hzero a)⟩
  . next a => exact ⟨_, rfl, congrArg vec4f (Vector.add_zero hzero a)⟩
  . exact ⟨_, rfl, sameDirection_quatMultiplyNormalized_one hepsilon rfl⟩
  . next a =>
    refine ⟨_, rfl, congrArg mat4f ?_⟩
    rw [mat4Multiply_eq, toMatrix_ofMatrix, mul_one, ofMatrix_toMatrix]

end Values

namespace RuntimeCore

section Driven

variable {F : Floats} {s : RuntimeCore F} {deviceId : Uuid} {output : String} {t : Target}

/--
The updates of this output reach the attribute at `t`, all components of it.
-/
structure Drives (s : RuntimeCore F) (deviceId : Uuid) (output : String) (t : Target) : Prop where
  mode : s.mode ≠ .idle
  scene : s.activeScene = some t.scene
  route : ∃ m, s.route deviceId t.scene output = some m ∧ m.target = t ∧ m.componentMask = none

def Commits (op : RuntimeOp F) (t : Target) : Prop :=
  op = .commitObjectBaseline t.scene t.object ∨ op = .commitSceneBaseline t.scene

theorem Drives.applyUpdates (h : s.Drives deviceId output t) (updates : List (AttributeUpdate F))
    (nowNs : Nat)
    : (s.applyUpdates deviceId updates nowNs).2.Drives deviceId output t := by
  obtain ⟨hmode, hscene, m, hroute, htarget, hmask⟩ := h
  rw [applyUpdates_frame]
  refine ⟨hmode, hscene, m.beat deviceId nowNs, ?_, ?_, ?_⟩
  . have hbeaten := s.route_heartbeat deviceId deviceId nowNs t.scene output
    rw [hroute, Option.map_some, route_eq] at hbeaten
    rw [route_eq]
    exact hbeaten
  . rw [(m.beat_keeps deviceId nowNs).2.1, htarget]
  . rw [m.beat_componentMask, hmask]

theorem Drives.commit (h : s.Drives deviceId output t) {op : RuntimeOp F} (hop : Commits op t)
    : (s.step op).Drives deviceId output t := by
  obtain ⟨hmode, hscene, m, hroute, hm⟩ := h
  rw [route_eq] at hroute
  rcases hop with rfl | rfl
  . simp only [step]
    rw [commitObjectBaseline_frame]
    exact ⟨hmode, hscene, m, by rw [route_eq, hroute], hm⟩
  . simp only [step, commitSceneBaseline]
    rw [syncScene_frame]
    exact ⟨hmode, hscene, m, by rw [route_eq, hroute], hm⟩

theorem attributeAt_commit {op : RuntimeOp F} (hop : Commits op t)
    : (s.step op).attributeAt t = (s.attributeAt t).map BaselineSync.commit.sync := by
  rcases hop with rfl | rfl
  . simp only [step, attributeAt_commitObjectBaseline, and_self, if_true]
  . simp only [step, commitSceneBaseline, attributeAt_syncScene, if_true]

theorem applyFilters_of_passthrough {filters : List (AttributeFilter F)}
    (h : ∀ filter ∈ filters, filter = .passthrough) (previous incoming : AttributeValue F)
    : applyFilters previous incoming filters = incoming := by
  unfold applyFilters
  induction filters with
  | nil => rfl
  | cons filter filters ih =>
    rw [List.foldl_cons, h filter List.mem_cons_self]
    exact ih fun f hf => h f (List.mem_cons_of_mem _ hf)

variable {attr : SceneAttribute F} {value v : AttributeValue F}

theorem relative_of_compose {base : AttributeValue F} (h : composeRelativeValue base value = .ok v)
    : supportsRelativeComposition base = true ∧ base.typeName = value.typeName := by
  unfold composeRelativeValue at h
  split at h <;> first | exact ⟨rfl, rfl⟩ | cases h

theorem nextValue_of_compose (hfilters : ∀ filter ∈ attr.filterChain, filter = .passthrough)
    (hcompose : composeRelativeValue attr.defaultValue value = .ok v)
    : nextValue attr value none = .ok v := by
  obtain ⟨hrel, hname⟩ := relative_of_compose hcompose
  simp only [nextValue, hrel, if_true, applyMappingDeltaTransform, hname, ne_eq, not_true_eq_false,
    if_false, hcompose]
  rw [applyFilters_of_passthrough hfilters]

theorem attributeAt_applyUpdates_of_drives (h : s.Drives deviceId output t)
    (hattr : s.attributeAt t = some attr) (hlive : attr.liveEnabled = true)
    (hfilters : ∀ filter ∈ attr.filterChain, filter = .passthrough)
    (hcompose : composeRelativeValue attr.defaultValue value = .ok v) (nowNs : Nat)
    : (s.applyUpdates deviceId [⟨output, value⟩] nowNs).2.attributeAt t
        =
      some { attr with currentValue := v } := by
  obtain ⟨hmode, hscene, m, hroute, rfl, hmask⟩ := h
  have hnext : nextValue attr value m.componentMask = .ok v := by
    rw [hmask]
    exact nextValue_of_compose hfilters hcompose
  rw [attributeAt_applyUpdates_of_accepts hmode hscene, hattr]
  . simp [settle, settleOne, hroute, hlive, hnext]
  . intro update hupdate
    rw [List.mem_singleton.mp hupdate]
    simp [accepts, hroute, hattr, hlive, hnext, Except.isOk, Except.toBool]

end Driven

variable [IsStrictOrderedRing K]

theorem currentAt_commit_between (hepsilon : 0 ≤ p.epsilon) {s : RuntimeCore (Floats.exact p)}
    {deviceId : Uuid} {output : String} {t : Target} {attr : SceneAttribute (Floats.exact p)}
    (hdrives : s.Drives deviceId output t) (hattr : s.attributeAt t = some attr)
    (hlive : attr.liveEnabled = true)
    (hfilters : ∀ filter ∈ attr.filterChain, filter = .passthrough)
    : (∀ d₁ d₂ d, d₁.kind = attr.defaultValue.kind → d₁.mul d₂ = some d
        → attr.defaultValue.Normalizes d₁
        → (∀ v, composeRelativeValue attr.defaultValue d₁ = .ok v → v.Normalizes d₂)
        → attr.defaultValue.Normalizes d
        → ∀ commit, Commits commit t → ∀ n₁ n₂ n, ∃ v w,
            (Run.run step s [.applyUpdates deviceId [⟨output, d₁⟩] n₁, commit,
              .applyUpdates deviceId [⟨output, d₂⟩] n₂]).currentAt t = some v
            ∧ (s.step (.applyUpdates deviceId [⟨output, d⟩] n)).currentAt t = some w
            ∧ v.Agrees w)
      ∧ ∀ e, AttributeValue.neutral attr.defaultValue.kind = some e → ∀ n, ∃ v,
          (s.step (.applyUpdates deviceId [⟨output, e⟩] n)).currentAt t = some v
            ∧ v.Agrees attr.defaultValue := by
  refine ⟨?_, ?_⟩
  . intro d₁ d₂ d hkind hd h₁ h₂ h commit hcommit n₁ n₂ n
    obtain ⟨u, v, w, hu, hv, hw, hagrees⟩ := composeRelativeValue_mul hepsilon hkind hd h₁ h₂ h
    refine ⟨v, w, ?_, ?_, hagrees⟩
    . have hfirst := attributeAt_applyUpdates_of_drives hdrives hattr hlive hfilters hu n₁
      have hcommitted := attributeAt_commit (s := (s.applyUpdates deviceId [⟨output, d₁⟩] n₁).2) hcommit
      rw [hfirst, Option.map_some, commit_sync] at hcommitted
      have hsecond := attributeAt_applyUpdates_of_drives ((hdrives.applyUpdates _ n₁).commit hcommit)
        hcommitted hlive hfilters hv n₂
      exact congrArg (Option.map SceneAttribute.currentValue) hsecond
    . have hproduct := attributeAt_applyUpdates_of_drives hdrives hattr hlive hfilters hw n
      exact congrArg (Option.map SceneAttribute.currentValue) hproduct
  . intro e he n
    obtain ⟨v, hv, hagrees⟩ := composeRelativeValue_neutral hepsilon he
    refine ⟨v, ?_, hagrees⟩
    have hneutral := attributeAt_applyUpdates_of_drives hdrives hattr hlive hfilters hv n
    exact congrArg (Option.map SceneAttribute.currentValue) hneutral

def turn (x y z w : ℚ) : AttributeValue (Floats.exact .rational) := .quatf #v[x, y, z, w]

def turnStage : RuntimeCore (Floats.exact .rational) :=
  Run.run step (new .default)
    [.loadScene ((Scene.new 1 "stage").withObject
        ((SceneObject.new 2 "panel").withAttribute (.new "turn" (turn 0 0 0 1)))),
      .createMapping (switchRequest 7 "turn") 10 100, .setMode .live]

theorem drives_turnStage : turnStage.Drives 7 "button" ⟨1, 2, "turn"⟩ :=
  ⟨by decide, rfl, _, rfl, rfl, rfl⟩

section Unit

variable {base delta : Vector ℚ 4} (hbase : Quaternion.normSq (toQuaternion base) = 1)
  (hdelta : Quaternion.normSq (toQuaternion delta) = 1)
include hbase hdelta

theorem norm_mul_eq_one
    : (Primitives.rational).norm (toQuaternion base * toQuaternion delta) = 1 := by
  have hsqrt : Rat.sqrt 1 = 1 := by simp
  rw [Primitives.norm, map_mul, hbase, hdelta, one_mul]
  exact hsqrt

theorem epsilon_lt_norm_mul
    : (Primitives.rational).epsilon
        < (Primitives.rational).norm (toQuaternion base * toQuaternion delta) := by
  rw [norm_mul_eq_one hbase hdelta]
  norm_num [Primitives.rational]

theorem normSq_quatMultiplyNormalized
    : Quaternion.normSq (toQuaternion
        (quatMultiplyNormalized (F := .exact .rational) base delta)) = 1 := by
  rw [quatMultiplyNormalized_eq, if_neg (not_le.mpr (epsilon_lt_norm_mul hbase hdelta)),
    norm_mul_eq_one hbase hdelta, inv_one, one_smul, toQuaternion_ofQuaternion, map_mul, hbase,
    hdelta, one_mul]

end Unit

/--
Half a turn around the first axis and then around the second one is half a turn around the third.
-/
theorem currentAt_commit_between_turn
    : ∃ v w,
        (Run.run step turnStage [.applyUpdates 7 [⟨"button", turn 1 0 0 0⟩] 20,
          .commitSceneBaseline 1,
          .applyUpdates 7 [⟨"button", turn 0 1 0 0⟩] 30]).currentAt ⟨1, 2, "turn"⟩ = some v
        ∧ (turnStage.step (.applyUpdates 7 [⟨"button", turn 0 0 1 0⟩] 20)).currentAt
            ⟨1, 2, "turn"⟩ = some w
        ∧ v.Agrees w := by
  have hepsilon : 0 ≤ (Primitives.rational).epsilon := by norm_num [Primitives.rational]
  have hattr : turnStage.attributeAt ⟨1, 2, "turn"⟩ = some (.new "turn" (turn 0 0 0 1)) := rfl
  have hunit : ∀ v : Vector ℚ 4, v[0] ^ 2 + v[1] ^ 2 + v[2] ^ 2 + v[3] ^ 2 = 1
      → Quaternion.normSq (toQuaternion v) = 1 := by
    intro v hv
    rw [Quaternion.normSq_def']
    refine Eq.trans ?_ hv
    change v[3] ^ 2 + v[0] ^ 2 + v[1] ^ 2 + v[2] ^ 2 = _
    ring
  have hbase := hunit #v[0, 0, 0, 1] (by norm_num)
  have hfirst := hunit #v[1, 0, 0, 0] (by norm_num)
  apply (currentAt_commit_between hepsilon drives_turnStage hattr rfl (by simp [SceneAttribute.new])).1
  . rfl
  . simp only [turn, AttributeValue.mul, ofQuaternion_mul, vector_get_eq]
    norm_num
  . exact epsilon_lt_norm_mul hbase hfirst
  . intro v hv
    cases hv
    exact epsilon_lt_norm_mul (normSq_quatMultiplyNormalized hbase hfirst)
      (hunit #v[0, 1, 0, 0] (by norm_num))
  . exact epsilon_lt_norm_mul hbase (hunit #v[0, 0, 1, 0] (by norm_num))
  . exact .inr rfl

end RuntimeCore

end MotionStage
