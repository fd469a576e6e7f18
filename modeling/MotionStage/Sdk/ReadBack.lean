import MotionStage.Sdk.SceneSpec

/-!
This module contains the way back: what `runtime_attribute_values` returns for an attribute, given
to `upsert_scene` as a value.
-/

namespace MotionStage

variable {F : Floats}

namespace Sdk

open PyAny (extractF32 extractVec)

variable (py : Pyo3 F)

theorem vectorOf_toList {α : Type} {n : Nat} (v : Vector α n) (h : v.toList.length = n)
    : vectorOf v.toList h = v :=
  Vector.toArray_inj.mp Array.toArray_toList

theorem mapM_extractF32 (h : ∀ x, F.narrow (F.widen x) = x) (items : List F.f32)
    : (items.map fun x => PyAny.float (F.widen x)).mapM (extractF32 py) = some items := by
  induction items with
  | nil => rfl
  | cons x items ih => simp [ih, extractF32, PyAny.extractF64, h]

theorem extractVec_vector (h : ∀ x, F.narrow (F.widen x) = x) {n : Nat} (v : Vector F.f32 n)
    : (PyAny.list (v.toList.map fun x => .float (F.widen x))).extractVec (extractF32 py)
        = some v.toList :=
  mapM_extractF32 py h v.toList

theorem extractVecF32_vector (h : ∀ x, F.narrow (F.widen x) = x) {n : Nat} (v : Vector F.f32 n)
    : extractVecF32 py n (.list (v.toList.map fun x => .float (F.widen x))) = .ok v := by
  have hlength : v.toList.length = n := v.length_toList
  rw [extractVecF32, extractVec_vector py h]
  simp only [hlength, dif_pos, vectorOf_toList]

theorem mapM_rows (h : ∀ x, F.narrow (F.widen x) = x) (rows : List (Vector F.f32 4))
    : (rows.map fun row => PyAny.list (row.toList.map fun x => .float (F.widen x))).mapM
        (extractVec (extractF32 py)) = some (rows.map Vector.toList) := by
  induction rows with
  | nil => rfl
  | cons row rows ih => simp [ih, extractVec_vector py h]

theorem matRows_vectors (rowIdx : Nat) (rows : List (Vector F.f32 4))
    : ∃ out, matRows rowIdx (rows.map Vector.toList) = .ok out ∧ out.1 = rows := by
  induction rows generalizing rowIdx with
  | nil => exact ⟨_, rfl, rfl⟩
  | cons row rows ih =>
    obtain ⟨out, hout, hrows⟩ := ih (rowIdx + 1)
    have hlength : row.toList.length = 4 := row.length_toList
    refine ⟨⟨vectorOf row.toList hlength :: out.1, congrArg (· + 1) out.2⟩, ?_, ?_⟩
    . show matRows rowIdx (row.toList :: rows.map Vector.toList) = _
      unfold matRows
      rw [dif_pos hlength, hout]
    . show vectorOf row.toList hlength :: out.1 = row :: rows
      rw [hrows, vectorOf_toList]

theorem extractMat4f_matrix (h : ∀ x, F.narrow (F.widen x) = x) (v : Vector (Vector F.f32 4) 4)
    : extractMat4f py
        (.list (v.toList.map fun row => .list (row.toList.map fun x => .float (F.widen x))))
        = .ok v := by
  obtain ⟨out, hout, hrows⟩ := matRows_vectors 0 v.toList
  have hlength : (v.toList.map Vector.toList).length = 4 := by simp
  simp only [extractMat4f, extractVec, mapM_rows py h]
  rw [dif_pos hlength, hout]
  simp only [hrows, vectorOf_toList]

theorem asciiLower_trim_typeName (v : AttributeValue F)
    : asciiLower (Text.trim v.typeName) = v.typeName := by
  cases v <;> simp only [AttributeValue.typeName] <;> decide

theorem extractI32_toInt (v : Int32) : (PyAny.int (F := F) v.toInt).extractI32 = some v := by
  have hrange : -2 ^ 31 ≤ v.toInt ∧ v.toInt < 2 ^ 31 := ⟨v.le_toInt, v.toInt_lt⟩
  rw [PyAny.extractI32, if_pos hrange, Int32.ofInt_toInt]

theorem typed_toPy (h : ∀ x, F.narrow (F.widen x) = x) (v : AttributeValue F)
    : parseAttributeValueTyped py v.typeName (attributeValueToPy v) = .ok v := by
  rw [parseAttributeValueTyped, asciiLower_trim_typeName]
  cases v with
  | bool v => rfl
  | trigger v => rfl
  | int32 v => simp [AttributeValue.typeName, attributeValueToPy, extractI32_toInt, scalar]
  | float32 v =>
    simp [AttributeValue.typeName, attributeValueToPy, scalar, extractF32, PyAny.extractF64, h]
  | float64 v => rfl
  | vec2f v | vec3f v | vec4f v | quatf v =>
    simp only [AttributeValue.typeName, attributeValueToPy, extractVecF32_vector py h]
    rfl
  | mat4f v =>
    simp only [AttributeValue.typeName, attributeValueToPy, extractMat4f_matrix py h]
    rfl

def inferredBack : AttributeValue F → Except SpecError (AttributeValue F)
  | .trigger v => .ok (.bool v)
  | .float32 v => .ok (.float64 (F.widen v))
  | .quatf v => .ok (.vec4f v)
  | .mat4f _ => .error .inferType
  | v => .ok v

theorem inferred_list {items : List (PyAny F)} {vec : List F.f32}
    (h : (PyAny.list items).extractVec (extractF32 py) = some vec)
    : parseAttributeValueInferred py (.list items) = inferVector vec := by
  simp only [parseAttributeValueInferred, PyAny.extractBool, PyAny.extractI32, PyAny.extractF64, h]

theorem inferred_toPy (h : ∀ x, F.narrow (F.widen x) = x) (v : AttributeValue F)
    : parseAttributeValueInferred py (attributeValueToPy v) = inferredBack v := by
  cases v with
  | bool v => rfl
  | trigger v => rfl
  | float32 v => rfl
  | float64 v => rfl
  | int32 v =>
    have hint := extractI32_toInt (F := F) v
    simp only [parseAttributeValueInferred, attributeValueToPy, PyAny.extractBool, hint]
    rfl
  | vec2f v | vec3f v | vec4f v | quatf v =>
    refine (inferred_list py (extractVec_vector py h v)).trans ?_
    simp [inferVector, vectorOf_toList, inferredBack]
  | mat4f v =>
    have hrows : v.toList = v.toList.head (by simp) :: v.toList.tail := by simp
    simp only [attributeValueToPy]
    rw [hrows]
    rfl

theorem rows_read_back (h : ∀ x, F.narrow (F.widen x) = x) (s : RuntimeCore F)
    {row : ValueRow F} (hrow : row ∈ runtimeAttributeValues s)
    : ∃ sceneId scene object attr, s.activeScene = some sceneId ∧ s.scenes.get? sceneId = some scene
        ∧ object ∈ scene.objects.values ∧ attr ∈ object.attributes.values
        ∧ row = ⟨object.id.display, object.name, attr.name, attributeValueToPy attr.currentValue⟩
        ∧ parseAttributeValueTyped py attr.currentValue.typeName row.value = .ok attr.currentValue
        ∧ parseAttributeValueInferred py row.value = inferredBack attr.currentValue := by
  unfold runtimeAttributeValues at hrow
  split at hrow
  . cases hrow
  . next sceneId hactive =>
    split at hrow
    . cases hrow
    . next scene hscene =>
      obtain ⟨object, hobject, hrow⟩ := List.mem_flatMap.mp hrow
      obtain ⟨attr, hattr, rfl⟩ := List.mem_map.mp hrow
      exact ⟨sceneId, scene, object, attr, hactive, hscene, hobject, hattr, rfl, typed_toPy py h _,
        inferred_toPy py h _⟩

def turn : Vector Rat 4 := #v[0, 1, 0, 1 / 2]

def pose : Vector (Vector Rat 4) 4 :=
  #v[#v[1, 0, 0, 3], #v[0, 1, 0, 4], #v[0, 0, 1, 5], #v[0, 0, 0, 1]]

def rig : SceneObject Floats.rational :=
  ((SceneObject.new 2 "rig").withAttribute (.new "turn" (.quatf turn))).withAttribute
    (.new "pose" (.mat4f pose))

def rigState : RuntimeCore Floats.rational :=
  Run.run RuntimeCore.step (.new .default)
    [.loadScene ((Scene.new 1 "stage").withObject rig), .setActiveScene 1]

theorem attr_of_rig {sceneId : SceneId} {scene : Scene Floats.rational}
    {object : SceneObject Floats.rational} {attr : SceneAttribute Floats.rational}
    (hactive : rigState.activeScene = some sceneId)
    (hscene : rigState.scenes.get? sceneId = some scene) (hobject : object ∈ scene.objects.values)
    (hattr : attr ∈ object.attributes.values)
    : attr = .new "turn" (.quatf turn) ∨ attr = .new "pose" (.mat4f pose) := by
  cases hactive
  obtain rfl : (Scene.new 1 "stage").withObject rig = scene := Option.some.inj hscene
  obtain rfl : object = rig := List.mem_singleton.mp hobject
  have hattrs : attr ∈ [SceneAttribute.new "turn" (.quatf turn), .new "pose" (.mat4f pose)] := hattr
  simpa using hattrs

/--
The rotation reads back under its type and comes out as a vector without it. The matrix has no type
that is inferred.
-/
theorem rows_read_back_demo
    : ∃ turnRow poseRow, runtimeAttributeValues rigState = [turnRow, poseRow]
        ∧ parseAttributeValueTyped demoPy "quatf" turnRow.value = .ok (.quatf turn)
        ∧ parseAttributeValueInferred demoPy turnRow.value = .ok (.vec4f turn)
        ∧ parseAttributeValueTyped demoPy "mat4f" poseRow.value = .ok (.mat4f pose)
        ∧ parseAttributeValueInferred demoPy poseRow.value = .error .inferType := by
  refine ⟨⟨_, _, _, _⟩, ⟨_, _, _, _⟩, rfl, ?_⟩
  obtain ⟨_, _, _, attr, hactive, hscene, hobject, hattr, hrow, htyped, hinferred⟩ :=
    rows_read_back demoPy (fun _ => rfl) rigState (.head _)
  obtain ⟨_, _, _, attr', hactive', hscene', hobject', hattr', hrow', htyped', hinferred'⟩ :=
    rows_read_back demoPy (fun _ => rfl) rigState (.tail _ (.head _))
  rcases attr_of_rig hactive hscene hobject hattr with rfl | rfl
  . rcases attr_of_rig hactive' hscene' hobject' hattr' with rfl | rfl
    . have hname : "pose" = "turn" := congrArg ValueRow.attributeName hrow'
      exact absurd hname (by decide)
    . exact ⟨htyped, hinferred, htyped', hinferred'⟩
  . have hname : "turn" = "pose" := congrArg ValueRow.attributeName hrow
    exact absurd hname (by decide)

end Sdk

end MotionStage
