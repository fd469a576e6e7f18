import MotionStage.Core.Validity
import MotionStage.Sdk.EventPump
import MotionStage.Server.SessionStep

/-!
This module contains the scenes of the Python SDK: `upsert_scene` builds a scene from nested
dictionaries, and `runtime_attribute_values` turns attribute values into Python objects again.
-/

namespace MotionStage

/--
A Python object as far as the native module looks into it. Tuples count as lists.
-/
inductive PyAny (F : Floats) where
  | pyNone
  | bool (v : Bool)
  | int (v : Int)
  | float (v : F.f64)
  | str (v : String)
  | list (items : List (PyAny F))
  | dict (items : List (String × PyAny F))

abbrev PyDict (F : Floats) := List (String × PyAny F)

/--
What the native module uses of Python and of the `uuid` crate.
-/
structure Pyo3 (F : Floats) where
  /-- `Uuid::parse_str` -/
  parseStr : String → Option Uuid
  /-- `str` of an object -/
  str : PyAny F → Option String
  /-- `PyFloat_AsDouble` of an `int` -/
  intAsDouble : Int → Option F.f64

variable {F : Floats}

/--
The errors of the conversion. `python` and `uuid` stand for those of the libraries.
-/
inductive SpecError where
  | missingField (key : String)
  | objectSpec
  | attributeSpec
  | unsupportedType (other : String)
  | inferType
  | inferLength (len : Nat)
  | vectorLength (expected len : Nat)
  | rowCount (len : Nat)
  | columnCount (rowIdx len : Nat)
  | python
  | uuid
  deriving DecidableEq, Repr

namespace PyAny

variable (py : Pyo3 F)

def extractBool : PyAny F → Option Bool
  | .bool v => some v
  | _ => none

/--
A `bool` of Python is an `int`.
-/
def extractI32 : PyAny F → Option Int32
  | .int v => if -2 ^ 31 ≤ v ∧ v < 2 ^ 31 then some (Int32.ofInt v) else none
  | .bool v => some (if v then 1 else 0)
  | _ => none

def extractF64 : PyAny F → Option F.f64
  | .float v => some v
  | .int v => py.intAsDouble v
  | .bool v => py.intAsDouble (if v then 1 else 0)
  | _ => none

def extractF32 (value : PyAny F) : Option F.f32 := (value.extractF64 py).map F.narrow

def extractString : PyAny F → Option String
  | .str v => some v
  | _ => none

/--
A `str` is a sequence that PyO3 does not take for a vector.
-/
def extractVec {α : Type} (extract : PyAny F → Option α) : PyAny F → Option (List α)
  | .list items => items.mapM extract
  | _ => none

def iter : PyAny F → Option (List (PyAny F))
  | .list items => some items
  | .dict items => some (items.map fun e => .str e.1)
  | .str v => some (v.toList.map fun c => .str (String.singleton c))
  | _ => none

end PyAny

def vectorOf {α : Type} {n : Nat} (items : List α) (h : items.length = n) : Vector α n :=
  ⟨items.toArray, by rw [List.size_toArray, h]⟩

namespace Sdk

open PyAny (extractString extractF32 extractVec)

variable (py : Pyo3 F)

def getItem (spec : PyDict F) (key : String) : Option (PyAny F) := spec.lookup key

def parseUuidFromAny (value : PyAny F) : Except SpecError Uuid :=
  match value.extractString.or (py.str value) with
  | none => .error .python
  | some asText =>
    match py.parseStr (Text.trim asText) with
    | none => .error .uuid
    | some id => .ok id

def extractSpecString (spec : PyDict F) (key : String) : Except SpecError String :=
  match getItem spec key with
  | none => .error (.missingField key)
  | some raw =>
    match raw.extractString.or (py.str raw) with
    | none => .error .python
    | some value => .ok value

def extractVecF32 (n : Nat) (value : PyAny F) : Except SpecError (Vector F.f32 n) :=
  match value.extractVec (extractF32 py) with
  | none => .error .python
  | some vec =>
    if h : vec.length = n then .ok (vectorOf vec h) else .error (.vectorLength n vec.length)

def matRows : Nat → (rows : List (List F.f32))
    → Except SpecError { out : List (Vector F.f32 4) // out.length = rows.length }
  | _, [] => .ok ⟨[], rfl⟩
  | rowIdx, row :: rows =>
    if h : row.length = 4 then
      match matRows (rowIdx + 1) rows with
      | .error e => .error e
      | .ok out => .ok ⟨vectorOf row h :: out.1, by rw [List.length_cons, List.length_cons, out.2]⟩
    else
      .error (.columnCount rowIdx row.length)

def extractMat4f (value : PyAny F) : Except SpecError (Vector (Vector F.f32 4) 4) :=
  match value.extractVec (extractVec (extractF32 py)) with
  | none => .error .python
  | some rows =>
    if h : rows.length = 4 then
      match matRows 0 rows with
      | .error e => .error e
      | .ok out => .ok (vectorOf out.1 (out.2.trans h))
    else
      .error (.rowCount rows.length)

def scalar {α : Type} (extracted : Option α) (make : α → AttributeValue F)
    : Except SpecError (AttributeValue F) :=
  match extracted with
  | none => .error .python
  | some v => .ok (make v)

def parseAttributeValueTyped (typeName : String) (value : PyAny F)
    : Except SpecError (AttributeValue F) :=
  match asciiLower (Text.trim typeName) with
  | "bool" => scalar value.extractBool .bool
  | "trigger" => scalar value.extractBool .trigger
  | "int32" => scalar value.extractI32 .int32
  | "float32" => scalar (value.extractF32 py) .float32
  | "float64" => scalar (value.extractF64 py) .float64
  | "vec2f" => (extractVecF32 py 2 value).map .vec2f
  | "vec3f" => (extractVecF32 py 3 value).map .vec3f
  | "vec4f" => (extractVecF32 py 4 value).map .vec4f
  | "quatf" => (extractVecF32 py 4 value).map .quatf
  | "mat4f" => (extractMat4f py value).map .mat4f
  | other => .error (.unsupportedType other)

def inferVector (list : List F.f32) : Except SpecError (AttributeValue F) :=
  if h : list.length = 2 then .ok (.vec2f (vectorOf list h))
  else if h : list.length = 3 then .ok (.vec3f (vectorOf list h))
  else if h : list.length = 4 then .ok (.vec4f (vectorOf list h))
  else .error (.inferLength list.length)

def parseAttributeValueInferred (value : PyAny F) : Except SpecError (AttributeValue F) :=
  match value.extractBool with
  | some v => .ok (.bool v)
  | none =>
    match value.extractI32 with
    | some v => .ok (.int32 v)
    | none =>
      match value.extractF64 py with
      | some v => .ok (.float64 v)
      | none =>
        match value.extractVec (extractF32 py) with
        | none => .error .inferType
        | some list => inferVector list

def explicitType (spec : PyDict F) : Option String := (getItem spec "type").bind extractString

def parseAttributeValue (spec : PyDict F) (value : PyAny F)
    : Except SpecError (AttributeValue F) :=
  match explicitType spec with
  | some typeName => parseAttributeValueTyped py typeName value
  | none => parseAttributeValueInferred py value

def extractSpecAttributeValue (spec : PyDict F) (key : String)
    : Except SpecError (AttributeValue F) :=
  match getItem spec key with
  | none => .error (.missingField key)
  | some raw => parseAttributeValue py spec raw

/--
A flag of an attribute, with the value that `SceneAttribute::new` gives it.
-/
def specFlag (spec : PyDict F) (key : String) (initial : Bool) : Except SpecError Bool :=
  match getItem spec key with
  | none | some .pyNone => .ok initial
  | some raw =>
    match raw.extractBool with
    | some enabled => .ok enabled
    | none => .error .python

def parseSceneAttributeSpec (spec : PyDict F) : Except SpecError (SceneAttribute F) := do
  let name ← extractSpecString py spec "name"
  let defaultValue ← (extractSpecAttributeValue py spec "default_value").orElseLazy
    fun _ => extractSpecAttributeValue py spec "value"
  let currentValue := (extractSpecAttributeValue py spec "value").toOption.getD defaultValue
  let attr := SceneAttribute.new name defaultValue
  let liveEnabled ← specFlag spec "live_enabled" attr.liveEnabled
  let recordEnabled ← specFlag spec "record_enabled" attr.recordEnabled
  return { attr with
    currentValue := currentValue
    liveEnabled := liveEnabled
    recordEnabled := recordEnabled }

/--
The `id` of a spec, or the one that `Uuid::now_v7` has drawn.
-/
def specId (spec : PyDict F) (fresh : Uuid) : Except SpecError Uuid :=
  match getItem spec "id" with
  | none | some .pyNone => .ok fresh
  | some raw => parseUuidFromAny py raw

def addAttributes : List (PyAny F) → SceneObject F → Except SpecError (SceneObject F)
  | [], object => .ok object
  | .dict spec :: rest, object =>
    match parseSceneAttributeSpec py spec with
    | .error e => .error e
    | .ok attr => addAttributes rest (object.withAttribute attr)
  | _ :: _, _ => .error .attributeSpec

def specItems (spec : PyDict F) (key : String) : Except SpecError (List (PyAny F)) :=
  match getItem spec key with
  | none => .error (.missingField key)
  | some raw =>
    match raw.iter with
    | none => .error .python
    | some items => .ok items

def parseSceneObjectSpec (spec : PyDict F) (fresh : Uuid) : Except SpecError (SceneObject F) := do
  let name ← extractSpecString py spec "name"
  let id ← specId py spec fresh
  let attributes ← specItems spec "attributes"
  addAttributes py attributes (.new id name)

/--
Each object draws an identifier.
-/
def addObjects : List (PyAny F) → (Nat → Uuid) → Scene F → Except SpecError (Scene F)
  | [], _, scene => .ok scene
  | .dict spec :: rest, fresh, scene =>
    match parseSceneObjectSpec py spec (fresh 0) with
    | .error e => .error e
    | .ok object => addObjects rest (fun n => fresh (n + 1)) (scene.withObject object)
  | _ :: _, _, _ => .error .objectSpec

def parseSceneSpec (spec : PyDict F) (fresh : Nat → Uuid) : Except SpecError (Scene F) := do
  let name ← extractSpecString py spec "name"
  let id ← specId py spec (fresh 0)
  let objects ← specItems spec "objects"
  addObjects py objects (fun n => fresh (n + 1)) (.new id name)

def attributeValueToPy : AttributeValue F → PyAny F
  | .bool v | .trigger v => .bool v
  | .int32 v => .int v.toInt
  | .float32 v => .float (F.widen v)
  | .float64 v => .float v
  | .vec2f v => .list (v.toList.map fun x => .float (F.widen x))
  | .vec3f v => .list (v.toList.map fun x => .float (F.widen x))
  | .vec4f v | .quatf v => .list (v.toList.map fun x => .float (F.widen x))
  | .mat4f v => .list (v.toList.map fun row => .list (row.toList.map fun x => .float (F.widen x)))

structure ValueRow (F : Floats) where
  objectId : String
  objectName : String
  attributeName : String
  value : PyAny F

def runtimeAttributeValues (s : RuntimeCore F) : List (ValueRow F) :=
  match s.activeScene with
  | none => []
  | some activeSceneId =>
    match s.scenes.get? activeSceneId with
    | none => []
    | some scene =>
      scene.objects.values.flatMap fun object => object.attributes.values.map fun attr =>
        ⟨object.id.display, object.name, attr.name, attributeValueToPy attr.currentValue⟩

def demoPy : Pyo3 Floats.rational := ⟨fun _ => none, fun _ => none, fun n => some (n : Rat)⟩

end Sdk

end MotionStage
