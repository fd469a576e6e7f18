import MotionStage.Core.Float
import MotionStage.Data.IndexMap
import MotionStage.Data.Text

/-!
This module contains the data model of the core crate: attribute values, scenes, mappings and
leases. All times are in nanoseconds. The maps that the source keeps in a `BTreeMap` are
`IndexMap`s here as well, since no function of the runtime observes the order of their keys.
-/

namespace MotionStage

abbrev SceneId := Uuid
abbrev ObjectId := Uuid
abbrev MappingId := Uuid

inductive AttributeValue (F : Floats) where
  | bool (v : Bool)
  | int32 (v : Int32)
  | float32 (v : F.f32)
  | float64 (v : F.f64)
  | vec2f (v : Vector F.f32 2)
  | vec3f (v : Vector F.f32 3)
  | vec4f (v : Vector F.f32 4)
  | quatf (v : Vector F.f32 4)
  | mat4f (v : Vector (Vector F.f32 4) 4)
  | trigger (v : Bool)

variable {F : Floats}

namespace AttributeValue

def typeName : AttributeValue F → String
  | bool _ => "bool"
  | int32 _ => "int32"
  | float32 _ => "float32"
  | float64 _ => "float64"
  | vec2f _ => "vec2f"
  | vec3f _ => "vec3f"
  | vec4f _ => "vec4f"
  | quatf _ => "quatf"
  | mat4f _ => "mat4f"
  | trigger _ => "trigger"

/--
The derived `PartialEq`.
-/
def eq : AttributeValue F → AttributeValue F → Bool
  | bool v, bool w => v == w
  | int32 v, int32 w => v == w
  | float32 v, float32 w => F.f32.eq v w
  | float64 v, float64 w => F.f64.eq v w
  | vec2f v, vec2f w => F.f32.eqVector v w
  | vec3f v, vec3f w => F.f32.eqVector v w
  | vec4f v, vec4f w => F.f32.eqVector v w
  | quatf v, quatf w => F.f32.eqVector v w
  | mat4f v, mat4f w => (v.toList.zip w.toList).all fun p => F.f32.eqVector p.1 p.2
  | trigger v, trigger w => v == w
  | _, _ => false

end AttributeValue

inductive AttributeFilter (F : Floats) where
  | passthrough
  | ema (alpha : F.f32)
  | deadband (threshold : F.f32)
  | clamp (min max : F.f32)

structure SceneAttribute (F : Floats) where
  name : String
  defaultValue : AttributeValue F
  currentValue : AttributeValue F
  liveEnabled : Bool
  recordEnabled : Bool
  filterChain : List (AttributeFilter F)

def SceneAttribute.new (name : String) (defaultValue : AttributeValue F) : SceneAttribute F where
  name := name
  defaultValue := defaultValue
  currentValue := defaultValue
  liveEnabled := true
  recordEnabled := true
  filterChain := [.passthrough]

structure SceneObject (F : Floats) where
  id : ObjectId
  name : String
  attributes : IndexMap String (SceneAttribute F)

namespace SceneObject

/--
The identifier is the one that `Uuid::now_v7` returns.
-/
def new (id : ObjectId) (name : String) : SceneObject F := ⟨id, name, .empty⟩

def withAttribute (object : SceneObject F) (attr : SceneAttribute F) : SceneObject F :=
  { object with attributes := object.attributes.insert attr.name attr }

end SceneObject

structure Scene (F : Floats) where
  id : SceneId
  name : String
  objects : IndexMap ObjectId (SceneObject F)

namespace Scene

def new (id : SceneId) (name : String) : Scene F := ⟨id, name, .empty⟩

def withObject (scene : Scene F) (object : SceneObject F) : Scene F :=
  { scene with objects := scene.objects.insert object.id object }

end Scene

structure Target where
  scene : SceneId
  object : ObjectId
  attr : String
  deriving DecidableEq, Repr

inductive MappingState where
  | active
  | released
  deriving DecidableEq, Repr

structure Mapping where
  id : MappingId
  sourceDevice : Uuid
  sourceOutput : String
  targetScene : SceneId
  targetObject : ObjectId
  targetAttribute : String
  componentMask : Option (List Nat)
  lock : Bool
  state : MappingState
  lastHeartbeatNs : Nat
  disconnectedAtNs : Option Nat
  deriving DecidableEq, Repr

def Mapping.target (m : Mapping) : Target := ⟨m.targetScene, m.targetObject, m.targetAttribute⟩

structure MappingRequest where
  sourceDevice : Uuid
  sourceOutput : String
  targetScene : SceneId
  targetObject : ObjectId
  targetAttribute : String
  componentMask : Option (List Nat)
  deriving DecidableEq, Repr

def MappingRequest.target (req : MappingRequest) : Target :=
  ⟨req.targetScene, req.targetObject, req.targetAttribute⟩

structure AttributeUpdate (F : Floats) where
  outputAttribute : String
  value : AttributeValue F

structure LeaseConfig where
  heartbeatIntervalNs : Nat
  timeoutNs : Nat
  reclaimGraceNs : Nat
  deriving DecidableEq, Repr

def LeaseConfig.default : LeaseConfig where
  heartbeatIntervalNs := 500000000
  timeoutNs := 2000000000
  reclaimGraceNs := 5000000000

end MotionStage
