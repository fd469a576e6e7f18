import MotionStage.Core.Model
import MotionStage.Protocol.Basic

/-!
This module contains the transform and filter pipeline that turns an incoming value into the next
value of an attribute.
-/

namespace MotionStage

inductive CoreError where
  | sceneNotFound (id : SceneId)
  | objectNotFound (id : ObjectId)
  | attributeNotFound (name : String)
  | mappingDenied (reason : String)
  | mappingBlockedInRecording
  | invalidModeTransition (fromMode toMode : Mode)
  | typeMismatch (expected got : String)
  | invalidComponentMask (reason : String)
  | unsupportedTransform (reason : String)
  deriving DecidableEq, Repr

variable {F : Floats}

def vectorLen : AttributeValue F → Option Nat
  | .vec2f _ => some 2
  | .vec3f _ => some 3
  | .vec4f _ | .quatf _ => some 4
  | _ => none

def scalarAsF32 : AttributeValue F → Option F.f32
  | .float32 v => some v
  | .float64 v => some (F.narrow v)
  | .int32 v => some (F.ofInt32 v)
  | _ => none

def vectorComponent (value : AttributeValue F) (index : Nat) : Option F.f32 :=
  match value with
  | .vec2f v => v[index]?
  | .vec3f v => v[index]?
  | .vec4f v => v[index]?
  | .quatf v => v[index]?
  | _ => none

def setVectorComponent (target : AttributeValue F) (index : Nat) (value : F.f32)
    : Except CoreError (AttributeValue F) :=
  match target with
  | .vec2f v => set v .vec2f "vec2f"
  | .vec3f v => set v .vec3f "vec3f"
  | .vec4f v => set v .vec4f "vec4f"
  | .quatf v => set v .quatf "quatf"
  | _ => .error (.unsupportedTransform s!"target '{target.typeName}' is not vector typed")
where
  set {n : Nat} (v : Vector F.f32 n) (wrap : Vector F.f32 n → AttributeValue F) (name : String)
      : Except CoreError (AttributeValue F) :=
    if h : index < n then
      .ok (wrap (v.set index value h))
    else
      .error (.invalidComponentMask s!"index {index} out of bounds for {name}")

def setScalarValue (target : AttributeValue F) (sourceComponent : F.f32)
    : Except CoreError (AttributeValue F) :=
  match target with
  | .float32 _ => .ok (.float32 sourceComponent)
  | .float64 _ => .ok (.float64 (F.widen sourceComponent))
  | .int32 _ => .ok (.int32 (F.roundInt32 sourceComponent))
  | _ => .error (.unsupportedTransform s!"target '{target.typeName}' is not scalar typed")

/--
The loop that copies one scalar into every masked component.
-/
def setMaskedScalar (value : F.f32) (mask : List Nat) (transformed : AttributeValue F)
    : Except CoreError (AttributeValue F) :=
  mask.foldlM (fun transformed index => setVectorComponent transformed index value) transformed

/--
The loop that copies the masked components of a vector value.
-/
def setMaskedVector (source : AttributeValue F) (mask : List Nat) (transformed : AttributeValue F)
    : Except CoreError (AttributeValue F) :=
  mask.foldlM (fun transformed index =>
    match vectorComponent source index with
    | none =>
      .error (.unsupportedTransform
        s!"source component {index} is unavailable on '{source.typeName}'")
    | some component => setVectorComponent transformed index component) transformed

def applyMappingTransform (currentTarget incomingSource : AttributeValue F)
    (componentMask : Option (List Nat)) : Except CoreError (AttributeValue F) :=
  match componentMask with
  | none =>
    if currentTarget.typeName ≠ incomingSource.typeName then
      .error (.typeMismatch currentTarget.typeName incomingSource.typeName)
    else
      .ok incomingSource
  | some mask =>
    if mask.isEmpty then
      .error (.invalidComponentMask "component_mask cannot be empty")
    else if (vectorLen currentTarget).isSome then
      match scalarAsF32 incomingSource with
      | some value => setMaskedScalar value mask currentTarget
      | none =>
        if (vectorLen incomingSource).isSome then
          setMaskedVector incomingSource mask currentTarget
        else
          .error (.unsupportedTransform
            s!"cannot apply source '{incomingSource.typeName}' to vector target '{currentTarget.typeName}'")
    else
      match mask with
      | [componentIndex] =>
        match vectorComponent incomingSource componentIndex with
        | none =>
          .error (.unsupportedTransform
            s!"source '{incomingSource.typeName}' does not have component {componentIndex}")
        | some component => setScalarValue currentTarget component
      | _ => .error (.invalidComponentMask "scalar targets require exactly one component")

/--
The neutral delta of a vector target. The identity quaternion keeps unmasked components stable as
a neutral relative rotation.
-/
def defaultDeltaForTarget (target : AttributeValue F) : Except CoreError (AttributeValue F) :=
  let zero := F.f32.ofNat 0
  match target with
  | .vec2f _ => .ok (.vec2f #v[zero, zero])
  | .vec3f _ => .ok (.vec3f #v[zero, zero, zero])
  | .vec4f _ => .ok (.vec4f #v[zero, zero, zero, zero])
  | .quatf _ => .ok (.quatf #v[zero, zero, zero, F.f32.ofNat 1])
  | _ => .error (.unsupportedTransform s!"cannot synthesize delta for target '{target.typeName}'")

def isScalarTarget : AttributeValue F → Bool
  | .int32 _ | .float32 _ | .float64 _ => true
  | _ => false

def applyMappingDeltaTransform (baselineTarget incomingSource : AttributeValue F)
    (componentMask : Option (List Nat)) : Except CoreError (AttributeValue F) :=
  match componentMask with
  | none =>
    if baselineTarget.typeName ≠ incomingSource.typeName then
      .error (.typeMismatch baselineTarget.typeName incomingSource.typeName)
    else
      .ok incomingSource
  | some mask =>
    if mask.isEmpty then
      .error (.invalidComponentMask "component_mask cannot be empty")
    else if (vectorLen baselineTarget).isSome then
      match defaultDeltaForTarget baselineTarget with
      | .error e => .error e
      | .ok transformed =>
        match scalarAsF32 incomingSource with
        | some value => setMaskedScalar value mask transformed
        | none =>
          if (vectorLen incomingSource).isSome then
            setMaskedVector incomingSource mask transformed
          else
            .error (.unsupportedTransform
              s!"cannot apply source '{incomingSource.typeName}' to vector target '{baselineTarget.typeName}'")
    else if isScalarTarget baselineTarget then
      match mask with
      | [componentIndex] =>
        match vectorComponent incomingSource componentIndex with
        | none =>
          .error (.unsupportedTransform
            s!"source '{incomingSource.typeName}' does not have component {componentIndex}")
        | some component => setScalarValue baselineTarget component
      | _ => .error (.invalidComponentMask "scalar targets require exactly one component")
    else
      .error (.unsupportedTransform
        s!"component_mask is unsupported for '{baselineTarget.typeName}' targets")

def supportsRelativeComposition : AttributeValue F → Bool
  | .int32 _ | .float32 _ | .float64 _ | .vec2f _ | .vec3f _ | .vec4f _ | .quatf _ | .mat4f _ => true
  | .bool _ | .trigger _ => false

def saturatingAdd (a b : Int32) : Int32 :=
  Int32.ofInt (min (max (a.toInt + b.toInt) (-2 ^ 31)) (2 ^ 31 - 1))

def quatMultiplyNormalized (base delta : Vector F.f32 4) : Vector F.f32 4 :=
  let R := F.f32
  let x1 := base[0]
  let y1 := base[1]
  let z1 := base[2]
  let w1 := base[3]
  let x2 := delta[0]
  let y2 := delta[1]
  let z2 := delta[2]
  let w2 := delta[3]
  let result : Vector F.f32 4 := #v[
    R.sub (R.add (R.add (R.mul w1 x2) (R.mul x1 w2)) (R.mul y1 z2)) (R.mul z1 y2),
    R.add (R.add (R.sub (R.mul w1 y2) (R.mul x1 z2)) (R.mul y1 w2)) (R.mul z1 x2),
    R.add (R.sub (R.add (R.mul w1 z2) (R.mul x1 y2)) (R.mul y1 x2)) (R.mul z1 w2),
    R.sub (R.sub (R.sub (R.mul w1 w2) (R.mul x1 x2)) (R.mul y1 y2)) (R.mul z1 z2)]
  let norm := R.sqrt (R.sum (result.toList.map fun v => R.mul v v))
  if R.le norm F.epsilon then
    base
  else
    result.map fun v => R.div v norm

def mat4Multiply (base delta : Vector (Vector F.f32 4) 4) : Vector (Vector F.f32 4) 4 :=
  Vector.ofFn fun row : Fin 4 => Vector.ofFn fun col : Fin 4 =>
    F.f32.sum ((List.finRange 4).map fun k => F.f32.mul base[row][k] delta[k][col])

def composeRelativeValue (baseline delta : AttributeValue F) : Except CoreError (AttributeValue F) :=
  match baseline, delta with
  | .int32 base, .int32 d => .ok (.int32 (saturatingAdd base d))
  | .float32 base, .float32 d => .ok (.float32 (F.f32.add base d))
  | .float64 base, .float64 d => .ok (.float64 (F.f64.add base d))
  | .vec2f base, .vec2f d => .ok (.vec2f (Vector.zipWith F.f32.add base d))
  | .vec3f base, .vec3f d => .ok (.vec3f (Vector.zipWith F.f32.add base d))
  | .vec4f base, .vec4f d => .ok (.vec4f (Vector.zipWith F.f32.add base d))
  | .quatf base, .quatf d => .ok (.quatf (quatMultiplyNormalized base d))
  | .mat4f base, .mat4f d => .ok (.mat4f (mat4Multiply base d))
  | _, _ => .error (.typeMismatch baseline.typeName delta.typeName)

/--
Whether a mapped output name and the name in an update mean the same output of the device. Either
side may carry the device identifier in front.
-/
def sourceOutputMatches (mappingOutput : String) (deviceId : Uuid) (updateOutput : String) : Bool :=
  let start := deviceId.display ++ "."
  mappingOutput == updateOutput
    || Text.stripPrefix? mappingOutput start == some updateOutput
    || Text.stripPrefix? updateOutput start == some mappingOutput

def applyEma (previous current : AttributeValue F) (alpha : F.f32) : AttributeValue F :=
  let alpha := F.f32.clamp alpha (F.f32.ofNat 0) (F.f32.ofNat 1)
  let mix (R : FloatFormat) (alpha curr prev : R) : R :=
    R.add (R.mul alpha curr) (R.mul (R.sub (R.ofNat 1) alpha) prev)
  match previous, current with
  | .float32 prev, .float32 curr => .float32 (mix F.f32 alpha curr prev)
  | .float64 prev, .float64 curr => .float64 (mix F.f64 (F.widen alpha) curr prev)
  | .vec3f prev, .vec3f curr => .vec3f (Vector.zipWith (mix F.f32 alpha) curr prev)
  | _, _ => current

def applyDeadband (previous current : AttributeValue F) (threshold : F.f32) : AttributeValue F :=
  let threshold := F.f32.max threshold (F.f32.ofNat 0)
  match previous, current with
  | .float32 prev, .float32 curr =>
    if F.f32.lt (F.f32.abs (F.f32.sub curr prev)) threshold then .float32 prev else current
  | .float64 prev, .float64 curr =>
    if F.f64.lt (F.f64.abs (F.f64.sub curr prev)) (F.widen threshold) then
      .float64 prev
    else
      current
  | .vec3f prev, .vec3f curr =>
    let R := F.f32
    let diff := R.div
      (R.add (R.add (R.abs (R.sub curr[0] prev[0])) (R.abs (R.sub curr[1] prev[1])))
        (R.abs (R.sub curr[2] prev[2])))
      (R.ofNat 3)
    if R.lt diff threshold then .vec3f prev else current
  | _, _ => current

def applyClamp (current : AttributeValue F) (min max : F.f32) : AttributeValue F :=
  let (lo, hi) := if F.f32.le min max then (min, max) else (max, min)
  match current with
  | .float32 v => .float32 (F.f32.clamp v lo hi)
  | .float64 v => .float64 (F.f64.clamp v (F.widen lo) (F.widen hi))
  | .vec3f v => .vec3f (v.map fun c => F.f32.clamp c lo hi)
  | _ => current

def applyFilter (previous current : AttributeValue F) (filter : AttributeFilter F)
    : AttributeValue F :=
  match filter with
  | .passthrough => current
  | .ema alpha => applyEma previous current alpha
  | .deadband threshold => applyDeadband previous current threshold
  | .clamp min max => applyClamp current min max

def applyFilters (previous incoming : AttributeValue F) (filters : List (AttributeFilter F))
    : AttributeValue F :=
  filters.foldl (fun value filter => applyFilter previous value filter) incoming

end MotionStage
