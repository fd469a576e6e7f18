import Mathlib.Data.Finset.Basic
import MotionStage.Core.Transform

/-!
This module contains the runtime: scenes, mode, mapping table, leases and connected devices, with
all operations of the source. An operation that can fail returns its result next to the state it
leaves behind, since some of them write before they fail. The identifiers that the source draws
with `Uuid::now_v7` are arguments.
-/

namespace MotionStage

/--
The mapping table. A mapping is always stored under its own identifier, so looking up the
identifier of a stored mapping cannot fail.
-/
structure MappingTable where
  map : IndexMap MappingId Mapping
  id_eq : ∀ {k m}, map.get? k = some m → m.id = k

namespace MappingTable

def empty : MappingTable where
  map := .empty
  id_eq := by simp

def get? (table : MappingTable) (id : MappingId) : Option Mapping := table.map.get? id

def values (table : MappingTable) : List Mapping := table.map.values

def find? (table : MappingTable) (p : Mapping → Bool)
    : Option { m : Mapping // table.get? m.id = some m } :=
  match h : table.map.findValue? p with
  | none => none
  | some m => some ⟨m, by
      obtain ⟨k, hk⟩ := (IndexMap.findValue?_eq_some h).1
      rw [get?, table.id_eq hk, hk]⟩

def insert (table : MappingTable) (m : Mapping) : MappingTable where
  map := table.map.insert m.id m
  id_eq := by
    intro k n h
    rw [IndexMap.get?_insert] at h
    split at h
    . next hk =>
      cases h
      exact hk.symm
    . exact table.id_eq h

def shiftRemove (table : MappingTable) (id : MappingId) : MappingTable where
  map := table.map.shiftRemove id
  id_eq := by
    intro k n h
    rw [IndexMap.get?_shiftRemove] at h
    split at h
    . cases h
    . exact table.id_eq h

def mapValues (table : MappingTable) (f : Mapping → Mapping) (hf : ∀ m, (f m).id = m.id)
    : MappingTable where
  map := table.map.mapValues f
  id_eq := by
    intro k n h
    rw [IndexMap.get?_mapValues, Option.map_eq_some_iff] at h
    obtain ⟨m, hm, rfl⟩ := h
    rw [hf, table.id_eq hm]

def modify (table : MappingTable) (id : MappingId) (f : Mapping → Mapping)
    (hf : ∀ m, (f m).id = m.id) : MappingTable where
  map := table.map.modify id f
  id_eq := by
    intro k n h
    rw [IndexMap.get?_modify] at h
    split at h
    . rw [Option.map_eq_some_iff] at h
      obtain ⟨m, hm, rfl⟩ := h
      rw [hf, table.id_eq hm]
    . exact table.id_eq h

end MappingTable

structure RuntimeCore (F : Floats) where
  /-- the only field of the `RuntimeStats` resource -/
  tickCount : Nat
  scenes : IndexMap SceneId (Scene F)
  activeScene : Option SceneId
  mode : Mode
  mappings : MappingTable
  lease : LeaseConfig
  connectedDevices : Finset Uuid

variable {F : Floats}

namespace Mapping

/--
The loop body of `register_device_disconnected`.
-/
def disconnect (deviceId : Uuid) (nowNs : Nat) (m : Mapping) : Mapping :=
  if m.sourceDevice = deviceId ∧ m.state = .active then
    { m with disconnectedAtNs := some nowNs }
  else
    m

/--
The loop body of `heartbeat`.
-/
def beat (deviceId : Uuid) (nowNs : Nat) (m : Mapping) : Mapping :=
  if m.sourceDevice = deviceId ∧ m.state = .active then
    { m with lastHeartbeatNs := nowNs, disconnectedAtNs := none }
  else
    m

/--
The loop body of `scheduler_tick`. The subtraction saturates, as the source's does.
-/
def expire (connected : Finset Uuid) (lease : LeaseConfig) (nowNs : Nat) (m : Mapping) : Mapping :=
  if m.state ≠ .active then
    m
  else if m.sourceDevice ∉ connected ∧ nowNs - m.lastHeartbeatNs ≥ lease.timeoutNs then
    { m with state := .released }
  else
    m

def retarget (req : MappingRequest) (nowNs : Nat) (m : Mapping) : Mapping :=
  { m with
    sourceDevice := req.sourceDevice
    sourceOutput := req.sourceOutput
    targetScene := req.targetScene
    targetObject := req.targetObject
    targetAttribute := req.targetAttribute
    componentMask := req.componentMask
    lastHeartbeatNs := nowNs
    disconnectedAtNs := none }

def setLock (lock : Bool) (m : Mapping) : Mapping := { m with lock := lock }

theorem retarget_id (req : MappingRequest) (nowNs : Nat) (m : Mapping)
    : (m.retarget req nowNs).id = m.id :=
  rfl

theorem setLock_id (lock : Bool) (m : Mapping) : (m.setLock lock).id = m.id := rfl

theorem disconnect_id (deviceId : Uuid) (nowNs : Nat) (m : Mapping)
    : (m.disconnect deviceId nowNs).id = m.id := by
  unfold disconnect
  split <;> rfl

theorem beat_id (deviceId : Uuid) (nowNs : Nat) (m : Mapping)
    : (m.beat deviceId nowNs).id = m.id := by
  unfold beat
  split <;> rfl

theorem expire_id (connected : Finset Uuid) (lease : LeaseConfig) (nowNs : Nat) (m : Mapping)
    : (m.expire connected lease nowNs).id = m.id := by
  unfold expire
  split
  . rfl
  . split <;> rfl

end Mapping

namespace RuntimeCore

def new (lease : LeaseConfig) : RuntimeCore F where
  tickCount := 0
  scenes := .empty
  activeScene := none
  mode := .idle
  mappings := .empty
  lease := lease
  connectedDevices := ∅

def loadScene (self : RuntimeCore F) (scene : Scene F) : SceneId × RuntimeCore F :=
  (scene.id,
    { self with
      scenes := self.scenes.insert scene.id scene
      activeScene := if self.activeScene.isNone then some scene.id else self.activeScene })

def setActiveScene (self : RuntimeCore F) (sceneId : SceneId)
    : Except CoreError Unit × RuntimeCore F :=
  if !self.scenes.contains sceneId then
    (.error (.sceneNotFound sceneId), self)
  else
    (.ok (), { self with activeScene := some sceneId })

def validModeTransition (fromMode toMode : Mode) : Bool :=
  match fromMode, toMode with
  | .idle, .live => true
  | .live, .idle => true
  | .live, .recording => true
  | .recording, .live => true
  | .recording, .idle => true
  | .idle, .idle => true
  | .live, .live => true
  | .recording, .recording => true
  | _, _ => false

def setMode (self : RuntimeCore F) (mode : Mode) : Except CoreError Unit × RuntimeCore F :=
  if !validModeTransition self.mode mode then
    (.error (.invalidModeTransition self.mode mode), self)
  else
    (.ok (), { self with mode := mode })

def registerDeviceConnected (self : RuntimeCore F) (deviceId : Uuid) : RuntimeCore F :=
  { self with connectedDevices := insert deviceId self.connectedDevices }

def registerDeviceDisconnected (self : RuntimeCore F) (deviceId : Uuid) (nowNs : Nat)
    : RuntimeCore F :=
  { self with
    connectedDevices := self.connectedDevices.erase deviceId
    mappings :=
      self.mappings.mapValues (Mapping.disconnect deviceId nowNs)
        (Mapping.disconnect_id deviceId nowNs) }

def heartbeat (self : RuntimeCore F) (deviceId : Uuid) (nowNs : Nat) : RuntimeCore F :=
  { self with
    mappings :=
      self.mappings.mapValues (Mapping.beat deviceId nowNs) (Mapping.beat_id deviceId nowNs) }

def attributeAt (self : RuntimeCore F) (t : Target) : Option (SceneAttribute F) :=
  (self.scenes.get? t.scene).bind fun scene =>
    (scene.objects.get? t.object).bind fun object => object.attributes.get? t.attr

def ensureTargetExists (self : RuntimeCore F) (t : Target) : Except CoreError Unit :=
  match self.scenes.get? t.scene with
  | none => .error (.sceneNotFound t.scene)
  | some scene =>
    match scene.objects.get? t.object with
    | none => .error (.objectNotFound t.object)
    | some object =>
      if !object.attributes.contains t.attr then
        .error (.attributeNotFound t.attr)
      else
        .ok ()

def targetAttributeValue (self : RuntimeCore F) (t : Target)
    : Except CoreError (AttributeValue F) :=
  match self.scenes.get? t.scene with
  | none => .error (.sceneNotFound t.scene)
  | some scene =>
    match scene.objects.get? t.object with
    | none => .error (.objectNotFound t.object)
    | some object =>
      match object.attributes.get? t.attr with
      | none => .error (.attributeNotFound t.attr)
      | some attr => .ok attr.currentValue

/--
The loop of `validate_component_mask` over the indices for a vector target.
-/
def checkMaskIndices (targetLen : Nat) (seen : Finset Nat) : List Nat → Except CoreError Unit
  | [] => .ok ()
  | index :: mask =>
    if index ≥ targetLen then
      .error (.invalidComponentMask
        s!"index {index} is out of bounds for target length {targetLen}")
    else if index ∈ seen then
      .error (.invalidComponentMask s!"index {index} appears multiple times")
    else
      checkMaskIndices targetLen (insert index seen) mask

def validateComponentMask (self : RuntimeCore F) (t : Target) (mask : Option (List Nat))
    : Except CoreError Unit :=
  match mask with
  | none => .ok ()
  | some mask =>
    if mask.isEmpty then
      .error (.invalidComponentMask "component_mask cannot be empty")
    else
      match self.targetAttributeValue t with
      | .error e => .error e
      | .ok (.mat4f _) =>
        .error (.invalidComponentMask "component_mask is unsupported for mat4f targets")
      | .ok target =>
        match vectorLen target with
        | some targetLen => checkMaskIndices targetLen ∅ mask
        | none =>
          if mask.length ≠ 1 then
            .error (.invalidComponentMask "scalar targets require exactly one source component")
          else
            .ok ()

/--
The test of `find_mapping_for_target`: an active mapping with this target.
-/
def ownsTarget (t : Target) (m : Mapping) : Bool :=
  m.state == .active && m.target == t

def findMappingForTarget (self : RuntimeCore F) (t : Target)
    : Option { m : Mapping // self.mappings.get? m.id = some m } :=
  self.mappings.find? (ownsTarget t)

def canReclaim (self : RuntimeCore F) (mapping : Mapping) (nowNs : Nat) : Bool :=
  let timedOut := decide (nowNs - mapping.lastHeartbeatNs ≥ self.lease.timeoutNs)
  if mapping.sourceDevice ∉ self.connectedDevices then
    match mapping.disconnectedAtNs with
    | some disconnectedAt => decide (nowNs - disconnectedAt ≥ self.lease.reclaimGraceNs)
    | none => timedOut
  else
    timedOut

def newMapping (req : MappingRequest) (nowNs : Nat) (id : MappingId) : Mapping where
  id := id
  sourceDevice := req.sourceDevice
  sourceOutput := req.sourceOutput
  targetScene := req.targetScene
  targetObject := req.targetObject
  targetAttribute := req.targetAttribute
  componentMask := req.componentMask
  lock := false
  state := .active
  lastHeartbeatNs := nowNs
  disconnectedAtNs := none

def createMapping (self : RuntimeCore F) (req : MappingRequest) (nowNs : Nat) (id : MappingId)
    : Except CoreError MappingId × RuntimeCore F :=
  if self.mode = .recording then
    (.error .mappingBlockedInRecording, self)
  else
    match self.ensureTargetExists req.target with
    | .error e => (.error e, self)
    | .ok () =>
      match self.validateComponentMask req.target req.componentMask with
      | .error e => (.error e, self)
      | .ok () =>
        match self.findMappingForTarget req.target with
        | none =>
          (.ok id, { self with mappings := self.mappings.insert (newMapping req nowNs id) })
        | some existing =>
          if existing.val.lock then
            (.error (.mappingDenied "mapping is locked"), self)
          else if !self.canReclaim existing.val nowNs then
            (.error (.mappingDenied "target attribute already owned by active mapping"), self)
          else
            (.ok id,
              { self with
                mappings :=
                  (self.mappings.shiftRemove existing.val.id).insert (newMapping req nowNs id) })

def setMappingLock (self : RuntimeCore F) (mappingId : MappingId) (lock : Bool)
    : Except CoreError Unit × RuntimeCore F :=
  if self.mode = .recording then
    (.error .mappingBlockedInRecording, self)
  else if (self.mappings.get? mappingId).isNone then
    (.error (.mappingDenied "mapping not found"), self)
  else
    (.ok (),
      { self with
        mappings := self.mappings.modify mappingId (Mapping.setLock lock)
          (Mapping.setLock_id lock) })

def removeMapping (self : RuntimeCore F) (mappingId : MappingId)
    : Except CoreError Unit × RuntimeCore F :=
  if self.mode = .recording then
    (.error .mappingBlockedInRecording, self)
  else if (self.mappings.get? mappingId).isNone then
    (.error (.mappingDenied "mapping not found"), self)
  else
    (.ok (), { self with mappings := self.mappings.shiftRemove mappingId })

def updateMapping (self : RuntimeCore F) (mappingId : MappingId) (req : MappingRequest)
    (nowNs : Nat) : Except CoreError Unit × RuntimeCore F :=
  if self.mode = .recording then
    (.error .mappingBlockedInRecording, self)
  else
    match self.ensureTargetExists req.target with
    | .error e => (.error e, self)
    | .ok () =>
      match self.validateComponentMask req.target req.componentMask with
      | .error e => (.error e, self)
      | .ok () =>
        match self.mappings.get? mappingId with
        | none => (.error (.mappingDenied "mapping not found"), self)
        | some mapping =>
          if mapping.lock then
            (.error (.mappingDenied "mapping is locked"), self)
          else
            (.ok (),
              { self with
                mappings := self.mappings.modify mappingId (Mapping.retarget req nowNs)
                  (Mapping.retarget_id req nowNs) })

def schedulerTick (self : RuntimeCore F) (nowNs : Nat) : RuntimeCore F :=
  { self with
    mappings :=
      self.mappings.mapValues (Mapping.expire self.connectedDevices self.lease nowNs)
        (Mapping.expire_id self.connectedDevices self.lease nowNs) }

def writeCurrent (self : RuntimeCore F) (t : Target) (value : AttributeValue F) : RuntimeCore F :=
  { self with
    scenes := self.scenes.modify t.scene fun scene =>
      { scene with
        objects := scene.objects.modify t.object fun object =>
          { object with
            attributes := object.attributes.modify t.attr fun attr =>
              { attr with currentValue := value } } } }

/--
The mapping that routes an output of a device while `activeScene` is active.
-/
def route (self : RuntimeCore F) (deviceId : Uuid) (activeScene : SceneId) (output : String)
    : Option Mapping :=
  (self.mappings.find? fun m =>
    m.state == .active && m.sourceDevice == deviceId
      && sourceOutputMatches m.sourceOutput deviceId output
      && m.targetScene == activeScene).map Subtype.val

def nextValue (attr : SceneAttribute F) (value : AttributeValue F) (mask : Option (List Nat))
    : Except CoreError (AttributeValue F) :=
  let transformed :=
    if supportsRelativeComposition attr.defaultValue then
      match applyMappingDeltaTransform attr.defaultValue value mask with
      | .error e => .error e
      | .ok delta => composeRelativeValue attr.defaultValue delta
    else
      applyMappingTransform attr.currentValue value mask
  match transformed with
  | .error e => .error e
  | .ok transformed => .ok (applyFilters attr.currentValue transformed attr.filterChain)

/--
What `apply_updates` returns on success: the written values by `object.attribute`.
-/
abbrev Applied (F : Floats) := IndexMap String (AttributeValue F)

/--
The loop body of `apply_updates`. It fails before it writes.
-/
def applyUpdate (deviceId : Uuid) (activeScene : SceneId) (self : RuntimeCore F)
    (update : AttributeUpdate F) (applied : Applied F)
    : Except CoreError (Applied F × RuntimeCore F) :=
  match self.route deviceId activeScene update.outputAttribute with
  | none =>
    .error (.mappingDenied s!"no active mapping for output '{update.outputAttribute}'")
  | some mapping =>
    match self.scenes.get? mapping.targetScene with
    | none => .error (.sceneNotFound mapping.targetScene)
    | some scene =>
      match scene.objects.get? mapping.targetObject with
      | none => .error (.objectNotFound mapping.targetObject)
      | some object =>
        match object.attributes.get? mapping.targetAttribute with
        | none => .error (.attributeNotFound mapping.targetAttribute)
        | some attr =>
          if !attr.liveEnabled then
            .ok (applied, self)
          else
            match nextValue attr update.value mapping.componentMask with
            | .error e => .error e
            | .ok value =>
              .ok (applied.insert s!"{object.name}.{attr.name}" value,
                self.writeCurrent mapping.target value)

/--
The loop of `apply_updates`. The updates before a failing one stay applied.
-/
def applyUpdatesLoop (deviceId : Uuid) (activeScene : SceneId)
    : RuntimeCore F → List (AttributeUpdate F) → Applied F → Except CoreError (Applied F) × RuntimeCore F
  | self, [], applied => (.ok applied, { self with tickCount := self.tickCount + 1 })
  | self, update :: updates, applied =>
    match applyUpdate deviceId activeScene self update applied with
    | .error e => (.error e, self)
    | .ok (applied, self) => applyUpdatesLoop deviceId activeScene self updates applied

def applyUpdates (self : RuntimeCore F) (deviceId : Uuid) (updates : List (AttributeUpdate F))
    (nowNs : Nat) : Except CoreError (Applied F) × RuntimeCore F :=
  let self := self.heartbeat deviceId nowNs
  if self.mode = .idle then
    (.ok .empty, self)
  else
    match self.activeScene with
    | none => (.error (.mappingDenied "no active scene"), self)
    | some activeScene => applyUpdatesLoop deviceId activeScene self updates .empty

/--
One of the two baseline assignments, with the comparison that the source makes before it.
-/
structure BaselineSync (F : Floats) where
  differs : SceneAttribute F → Bool
  assign : SceneAttribute F → SceneAttribute F

def BaselineSync.reset : BaselineSync F where
  differs attr := !attr.currentValue.eq attr.defaultValue
  assign attr := { attr with currentValue := attr.defaultValue }

def BaselineSync.commit : BaselineSync F where
  differs attr := !attr.defaultValue.eq attr.currentValue
  assign attr := { attr with defaultValue := attr.currentValue }

def BaselineSync.run (sync : BaselineSync F) (object : SceneObject F) : Nat × SceneObject F :=
  (object.attributes.values.countP sync.differs,
    { object with
      attributes := object.attributes.mapValues fun attr =>
        if sync.differs attr then sync.assign attr else attr })

def syncScene (self : RuntimeCore F) (sync : BaselineSync F) (sceneId : SceneId)
    : Except CoreError Nat × RuntimeCore F :=
  match self.scenes.get? sceneId with
  | none => (.error (.sceneNotFound sceneId), self)
  | some scene =>
    (.ok (scene.objects.values.map fun object => (sync.run object).1).sum,
      { self with
        scenes := self.scenes.modify sceneId fun scene =>
          { scene with objects := scene.objects.mapValues fun object => (sync.run object).2 } })

def resetSceneToBaseline (self : RuntimeCore F) (sceneId : SceneId)
    : Except CoreError Nat × RuntimeCore F :=
  self.syncScene .reset sceneId

def commitSceneBaseline (self : RuntimeCore F) (sceneId : SceneId)
    : Except CoreError Nat × RuntimeCore F :=
  self.syncScene .commit sceneId

def commitObjectBaseline (self : RuntimeCore F) (sceneId : SceneId) (objectId : ObjectId)
    : Except CoreError Nat × RuntimeCore F :=
  match self.scenes.get? sceneId with
  | none => (.error (.sceneNotFound sceneId), self)
  | some scene =>
    match scene.objects.get? objectId with
    | none => (.error (.objectNotFound objectId), self)
    | some object =>
      (.ok (BaselineSync.commit.run object).1,
        { self with
          scenes := self.scenes.modify sceneId fun scene =>
            { scene with
              objects := scene.objects.modify objectId fun object =>
                (BaselineSync.commit.run object).2 } })

end RuntimeCore

end MotionStage
