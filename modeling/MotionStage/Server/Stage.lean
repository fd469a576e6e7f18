import MotionStage.Server.Session

/-!
This module contains the server calls that act on the stage: scenes, mode, baselines, mappings,
motion and recordings. The values that the source takes from `now_ns` and `Uuid::now_v7` are
arguments.
-/

namespace MotionStage

variable {F : Floats}

/--
The result of a runtime operation with its error wrapped, next to the server around the new runtime.
-/
def ServerState.withRuntime {α : Type} (self : ServerState F)
    (r : Except CoreError α × RuntimeCore F) : Except ServerError α × ServerState F :=
  (r.1.mapError .core, { self with runtime := r.2 })

namespace ServerState

def loadScene (self : ServerState F) (scene : Scene F) : SceneId × ServerState F :=
  let (id, runtime) := self.runtime.loadScene scene
  (id, { self with runtime := runtime })

def setActiveScene (self : ServerState F) (sceneId : SceneId)
    : Except ServerError Unit × ServerState F :=
  self.withRuntime (self.runtime.setActiveScene sceneId)

def pushMarker (self : ServerState F) (marker : RecordingMarker) : ServerState F :=
  { self with
    activeRecording := self.activeRecording.map fun recording =>
      { recording with writer := recording.writer.pushMarker marker } }

def setMode (self : ServerState F) (mode : Mode) (nowNs : Nat)
    : Except ServerError Unit × ServerState F :=
  let fromMode := self.runtime.mode
  match self.withRuntime (self.runtime.setMode mode) with
  | (.error e, self) => (.error e, self)
  | (.ok (), self) => (.ok (), self.pushMarker (.modeTransition nowNs fromMode mode))

def resolveSceneForBaseline (self : ServerState F) (requestedScene : Option SceneId)
    : Except ServerError SceneId :=
  match requestedScene with
  | some sceneId => .ok sceneId
  | none =>
    match self.runtime.activeScene with
    | some sceneId => .ok sceneId
    | none => .error (.core (.mappingDenied "no active scene"))

def baselineCall (self : ServerState F) (sceneId : Option SceneId)
    (action : SceneId → Except CoreError Nat × RuntimeCore F)
    : Except ServerError Nat × ServerState F :=
  match self.resolveSceneForBaseline sceneId with
  | .error e => (.error e, self)
  | .ok resolved => self.withRuntime (action resolved)

def resetSceneToBaseline (self : ServerState F) (sceneId : Option SceneId)
    : Except ServerError Nat × ServerState F :=
  self.baselineCall sceneId self.runtime.resetSceneToBaseline

def commitSceneBaseline (self : ServerState F) (sceneId : Option SceneId)
    : Except ServerError Nat × ServerState F :=
  self.baselineCall sceneId self.runtime.commitSceneBaseline

def commitObjectBaseline (self : ServerState F) (sceneId : Option SceneId) (objectId : ObjectId)
    : Except ServerError Nat × ServerState F :=
  self.baselineCall sceneId fun sceneId => self.runtime.commitObjectBaseline sceneId objectId

def createMapping (self : ServerState F) (req : MappingRequest) (nowNs : Nat) (id : MappingId)
    : Except ServerError MappingId × ServerState F :=
  match self.withRuntime (self.runtime.createMapping req nowNs id) with
  | (.error e, self) => (.error e, self)
  | (.ok mappingId, self) =>
    match self.runtime.mappings.get? mappingId with
    | none => (.ok mappingId, self)
    | some mapping =>
      (.ok mappingId,
        self.pushMarker (.mappingCreated nowNs mappingId mapping.sourceDevice mapping.sourceOutput
          mapping.targetScene mapping.targetObject mapping.targetAttribute mapping.componentMask))

def updateMapping (self : ServerState F) (mappingId : MappingId) (req : MappingRequest)
    (nowNs : Nat) : Except ServerError Unit × ServerState F :=
  match self.withRuntime (self.runtime.updateMapping mappingId req nowNs) with
  | (.error e, self) => (.error e, self)
  | (.ok (), self) =>
    match self.runtime.mappings.get? mappingId with
    | none => (.ok (), self)
    | some mapping =>
      (.ok (),
        self.pushMarker (.mappingUpdated nowNs mappingId mapping.sourceDevice mapping.sourceOutput
          mapping.targetScene mapping.targetObject mapping.targetAttribute mapping.componentMask))

def removeMapping (self : ServerState F) (mappingId : MappingId) (nowNs : Nat)
    : Except ServerError Unit × ServerState F :=
  match self.withRuntime (self.runtime.removeMapping mappingId) with
  | (.error e, self) => (.error e, self)
  | (.ok (), self) => (.ok (), self.pushMarker (.mappingRemoved nowNs mappingId))

def setMappingLock (self : ServerState F) (mappingId : MappingId) (lock : Bool) (nowNs : Nat)
    : Except ServerError Unit × ServerState F :=
  match self.withRuntime (self.runtime.setMappingLock mappingId lock) with
  | (.error e, self) => (.error e, self)
  | (.ok (), self) => (.ok (), self.pushMarker (.mappingLockSet nowNs mappingId lock))

/--
The server's own copy of the output name test.
-/
def sourceOutputMatches (mappingOutput : String) (deviceId : Uuid) (updateOutput : String) : Bool :=
  let start := deviceId.display ++ "."
  mappingOutput == updateOutput
    || Text.stripPrefix? mappingOutput start == some updateOutput
    || Text.stripPrefix? updateOutput start == some mappingOutput

/--
The loop body that builds the frame: look the mapping of an update up again and read its target.
-/
def recordedAttribute (runtime : RuntimeCore F) (deviceId : Uuid) (activeScene : SceneId)
    (update : AttributeUpdate F) : Except ServerError (RecordedAttribute F) :=
  match runtime.mappings.find? fun m =>
      m.sourceDevice == deviceId
        && sourceOutputMatches m.sourceOutput deviceId update.outputAttribute
        && m.state == .active && m.targetScene == activeScene with
  | none =>
    .error (.core (.mappingDenied s!"no active mapping for output '{update.outputAttribute}'"))
  | some mapping =>
    match runtime.attributeAt mapping.val.target with
    | none => .error (.core (.attributeNotFound mapping.val.targetAttribute))
    | some attr =>
      .ok ⟨mapping.val.targetObject, mapping.val.targetAttribute, attr.currentValue⟩

def recordedFrame (runtime : RuntimeCore F) (deviceId : Uuid) (updates : List (AttributeUpdate F))
    (timestampNs : Nat) : Except ServerError (RecordedFrame F) :=
  match runtime.activeScene with
  | none => .error (.core (.mappingDenied "no active scene"))
  | some activeScene =>
    match updates.mapM (recordedAttribute runtime deviceId activeScene) with
    | .error e => .error e
    | .ok attrs => .ok ⟨timestampNs, runtime.mode, attrs⟩

def pushFrame (self : ServerState F) (frame : RecordedFrame F) : ServerState F :=
  { self with
    activeRecording := self.activeRecording.map fun recording =>
      { recording with writer := recording.writer.pushFrame frame } }

def maybeRecordedFrame (self : ServerState F) (deviceId : Uuid)
    (updates : List (AttributeUpdate F)) (timestampNs : Nat)
    : Except ServerError (Option (RecordedFrame F)) :=
  if self.activeRecording.isSome then
    (recordedFrame self.runtime deviceId updates timestampNs).map some
  else
    .ok none

/--
The first half of `ingest_motion_samples`: count the updates and apply them.
-/
def applyMotion (self : ServerState F) (deviceId : Uuid) (updates : List (AttributeUpdate F))
    (timestampNs : Nat) : Except ServerError (RuntimeCore.Applied F) × ServerState F :=
  let self :=
    { self with
      metrics := { self.metrics with motionUpdates := self.metrics.motionUpdates + updates.length } }
  self.withRuntime (self.runtime.applyUpdates deviceId updates timestampNs)

def ingestMotionSamples (self : ServerState F) (deviceId : Uuid)
    (updates : List (AttributeUpdate F)) (timestampNs : Nat)
    : Except ServerError Unit × ServerState F :=
  match self.applyMotion deviceId updates timestampNs with
  | (.error e, self) => (.error e, self)
  | (.ok _, self) =>
    match self.maybeRecordedFrame deviceId updates timestampNs with
    | .error e => (.error e, self)
    | .ok none => (.ok (), self)
    | .ok (some frame) => (.ok (), self.pushFrame frame)

/--
A motion datagram. The values of its updates are converted one to one, so the converted ones stand
here.
-/
structure MotionDatagram (F : Floats) where
  deviceId : Uuid
  timestampNs : Nat
  updates : List (AttributeUpdate F)

def ingestMotionDatagram (self : ServerState F) (datagram : MotionDatagram F)
    : Except ServerError Unit × ServerState F :=
  let self :=
    { self with metrics := { self.metrics with motionDatagrams := self.metrics.motionDatagrams + 1 } }
  self.ingestMotionSamples datagram.deviceId datagram.updates datagram.timestampNs

/--
The markers that describe the mapping graph at the start of a recording.
-/
def seedMarkers (runtime : RuntimeCore F) (nowNs : Nat) : List RecordingMarker :=
  (runtime.mappings.values.filter fun m => m.state = .active).map fun m =>
    .mappingCreated nowNs m.id m.sourceDevice m.sourceOutput m.targetScene m.targetObject
      m.targetAttribute m.componentMask

/--
The first step of `start_recording`: an idle runtime goes live. Returns the mode to start from.
-/
def leaveIdle (self : ServerState F) : Except ServerError Mode × ServerState F :=
  if self.runtime.mode = .idle then
    match self.withRuntime (self.runtime.setMode .live) with
    | (.error e, self) => (.error e, self)
    | (.ok (), self) => (.ok .live, self)
  else
    (.ok self.runtime.mode, self)

/--
The mode is changed before the active scene is checked.
-/
def startRecording (self : ServerState F) (path : String) (nowNs : Nat) (recordingId : Uuid)
    : Except ServerError Uuid × ServerState F :=
  match self.leaveIdle with
  | (.error e, self) => (.error e, self)
  | (.ok fromMode, self) =>
    match self.withRuntime (self.runtime.setMode .recording) with
    | (.error e, self) => (.error e, self)
    | (.ok (), self) =>
      match self.runtime.activeScene with
      | none => (.error (.recording "no active scene"), self)
      | some activeScene =>
        let writer := RecordingWriter.start activeScene nowNs recordingId
        let writer := writer.pushMarker (.modeTransition nowNs fromMode .recording)
        let writer := writer.pushMarkers (seedMarkers self.runtime nowNs)
        (.ok recordingId, { self with activeRecording := some ⟨path, writer⟩ })

/--
The recording is taken out of the state before it is written. `written` is what writing the file
came to.
-/
def stopRecording (self : ServerState F) (nowNs : Nat) (written : Except String Unit)
    : Except ServerError RecordingManifest × ServerState F :=
  match self.activeRecording with
  | none => (.error (.recording "no active recording"), self)
  | some recording =>
    let self := { self with activeRecording := none }
    let writer := recording.writer.pushMarker (.modeTransition nowNs .recording .live)
    match writer.finish written with
    | .error e => (.error (.recording e), self)
    | .ok manifest =>
      match self.withRuntime (self.runtime.setMode .live) with
      | (.error e, self) => (.error e, self)
      | (.ok (), self) => (.ok manifest, self)

def schedulerTick (self : ServerState F) (nowNs : Nat) : ServerState F :=
  if !self.running then
    self
  else
    { self with
      runtime := self.runtime.schedulerTick nowNs
      metrics := { self.metrics with schedulerTicks := self.metrics.schedulerTicks + 1 } }

end ServerState

end MotionStage
