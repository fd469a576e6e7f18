import MotionStage.Core.Ownership
import MotionStage.Server.Stage
import MotionStage.Server.Video

/-!
This module contains the calls of the server as data, and says once what each of them can do to
the sessions, the runtime and the recording.
-/

namespace MotionStage

variable {F : Floats}

/--
The calls of the server, each taken as one step. In the source a call holds the lock on the server
state from start to end, except for a datagram, which is counted under a lock of its own, and for
the video calls, which give the lock up while they wait for the WebRTC library.
-/
inductive ServerOp (F : Floats) where
  | discovered (deviceId : Uuid) (deviceName : String)
  | transportConnected (deviceId : Uuid)
  | helloExchanged (hello : ClientHello)
  | authenticate (deviceId : Uuid)
  | register (deviceId : Uuid) (req : RegisterRequest) (sessionId : Uuid)
  | sceneSynced (deviceId : Uuid)
  | activate (deviceId : Uuid)
  | closeSession (deviceId : Uuid) (nowNs : Nat)
  | loadScene (scene : Scene F)
  | setActiveScene (sceneId : SceneId)
  | setMode (mode : Mode) (nowNs : Nat)
  | resetSceneToBaseline (sceneId : Option SceneId)
  | commitSceneBaseline (sceneId : Option SceneId)
  | commitObjectBaseline (sceneId : Option SceneId) (objectId : ObjectId)
  | createMapping (req : MappingRequest) (nowNs : Nat) (id : MappingId)
  | updateMapping (mappingId : MappingId) (req : MappingRequest) (nowNs : Nat)
  | removeMapping (mappingId : MappingId) (nowNs : Nat)
  | setMappingLock (mappingId : MappingId) (lock : Bool) (nowNs : Nat)
  | ingestMotionSamples (deviceId : Uuid) (updates : List (AttributeUpdate F)) (timestampNs : Nat)
  | ingestMotionDatagram (datagram : ServerState.MotionDatagram F)
  | startRecording (path : String) (nowNs : Nat) (recordingId : Uuid)
  | stopRecording (nowNs : Nat) (written : Except String Unit)
  | setMasterVideoDescriptor (descriptor : VideoStreamDescriptor)
  | createVideoOffer (deviceId : Uuid) (results : WebRtcResults)
  | handleVideoSignal (deviceId : Uuid) (payload : SignalPayload) (results : WebRtcResults)
  | pushSignalingMessage (message : SignalMessage)
  | drainSignalingMessages (deviceId : Uuid)
  | schedulerTick (nowNs : Nat)
  | setRunning (running : Bool)

def ServerOp.sessionOf? : ServerOp F → Option Uuid
  | .discovered deviceId _ => some deviceId
  | .transportConnected deviceId => some deviceId
  | .helloExchanged hello => some hello.deviceId
  | .authenticate deviceId => some deviceId
  | .register deviceId _ _ => some deviceId
  | .sceneSynced deviceId => some deviceId
  | .activate deviceId => some deviceId
  | .closeSession deviceId _ => some deviceId
  | _ => none

namespace ServerState

def void {α : Type} (r : Except ServerError α × ServerState F)
    : Except ServerError Unit × ServerState F :=
  (r.1.map fun _ => (), r.2)

def exec (self : ServerState F) : ServerOp F → Except ServerError Unit × ServerState F
  | .discovered deviceId deviceName => self.discovered deviceId deviceName
  | .transportConnected deviceId => self.transportConnected deviceId
  | .helloExchanged hello => self.helloExchanged hello
  | .authenticate deviceId => self.authenticate deviceId
  | .register deviceId req sessionId => void (self.register deviceId req sessionId)
  | .sceneSynced deviceId => self.sceneSynced deviceId
  | .activate deviceId => self.activate deviceId
  | .closeSession deviceId nowNs => self.closeSession deviceId nowNs
  | .loadScene scene => (.ok (), (self.loadScene scene).2)
  | .setActiveScene sceneId => self.setActiveScene sceneId
  | .setMode mode nowNs => self.setMode mode nowNs
  | .resetSceneToBaseline sceneId => void (self.resetSceneToBaseline sceneId)
  | .commitSceneBaseline sceneId => void (self.commitSceneBaseline sceneId)
  | .commitObjectBaseline sceneId objectId => void (self.commitObjectBaseline sceneId objectId)
  | .createMapping req nowNs id => void (self.createMapping req nowNs id)
  | .updateMapping mappingId req nowNs => self.updateMapping mappingId req nowNs
  | .removeMapping mappingId nowNs => self.removeMapping mappingId nowNs
  | .setMappingLock mappingId lock nowNs => self.setMappingLock mappingId lock nowNs
  | .ingestMotionSamples deviceId updates timestampNs =>
    self.ingestMotionSamples deviceId updates timestampNs
  | .ingestMotionDatagram datagram => self.ingestMotionDatagram datagram
  | .startRecording path nowNs recordingId => void (self.startRecording path nowNs recordingId)
  | .stopRecording nowNs written => void (self.stopRecording nowNs written)
  | .setMasterVideoDescriptor descriptor => self.setMasterVideoDescriptor descriptor
  | .createVideoOffer deviceId results => void (self.createVideoOffer deviceId results)
  | .handleVideoSignal deviceId payload results =>
    void (self.handleVideoSignal deviceId payload results)
  | .pushSignalingMessage message => self.pushSignalingMessage message
  | .drainSignalingMessages deviceId => void (self.drainSignalingMessages deviceId)
  | .schedulerTick nowNs => (.ok (), self.schedulerTick nowNs)
  -- what `start` and `stop` do to this state
  | .setRunning running => (.ok (), { self with running := running })

def step (self : ServerState F) (op : ServerOp F) : ServerState F := (self.exec op).2

def succeeds (self : ServerState F) (op : ServerOp F) : Bool := (self.exec op).1.isOk

def runtimeOps (self : ServerState F) : ServerOp F → List (RuntimeOp F)
  | .activate deviceId => [.registerDeviceConnected deviceId]
  | .closeSession deviceId nowNs => [.registerDeviceDisconnected deviceId nowNs]
  | .loadScene scene => [.loadScene scene]
  | .setActiveScene sceneId => [.setActiveScene sceneId]
  | .setMode mode _ => [.setMode mode]
  | .resetSceneToBaseline sceneId =>
    (self.resolveSceneForBaseline sceneId).toOption.toList.map .resetSceneToBaseline
  | .commitSceneBaseline sceneId =>
    (self.resolveSceneForBaseline sceneId).toOption.toList.map .commitSceneBaseline
  | .commitObjectBaseline sceneId objectId =>
    (self.resolveSceneForBaseline sceneId).toOption.toList.map
      fun sceneId => .commitObjectBaseline sceneId objectId
  | .createMapping req nowNs id => [.createMapping req nowNs id]
  | .updateMapping mappingId req nowNs => [.updateMapping mappingId req nowNs]
  | .removeMapping mappingId _ => [.removeMapping mappingId]
  | .setMappingLock mappingId lock _ => [.setMappingLock mappingId lock]
  | .ingestMotionSamples deviceId updates timestampNs =>
    [.applyUpdates deviceId updates timestampNs]
  | .ingestMotionDatagram datagram =>
    [.applyUpdates datagram.deviceId datagram.updates datagram.timestampNs]
  | .startRecording _ _ _ =>
    if self.runtime.mode = .idle then
      [.setMode .live, .setMode .recording]
    else
      [.setMode .recording]
  | .stopRecording _ written =>
    if self.activeRecording.isSome && written.isOk then [.setMode .live] else []
  | .schedulerTick nowNs => if self.running then [.schedulerTick nowNs] else []
  | _ => []

def heldFrames (self : ServerState F) : Option (List (RecordedFrame F)) :=
  self.activeRecording.map fun recording => recording.writer.frames

def frameOf? (self : ServerState F) (deviceId : Uuid) (updates : List (AttributeUpdate F))
    (timestampNs : Nat) : Option (RecordedFrame F) :=
  match self.applyMotion deviceId updates timestampNs with
  | (.error _, _) => none
  | (.ok _, self) => (self.maybeRecordedFrame deviceId updates timestampNs).toOption.join

def pushedFrames (self : ServerState F) : ServerOp F → List (RecordedFrame F)
  | .ingestMotionSamples deviceId updates timestampNs =>
    (self.frameOf? deviceId updates timestampNs).toList
  | .ingestMotionDatagram datagram =>
    (self.frameOf? datagram.deviceId datagram.updates datagram.timestampNs).toList
  | _ => []

def heldAfter (self : ServerState F) : ServerOp F → Option (List (RecordedFrame F))
  | .startRecording _ _ _ => if self.runtime.activeScene.isSome then some [] else self.heldFrames
  | .stopRecording _ _ => none
  | op => self.heldFrames.map fun frames => frames ++ self.pushedFrames op

/--
What a call that is no session call has done: the new runtime and the new frames of the recording,
with the configuration and the sessions as they were.
-/
structure Effect (s s' : ServerState F) (runtime : RuntimeCore F)
    (frames : Option (List (RecordedFrame F))) : Prop where
  config : s'.config = s.config
  sessions : s'.sessions = s.sessions
  runtime : s'.runtime = runtime
  frames : s'.heldFrames = frames

namespace Effect

theorem refl (s : ServerState F) : Effect s s s.runtime s.heldFrames := ⟨rfl, rfl, rfl, rfl⟩

theorem trans {s₁ s₂ s₃ : ServerState F} {r₂ r₃ : RuntimeCore F}
    {f₂ f₃ : Option (List (RecordedFrame F))} (h₁ : Effect s₁ s₂ r₂ f₂) (h₂ : Effect s₂ s₃ r₃ f₃)
    : Effect s₁ s₃ r₃ f₃ :=
  ⟨h₂.config.trans h₁.config, h₂.sessions.trans h₁.sessions, h₂.runtime, h₂.frames⟩

theorem withRuntime {α : Type} (s : ServerState F) (r : Except CoreError α × RuntimeCore F)
    : Effect s (s.withRuntime r).2 r.2 s.heldFrames :=
  ⟨rfl, rfl, rfl, rfl⟩

theorem pushMarker {s s' : ServerState F} {runtime : RuntimeCore F}
    {frames : Option (List (RecordedFrame F))} (h : Effect s s' runtime frames)
    (marker : RecordingMarker)
    : Effect s (s'.pushMarker marker) runtime frames := by
  refine ⟨h.config, h.sessions, h.runtime, ?_⟩
  rw [← h.frames]
  simp [heldFrames, ServerState.pushMarker, Function.comp_def]

end Effect

section Stage

variable (self : ServerState F)

theorem setMode_effect (mode : Mode) (nowNs : Nat)
    : Effect self (self.setMode mode nowNs).2 (self.runtime.setMode mode).2 self.heldFrames := by
  have hset := Effect.withRuntime self (self.runtime.setMode mode)
  unfold setMode
  split
  . next h => rw [h] at hset; exact hset
  . next h => rw [h] at hset; exact hset.pushMarker _

theorem baselineCall_effect (sceneId : Option SceneId)
    (action : SceneId → Except CoreError Nat × RuntimeCore F) (op : SceneId → RuntimeOp F)
    (h : ∀ sceneId, (action sceneId).2 = self.runtime.step (op sceneId))
    : Effect self (self.baselineCall sceneId action).2
        (Run.run RuntimeCore.step self.runtime
          ((self.resolveSceneForBaseline sceneId).toOption.toList.map op))
        self.heldFrames := by
  unfold baselineCall
  split
  . next hscene =>
    simp only [hscene]
    exact .refl self
  . next sceneId hscene =>
    simp only [hscene]
    exact ⟨rfl, rfl, h sceneId, rfl⟩

theorem createMapping_effect (req : MappingRequest) (nowNs : Nat) (id : MappingId)
    : Effect self (self.createMapping req nowNs id).2 (self.runtime.createMapping req nowNs id).2
        self.heldFrames := by
  have hcreate := Effect.withRuntime self (self.runtime.createMapping req nowNs id)
  unfold createMapping
  split
  . next h => rw [h] at hcreate; exact hcreate
  . next h =>
    rw [h] at hcreate
    split
    . exact hcreate
    . exact hcreate.pushMarker _

theorem updateMapping_effect (mappingId : MappingId) (req : MappingRequest) (nowNs : Nat)
    : Effect self (self.updateMapping mappingId req nowNs).2
        (self.runtime.updateMapping mappingId req nowNs).2 self.heldFrames := by
  have hupdate := Effect.withRuntime self (self.runtime.updateMapping mappingId req nowNs)
  unfold updateMapping
  split
  . next h => rw [h] at hupdate; exact hupdate
  . next h =>
    rw [h] at hupdate
    split
    . exact hupdate
    . exact hupdate.pushMarker _

theorem removeMapping_effect (mappingId : MappingId) (nowNs : Nat)
    : Effect self (self.removeMapping mappingId nowNs).2 (self.runtime.removeMapping mappingId).2
        self.heldFrames := by
  have hremove := Effect.withRuntime self (self.runtime.removeMapping mappingId)
  unfold removeMapping
  split
  . next h => rw [h] at hremove; exact hremove
  . next h => rw [h] at hremove; exact hremove.pushMarker _

theorem setMappingLock_effect (mappingId : MappingId) (lock : Bool) (nowNs : Nat)
    : Effect self (self.setMappingLock mappingId lock nowNs).2
        (self.runtime.setMappingLock mappingId lock).2 self.heldFrames := by
  have hlock := Effect.withRuntime self (self.runtime.setMappingLock mappingId lock)
  unfold setMappingLock
  split
  . next h => rw [h] at hlock; exact hlock
  . next h => rw [h] at hlock; exact hlock.pushMarker _

theorem ingestMotionSamples_effect (deviceId : Uuid) (updates : List (AttributeUpdate F))
    (timestampNs : Nat)
    : Effect self (self.ingestMotionSamples deviceId updates timestampNs).2
        (self.runtime.applyUpdates deviceId updates timestampNs).2
        (self.heldFrames.map fun frames =>
          frames ++ (self.frameOf? deviceId updates timestampNs).toList) := by
  have happly : Effect self (self.applyMotion deviceId updates timestampNs).2
      (self.runtime.applyUpdates deviceId updates timestampNs).2 self.heldFrames :=
    ⟨rfl, rfl, rfl, rfl⟩
  unfold ingestMotionSamples frameOf?
  generalize self.applyMotion deviceId updates timestampNs = motion at happly ⊢
  obtain ⟨result, applied⟩ := motion
  cases result with
  | error e => simpa using happly
  | ok values =>
    dsimp only at happly ⊢
    split
    . next hframe => simpa [hframe, Except.toOption] using happly
    . next hframe => simpa [hframe, Except.toOption] using happly
    . next frame hframe =>
      refine ⟨happly.config, happly.sessions, happly.runtime, ?_⟩
      rw [← happly.frames]
      simp [hframe, Except.toOption, heldFrames, pushFrame, Function.comp_def]

/--
The mode that the first marker of a recording starts from. A recording that starts in idle mode
passes through live mode.
-/
def startMode (self : ServerState F) : Mode :=
  if self.runtime.mode = .idle then .live else self.runtime.mode

theorem leaveIdle_eq (self : ServerState F)
    : self.leaveIdle
        =
      (.ok self.startMode, { self with runtime := { self.runtime with mode := self.startMode } }) := by
  unfold leaveIdle startMode
  split
  . next hidle => simp [withRuntime, RuntimeCore.setMode, hidle, RuntimeCore.validModeTransition,
      Except.mapError]
  . rfl

theorem setMode_startMode (self : ServerState F)
    : ({ self.runtime with mode := self.startMode }).setMode .recording
        =
      (.ok (), { self.runtime with mode := .recording }) := by
  unfold startMode
  cases self.runtime.mode <;> rfl

theorem startRecording_of_none {self : ServerState F} {path : String} {nowNs : Nat}
    {recordingId : Uuid} (hscene : self.runtime.activeScene = none)
    : self.startRecording path nowNs recordingId
        =
      (.error (.recording "no active scene"),
        { self with runtime := { self.runtime with mode := .recording } }) := by
  simp only [startRecording, leaveIdle_eq, withRuntime, setMode_startMode, Except.mapError]
  rw [hscene]

theorem startRecording_of_some {self : ServerState F} {path : String} {nowNs : Nat}
    {recordingId : Uuid} {activeScene : SceneId} (hscene : self.runtime.activeScene = some activeScene)
    : self.startRecording path nowNs recordingId
        =
      let runtime := { self.runtime with mode := .recording }
      let writer := (RecordingWriter.start activeScene nowNs recordingId).pushMarker
        (.modeTransition nowNs self.startMode .recording)
      (.ok recordingId,
        { self with
          runtime := runtime
          activeRecording := some ⟨path, writer.pushMarkers (seedMarkers runtime nowNs)⟩ }) := by
  simp only [startRecording, leaveIdle_eq, withRuntime, setMode_startMode, Except.mapError]
  rw [hscene]

theorem startRecording_effect (path : String) (nowNs : Nat) (recordingId : Uuid)
    : Effect self (self.startRecording path nowNs recordingId).2
        (Run.run RuntimeCore.step self.runtime
          (self.runtimeOps (.startRecording path nowNs recordingId)))
        (self.heldAfter (.startRecording path nowNs recordingId)) := by
  -- from idle through live, or at once
  have hops : Run.run RuntimeCore.step self.runtime
      (self.runtimeOps (.startRecording path nowNs recordingId))
      = { self.runtime with mode := .recording } := by
    cases hmode : self.runtime.mode <;>
      simp [runtimeOps, RuntimeCore.step, RuntimeCore.setMode, hmode,
        RuntimeCore.validModeTransition]
  rw [hops]
  unfold heldAfter
  cases hscene : self.runtime.activeScene with
  | none =>
    rw [startRecording_of_none hscene]
    exact ⟨rfl, rfl, rfl, rfl⟩
  | some activeScene =>
    rw [startRecording_of_some hscene]
    refine ⟨rfl, rfl, rfl, ?_⟩
    simp [heldFrames, RecordingWriter.start, RecordingWriter.startWithFormat]

theorem stopRecording_effect (nowNs : Nat) (written : Except String Unit)
    : Effect self (self.stopRecording nowNs written).2
        (Run.run RuntimeCore.step self.runtime
          (self.runtimeOps (.stopRecording nowNs written)))
        (self.heldAfter (.stopRecording nowNs written)) := by
  unfold stopRecording
  split
  . next hnone =>
    simp only [runtimeOps, hnone, Option.isSome_none, Bool.false_and, Bool.false_eq_true,
      ↓reduceIte, heldAfter]
    exact ⟨rfl, rfl, rfl, by simp [heldFrames, hnone]⟩
  . next recording hsome =>
    cases written with
    | error e =>
      simp only [runtimeOps, Except.isOk, Except.toBool, Bool.and_false, Bool.false_eq_true,
        ↓reduceIte, heldAfter, RecordingWriter.finish]
      exact ⟨rfl, rfl, rfl, rfl⟩
    | ok _ =>
      simp only [runtimeOps, hsome, Option.isSome_some, Except.isOk, Except.toBool, Bool.and_true,
        ↓reduceIte, heldAfter, RecordingWriter.finish]
      have hlive := Effect.withRuntime { self with activeRecording := none }
        (self.runtime.setMode .live)
      split
      . next h => rw [h] at hlive; exact ⟨hlive.config, hlive.sessions, hlive.runtime, hlive.frames⟩
      . next h => rw [h] at hlive; exact ⟨hlive.config, hlive.sessions, hlive.runtime, hlive.frames⟩

end Stage

section Video

variable (self : ServerState F) (deviceId : Uuid) (results : WebRtcResults)

theorem ensureVideoPeer_frame
    : (self.ensureVideoPeer deviceId results).2
        =
      { self with videoPeers := (self.ensureVideoPeer deviceId results).2.videoPeers } := by
  unfold ensureVideoPeer
  split
  . rfl
  . split <;> rfl

theorem describeWithTrack_frame
    : (self.describeWithTrack deviceId results).2
        =
      { self with videoPeers := (self.describeWithTrack deviceId results).2.videoPeers } := by
  unfold describeWithTrack
  dsimp only
  split
  . rfl
  . dsimp only
    split <;> rfl

theorem createVideoOffer_frame
    : (self.createVideoOffer deviceId results).2
        =
      { self with videoPeers := (self.createVideoOffer deviceId results).2.videoPeers } := by
  have hpeer := self.ensureVideoPeer_frame deviceId results
  unfold createVideoOffer
  split
  . rfl
  . split
    . next h => rw [h] at hpeer; exact hpeer
    . next self' h =>
      rw [h] at hpeer
      dsimp only at hpeer
      rw [describeWithTrack_frame, hpeer]

theorem handleVideoSignal_frame (payload : SignalPayload)
    : (self.handleVideoSignal deviceId payload results).2
        =
      { self with
        videoPeers := (self.handleVideoSignal deviceId payload results).2.videoPeers } := by
  have hpeer := self.ensureVideoPeer_frame deviceId results
  unfold handleVideoSignal
  split
  . rfl
  . split
    . split
      . next h => rw [h] at hpeer; exact hpeer
      . next self' h =>
        rw [h] at hpeer
        dsimp only at hpeer
        have hdescribe := self'.describeWithTrack_frame deviceId results
        split
        . exact hpeer
        . split
          . next h =>
            rw [h] at hdescribe
            dsimp only at hdescribe ⊢
            rw [hdescribe, hpeer]
          . next h =>
            rw [h] at hdescribe
            dsimp only at hdescribe ⊢
            rw [hdescribe, hpeer]
    . rfl
    . rfl

theorem pushSignalingMessage_frame (message : SignalMessage)
    : let self' := (self.pushSignalingMessage message).2
      self' = { self with signaling := self'.signaling, metrics := self'.metrics } := by
  unfold pushSignalingMessage
  split
  . rfl
  . split
    . rfl
    . split <;> rfl

end Video

theorem heldAfter_eq_heldFrames {self : ServerState F} {op : ServerOp F}
    (h : self.pushedFrames op = []) (hstart : ∀ path nowNs id, op ≠ .startRecording path nowNs id)
    (hstop : ∀ nowNs written, op ≠ .stopRecording nowNs written)
    : self.heldAfter op = self.heldFrames := by
  unfold heldAfter
  split
  . exact absurd rfl (hstart _ _ _)
  . exact absurd rfl (hstop _ _)
  . simp [h]

theorem frameOf?_metrics (self : ServerState F) (metrics : ServerMetrics) (deviceId : Uuid)
    (updates : List (AttributeUpdate F)) (timestampNs : Nat)
    : { self with metrics := metrics }.frameOf? deviceId updates timestampNs
        =
      self.frameOf? deviceId updates timestampNs := by
  simp only [frameOf?, applyMotion, withRuntime, maybeRecordedFrame]
  cases (self.runtime.applyUpdates deviceId updates timestampNs).1 <;> rfl

theorem effect_step {self : ServerState F} {op : ServerOp F} (hop : op.sessionOf? = none)
    : Effect self (self.step op) (Run.run RuntimeCore.step self.runtime (self.runtimeOps op))
        (self.heldAfter op) := by
  cases op with
  | startRecording path nowNs recordingId =>
    exact self.startRecording_effect path nowNs recordingId
  | stopRecording nowNs written => exact self.stopRecording_effect nowNs written
  | ingestMotionSamples deviceId updates timestampNs =>
    exact self.ingestMotionSamples_effect deviceId updates timestampNs
  | ingestMotionDatagram datagram =>
    let metrics := { self.metrics with motionDatagrams := self.metrics.motionDatagrams + 1 }
    have hcounted : Effect self { self with metrics := metrics } self.runtime self.heldFrames :=
      ⟨rfl, rfl, rfl, rfl⟩
    have hingest := { self with metrics := metrics }.ingestMotionSamples_effect datagram.deviceId
      datagram.updates datagram.timestampNs
    rw [frameOf?_metrics] at hingest
    exact hcounted.trans hingest
  | discovered => cases hop
  | transportConnected => cases hop
  | helloExchanged => cases hop
  | authenticate => cases hop
  | register => cases hop
  | sceneSynced => cases hop
  | activate => cases hop
  | closeSession => cases hop
  | loadScene scene =>
    rw [heldAfter_eq_heldFrames rfl (by simp) (by simp)]
    exact ⟨rfl, rfl, rfl, rfl⟩
  | setActiveScene sceneId =>
    rw [heldAfter_eq_heldFrames rfl (by simp) (by simp)]
    exact .withRuntime self _
  | setMode mode nowNs =>
    rw [heldAfter_eq_heldFrames rfl (by simp) (by simp)]
    exact self.setMode_effect mode nowNs
  | resetSceneToBaseline sceneId =>
    rw [heldAfter_eq_heldFrames rfl (by simp) (by simp)]
    exact self.baselineCall_effect sceneId _ _ fun _ => rfl
  | commitSceneBaseline sceneId =>
    rw [heldAfter_eq_heldFrames rfl (by simp) (by simp)]
    exact self.baselineCall_effect sceneId _ _ fun _ => rfl
  | commitObjectBaseline sceneId objectId =>
    rw [heldAfter_eq_heldFrames rfl (by simp) (by simp)]
    exact self.baselineCall_effect sceneId _ _ fun _ => rfl
  | createMapping req nowNs id =>
    rw [heldAfter_eq_heldFrames rfl (by simp) (by simp)]
    exact self.createMapping_effect req nowNs id
  | updateMapping mappingId req nowNs =>
    rw [heldAfter_eq_heldFrames rfl (by simp) (by simp)]
    exact self.updateMapping_effect mappingId req nowNs
  | removeMapping mappingId nowNs =>
    rw [heldAfter_eq_heldFrames rfl (by simp) (by simp)]
    exact self.removeMapping_effect mappingId nowNs
  | setMappingLock mappingId lock nowNs =>
    rw [heldAfter_eq_heldFrames rfl (by simp) (by simp)]
    exact self.setMappingLock_effect mappingId lock nowNs
  | setMasterVideoDescriptor descriptor =>
    rw [heldAfter_eq_heldFrames rfl (by simp) (by simp)]
    simp only [step, exec, setMasterVideoDescriptor]
    split <;> exact ⟨rfl, rfl, rfl, rfl⟩
  | createVideoOffer deviceId results =>
    rw [heldAfter_eq_heldFrames rfl (by simp) (by simp)]
    simp only [step, exec, void]
    rw [createVideoOffer_frame]
    exact ⟨rfl, rfl, rfl, rfl⟩
  | handleVideoSignal deviceId payload results =>
    rw [heldAfter_eq_heldFrames rfl (by simp) (by simp)]
    simp only [step, exec, void]
    rw [handleVideoSignal_frame]
    exact ⟨rfl, rfl, rfl, rfl⟩
  | pushSignalingMessage message =>
    rw [heldAfter_eq_heldFrames rfl (by simp) (by simp)]
    simp only [step, exec]
    rw [pushSignalingMessage_frame]
    exact ⟨rfl, rfl, rfl, rfl⟩
  | drainSignalingMessages deviceId =>
    rw [heldAfter_eq_heldFrames rfl (by simp) (by simp)]
    simp only [step, exec, void, drainSignalingMessages]
    split <;> exact ⟨rfl, rfl, rfl, rfl⟩
  | schedulerTick nowNs =>
    rw [heldAfter_eq_heldFrames rfl (by simp) (by simp)]
    simp only [step, exec, schedulerTick, runtimeOps]
    cases hrunning : self.running with
    | false => exact .refl self
    | true => exact ⟨rfl, rfl, rfl, rfl⟩
  | setRunning running =>
    rw [heldAfter_eq_heldFrames rfl (by simp) (by simp)]
    exact ⟨rfl, rfl, rfl, rfl⟩

end ServerState

end MotionStage
