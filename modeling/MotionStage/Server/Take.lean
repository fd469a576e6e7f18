import MotionStage.Core.Batch
import MotionStage.Data.Traverse
import MotionStage.Server.SessionStep

/-!
This module contains the take that is being recorded: what every call passes to the writer, which
batches are recorded as a frame, and what the frame says.
-/

namespace MotionStage

variable {F : Floats}

open Traverse

namespace RuntimeCore

variable {self : RuntimeCore F} {deviceId : Uuid} {activeScene : SceneId}

def recordable (self : RuntimeCore F) (deviceId : Uuid) (activeScene : SceneId)
    (update : AttributeUpdate F) : Bool :=
  ((self.route deviceId activeScene update.outputAttribute).bind fun m =>
    self.attributeAt m.target).isSome

def framed (self : RuntimeCore F) (deviceId : Uuid) (activeScene : SceneId)
    (updates : List (AttributeUpdate F)) : Bool :=
  if self.mode = .idle then
    updates.all (self.recordable deviceId activeScene)
  else
    updates.all (self.accepts deviceId activeScene)

theorem recordable_of_accepts {update : AttributeUpdate F}
    (h : self.accepts deviceId activeScene update = true)
    : self.recordable deviceId activeScene update = true := by
  unfold accepts at h
  unfold recordable
  cases hroute : self.route deviceId activeScene update.outputAttribute with
  | none => simp [hroute] at h
  | some m =>
    simp only [hroute, Option.bind_some] at h ⊢
    cases hattr : self.attributeAt m.target with
    | none => simp [hattr] at h
    | some attr => rfl

theorem recordable_of_framed {updates : List (AttributeUpdate F)}
    (h : self.framed deviceId activeScene updates = true)
    : ∀ update ∈ updates, self.recordable deviceId activeScene update = true := by
  unfold framed at h
  split at h
  . exact List.all_eq_true.mp h
  . intro update hupdate
    exact recordable_of_accepts (List.all_eq_true.mp h update hupdate)

theorem isSome_attributeAt_applyUpdates (updates : List (AttributeUpdate F)) (nowNs : Nat)
    (t : Target)
    : ((self.applyUpdates deviceId updates nowNs).2.attributeAt t).isSome
        =
      (self.attributeAt t).isSome := by
  have happlies := self.applies_applyUpdates deviceId updates nowNs
  generalize self.applyUpdates deviceId updates nowNs = r at happlies
  cases happlies with
  | idle => rfl
  | noScene => rfl
  | loop _ _ _ _ _ _ _ hattr => simp [hattr]

theorem isOk_applyUpdates (hscene : self.activeScene = some activeScene)
    (updates : List (AttributeUpdate F)) (nowNs : Nat)
    : (self.applyUpdates deviceId updates nowNs).1.isOk = true
        ↔
      self.mode = .idle ∨ updates.all (self.accepts deviceId activeScene) = true := by
  have happlies := self.applies_applyUpdates deviceId updates nowNs
  generalize self.applyUpdates deviceId updates nowNs = r at happlies
  cases happlies with
  | idle hmode => simp [hmode, Except.isOk, Except.toBool]
  | noScene _ hnone =>
    rw [hnone] at hscene
    cases hscene
  | loop activeScene' result self' hmode hscene' hresult =>
    rw [hscene] at hscene'
    cases hscene'
    simp [hmode, hresult]

end RuntimeCore

namespace ServerState

open RuntimeCore (currentAt)

/--
The entry of a frame that records an update: it names the target of the mapping that routes the
update in `before`, with the value of the target in `after`.
-/
def Records (before after : RuntimeCore F) (deviceId : Uuid) (activeScene : SceneId)
    (update : AttributeUpdate F) (entry : RecordedAttribute F) : Prop :=
  ∃ m, before.route deviceId activeScene update.outputAttribute = some m
    ∧ entry.objectId = m.targetObject ∧ entry.attr = m.targetAttribute
    ∧ after.currentAt m.target = some entry.value

/--
The second lookup of the server has its tests in another order, but it finds the mapping that the
runtime finds.
-/
theorem recordedAttribute_eq_ok_iff {runtime : RuntimeCore F} {deviceId : Uuid}
    {activeScene : SceneId} {update : AttributeUpdate F} {entry : RecordedAttribute F}
    : recordedAttribute runtime deviceId activeScene update = .ok entry
        ↔
      Records runtime runtime deviceId activeScene update entry := by
  have hlookup : (runtime.mappings.find? fun m =>
      m.sourceDevice == deviceId
        && sourceOutputMatches m.sourceOutput deviceId update.outputAttribute
        && m.state == .active && m.targetScene == activeScene).map Subtype.val
      = runtime.route deviceId activeScene update.outputAttribute := by
    rw [RuntimeCore.route_eq, MappingTable.find?_val]
    congr 1
    funext m
    rw [Bool.and_comm (_ && _) (m.state == .active), ← Bool.and_assoc]
    rfl
  unfold recordedAttribute Records
  rw [← hlookup]
  generalize runtime.mappings.find? _ = found
  cases found with
  | none => simp
  | some m =>
    simp only [Option.map_some, Option.some.injEq, exists_eq_left', currentAt]
    cases runtime.attributeAt m.val.target with
    | none => simp
    | some attr =>
      obtain ⟨objectId, name, value⟩ := entry
      simp [eq_comm]

theorem recordedFrame_eq_ok_iff {runtime : RuntimeCore F} {deviceId : Uuid}
    {updates : List (AttributeUpdate F)} {timestampNs : Nat} {frame : RecordedFrame F}
    : recordedFrame runtime deviceId updates timestampNs = .ok frame
        ↔
      frame.timestampNs = timestampNs ∧ frame.mode = runtime.mode
        ∧ ∃ activeScene, runtime.activeScene = some activeScene
          ∧ List.Forall₂ (Records runtime runtime deviceId activeScene) updates
              frame.attributes := by
  unfold recordedFrame
  cases runtime.activeScene with
  | none => simp
  | some activeScene =>
    simp only [Option.some.injEq, exists_eq_left']
    have hmap := @mapM_eq_ok_iff _ _ _ (recordedAttribute runtime deviceId activeScene) updates
    simp only [recordedAttribute_eq_ok_iff] at hmap
    cases h : updates.mapM (recordedAttribute runtime deviceId activeScene) with
    | error e =>
      simp only [h, reduceCtorEq, false_iff] at hmap ⊢
      rintro ⟨-, -, hentries⟩
      exact hmap hentries
    | ok attrs =>
      simp only [h, Except.ok.injEq] at hmap ⊢
      obtain ⟨frameNs, mode, attributes⟩ := frame
      simp only [RecordedFrame.mk.injEq, ← hmap]
      constructor
      . rintro ⟨rfl, rfl, rfl⟩
        exact ⟨rfl, rfl, rfl⟩
      . rintro ⟨rfl, rfl, rfl⟩
        exact ⟨rfl, rfl, rfl⟩

section Frame

variable {self : ServerState F} {deviceId : Uuid} {updates : List (AttributeUpdate F)}
  {timestampNs : Nat}

theorem route_applyUpdates (runtime : RuntimeCore F) (activeScene : SceneId) (output : String)
    : (runtime.applyUpdates deviceId updates timestampNs).2.route deviceId activeScene output
        =
      (runtime.route deviceId activeScene output).map
        (Mapping.beat deviceId timestampNs) := by
  rw [← RuntimeCore.route_heartbeat, RuntimeCore.applyUpdates_frame]
  rfl

theorem records_applyUpdates {runtime : RuntimeCore F} {activeScene : SceneId}
    : let after := (runtime.applyUpdates deviceId updates timestampNs).2
      Records after after deviceId activeScene = Records runtime after deviceId activeScene := by
  funext update entry
  unfold Records
  rw [route_applyUpdates]
  cases runtime.route deviceId activeScene update.outputAttribute with
  | none => simp
  | some m =>
    obtain ⟨-, htarget, -⟩ := m.beat_keeps deviceId timestampNs
    have hfields := htarget
    simp only [Mapping.target, Target.mk.injEq] at hfields
    simp only [Option.map_some, Option.some.injEq, exists_eq_left', htarget, hfields]

theorem frameOf?_eq_some_iff {frame : RecordedFrame F}
    : self.frameOf? deviceId updates timestampNs = some frame
        ↔
      self.activeRecording.isSome = true
        ∧ (self.runtime.applyUpdates deviceId updates timestampNs).1.isOk = true
        ∧ frame.timestampNs = timestampNs ∧ frame.mode = self.runtime.mode
        ∧ ∃ activeScene, self.runtime.activeScene = some activeScene
          ∧ List.Forall₂
              (Records self.runtime (self.runtime.applyUpdates deviceId updates timestampNs).2
                deviceId activeScene)
              updates frame.attributes := by
  have hframe := self.runtime.applyUpdates_frame deviceId updates timestampNs
  have hscene : (self.runtime.applyUpdates deviceId updates timestampNs).2.activeScene
      = self.runtime.activeScene := by rw [hframe]; rfl
  have hmode : (self.runtime.applyUpdates deviceId updates timestampNs).2.mode
      = self.runtime.mode := by rw [hframe]; rfl
  simp only [← records_applyUpdates, ← hscene, ← hmode, ← recordedFrame_eq_ok_iff]
  unfold frameOf? applyMotion withRuntime maybeRecordedFrame
  dsimp only
  generalize self.runtime.applyUpdates deviceId updates timestampNs = applied
  obtain ⟨result, after⟩ := applied
  cases result with
  | error e => simp [Except.mapError, Except.isOk, Except.toBool]
  | ok values =>
    simp only [Except.mapError, Except.isOk, Except.toBool, true_and]
    cases self.activeRecording.isSome with
    | false => simp [Except.toOption]
    | true =>
      simp only [if_true, true_and]
      cases recordedFrame after deviceId updates timestampNs <;> simp [Except.toOption, Except.map]

theorem isSome_frameOf?_iff
    : (self.frameOf? deviceId updates timestampNs).isSome = true
        ↔
      self.activeRecording.isSome = true
        ∧ ∃ activeScene, self.runtime.activeScene = some activeScene
          ∧ self.runtime.framed deviceId activeScene updates = true := by
  constructor
  . intro h
    obtain ⟨frame, hframe⟩ := Option.isSome_iff_exists.mp h
    obtain ⟨hrecording, hok, -, -, activeScene, hscene, hentries⟩ := frameOf?_eq_some_iff.mp hframe
    refine ⟨hrecording, activeScene, hscene, ?_⟩
    have hrecordable : ∀ update ∈ updates,
        self.runtime.recordable deviceId activeScene update = true := by
      intro update hupdate
      obtain ⟨entry, -, m, hroute, -, -, hvalue⟩ := forall₂_left hentries update hupdate
      have hsome : ((self.runtime.applyUpdates deviceId updates timestampNs).2.attributeAt
          m.target).isSome = true := by
        obtain ⟨attr, hattr, -⟩ := Option.map_eq_some_iff.mp hvalue
        rw [hattr]
        rfl
      rw [RuntimeCore.isSome_attributeAt_applyUpdates] at hsome
      rw [RuntimeCore.recordable, hroute]
      exact hsome
    unfold RuntimeCore.framed
    split
    . exact List.all_eq_true.mpr hrecordable
    . next hmode =>
      exact ((RuntimeCore.isOk_applyUpdates hscene updates timestampNs).mp hok).resolve_left hmode
  . rintro ⟨hrecording, activeScene, hscene, hframed⟩
    have hok : (self.runtime.applyUpdates deviceId updates timestampNs).1.isOk = true := by
      rw [RuntimeCore.isOk_applyUpdates hscene]
      unfold RuntimeCore.framed at hframed
      split at hframed
      . next hmode => exact .inl hmode
      . exact .inr hframed
    have hentries : ∃ entries, List.Forall₂
        (Records self.runtime (self.runtime.applyUpdates deviceId updates timestampNs).2
          deviceId activeScene)
        updates entries := by
      apply exists_forall₂
      intro update hupdate
      have hrecordable := RuntimeCore.recordable_of_framed hframed update hupdate
      unfold RuntimeCore.recordable at hrecordable
      cases hroute : self.runtime.route deviceId activeScene update.outputAttribute with
      | none => simp [hroute] at hrecordable
      | some m =>
        rw [hroute, Option.bind_some, ← RuntimeCore.isSome_attributeAt_applyUpdates updates
          timestampNs] at hrecordable
        obtain ⟨attr, hattr⟩ := Option.isSome_iff_exists.mp hrecordable
        refine ⟨⟨m.targetObject, m.targetAttribute, attr.currentValue⟩, m, hroute, rfl, rfl, ?_⟩
        rw [currentAt, hattr]
        rfl
    obtain ⟨entries, hentries⟩ := hentries
    have hframe : self.frameOf? deviceId updates timestampNs
        = some ⟨timestampNs, self.runtime.mode, entries⟩ :=
      frameOf?_eq_some_iff.mpr ⟨hrecording, hok, rfl, rfl, activeScene, hscene, hentries⟩
    rw [hframe]
    rfl

end Frame

section Writer

def pushedMarkers (self : ServerState F) : ServerOp F → List RecordingMarker
  | .setMode mode nowNs =>
    if (self.runtime.setMode mode).1.isOk then
      [.modeTransition nowNs self.runtime.mode mode]
    else
      []
  | .createMapping req nowNs id =>
    match self.runtime.createMapping req nowNs id with
    | (.error _, _) => []
    | (.ok mappingId, runtime) =>
      ((runtime.mappings.get? mappingId).map fun m =>
        .mappingCreated nowNs mappingId m.sourceDevice m.sourceOutput m.targetScene m.targetObject
          m.targetAttribute m.componentMask).toList
  | .updateMapping mappingId req nowNs =>
    match self.runtime.updateMapping mappingId req nowNs with
    | (.error _, _) => []
    | (.ok (), runtime) =>
      ((runtime.mappings.get? mappingId).map fun m =>
        .mappingUpdated nowNs mappingId m.sourceDevice m.sourceOutput m.targetScene m.targetObject
          m.targetAttribute m.componentMask).toList
  | .removeMapping mappingId nowNs =>
    if (self.runtime.removeMapping mappingId).1.isOk then
      [.mappingRemoved nowNs mappingId]
    else
      []
  | .setMappingLock mappingId lock nowNs =>
    if (self.runtime.setMappingLock mappingId lock).1.isOk then
      [.mappingLockSet nowNs mappingId lock]
    else
      []
  | _ => []

def DuringTake : ServerOp F → Prop
  | .startRecording _ _ _ => False
  | .stopRecording _ _ => False
  | _ => True

def writes (markers : List RecordingMarker) (frames : List (RecordedFrame F))
    (recording : ActiveRecording F) : ActiveRecording F :=
  { recording with
    writer := frames.foldl RecordingWriter.pushFrame (recording.writer.pushMarkers markers) }

@[simp]
theorem writes_frames (markers : List RecordingMarker) (frames : List (RecordedFrame F))
    (recording : ActiveRecording F)
    : (writes markers frames recording).writer.frames = recording.writer.frames ++ frames := by
  simp [writes, RecordingWriter.pushFrames_frames]

@[simp]
theorem writes_sceneId (markers : List RecordingMarker) (frames : List (RecordedFrame F))
    (recording : ActiveRecording F)
    : (writes markers frames recording).writer.manifest.sceneId
        =
      recording.writer.manifest.sceneId := by
  simp [writes, RecordingWriter.pushFrames_sceneId]

theorem writes_nil : writes (F := F) [] [] = id := rfl

theorem pushFrame_activeRecording (self : ServerState F) (frame : RecordedFrame F)
    : (self.pushFrame frame).activeRecording = self.activeRecording.map (writes [] [frame]) :=
  rfl

theorem ingestMotionSamples_activeRecording (self : ServerState F) (deviceId : Uuid)
    (updates : List (AttributeUpdate F)) (timestampNs : Nat)
    : (self.ingestMotionSamples deviceId updates timestampNs).2.activeRecording
        =
      self.activeRecording.map (writes [] (self.frameOf? deviceId updates timestampNs).toList) := by
  have happly : (self.applyMotion deviceId updates timestampNs).2.activeRecording
      = self.activeRecording := rfl
  unfold ingestMotionSamples frameOf?
  generalize self.applyMotion deviceId updates timestampNs = motion at happly ⊢
  obtain ⟨result, applied⟩ := motion
  rw [← happly]
  cases result with
  | error e => simp [writes_nil]
  | ok values =>
    dsimp only
    split
    . next hframe => simp [hframe, Except.toOption, writes_nil]
    . next hframe => simp [hframe, Except.toOption, writes_nil]
    . next frame hframe => simp [hframe, Except.toOption, pushFrame_activeRecording]

theorem step_activeRecording (self : ServerState F) {op : ServerOp F} (hop : DuringTake op)
    : (self.step op).activeRecording
        =
      self.activeRecording.map (writes (self.pushedMarkers op) (self.pushedFrames op)) := by
  have hquiet : ∀ {recording : Option (ActiveRecording F)},
      recording = recording.map (writes [] []) := by
    intro recording
    simp [writes_nil]
  cases op with
  | startRecording => cases hop
  | stopRecording => cases hop
  | ingestMotionSamples deviceId updates timestampNs =>
    exact self.ingestMotionSamples_activeRecording deviceId updates timestampNs
  | ingestMotionDatagram datagram =>
    simp only [step, exec, ingestMotionDatagram, ingestMotionSamples_activeRecording,
      frameOf?_metrics]
    rfl
  | setMode mode nowNs =>
    simp only [step, exec, setMode, withRuntime, pushedMarkers]
    cases (self.runtime.setMode mode).1 with
    | error e => exact hquiet
    | ok _ => rfl
  | createMapping req nowNs id =>
    simp only [step, exec, void, createMapping, withRuntime, pushedMarkers]
    generalize self.runtime.createMapping req nowNs id = created
    obtain ⟨result, runtime⟩ := created
    cases result with
    | error e => exact hquiet
    | ok mappingId =>
      dsimp only [Except.mapError]
      cases runtime.mappings.get? mappingId with
      | none => exact hquiet
      | some m => rfl
  | updateMapping mappingId req nowNs =>
    simp only [step, exec, updateMapping, withRuntime, pushedMarkers]
    generalize self.runtime.updateMapping mappingId req nowNs = updated
    obtain ⟨result, runtime⟩ := updated
    cases result with
    | error e => exact hquiet
    | ok _ =>
      dsimp only [Except.mapError]
      cases runtime.mappings.get? mappingId with
      | none => exact hquiet
      | some m => rfl
  | removeMapping mappingId nowNs =>
    simp only [step, exec, removeMapping, withRuntime, pushedMarkers]
    cases (self.runtime.removeMapping mappingId).1 with
    | error e => exact hquiet
    | ok _ => rfl
  | setMappingLock mappingId lock nowNs =>
    simp only [step, exec, setMappingLock, withRuntime, pushedMarkers]
    cases (self.runtime.setMappingLock mappingId lock).1 with
    | error e => exact hquiet
    | ok _ => rfl
  | resetSceneToBaseline sceneId =>
    simp only [step, exec, void, resetSceneToBaseline, baselineCall]
    split <;> exact hquiet
  | commitSceneBaseline sceneId =>
    simp only [step, exec, void, commitSceneBaseline, baselineCall]
    split <;> exact hquiet
  | commitObjectBaseline sceneId objectId =>
    simp only [step, exec, void, commitObjectBaseline, baselineCall]
    split <;> exact hquiet
  | setMasterVideoDescriptor descriptor =>
    simp only [step, exec, setMasterVideoDescriptor]
    split <;> exact hquiet
  | createVideoOffer deviceId results =>
    simp only [step, exec, void]
    rw [createVideoOffer_frame]
    exact hquiet
  | handleVideoSignal deviceId payload results =>
    simp only [step, exec, void]
    rw [handleVideoSignal_frame]
    exact hquiet
  | pushSignalingMessage message =>
    simp only [step, exec]
    rw [pushSignalingMessage_frame]
    exact hquiet
  | drainSignalingMessages deviceId =>
    simp only [step, exec, void, drainSignalingMessages]
    split <;> exact hquiet
  | schedulerTick nowNs =>
    simp only [step, exec, schedulerTick]
    split <;> exact hquiet
  | loadScene | setActiveScene | setRunning => exact hquiet
  | discovered | transportConnected | helloExchanged | authenticate | register | sceneSynced
  | activate =>
    rw [handshake_frame self (by simp [ServerOp.sessionOf?]) (by simp)]
    exact hquiet
  | closeSession deviceId nowNs =>
    simp only [step, exec, closeSession]
    rw [changeSessionState_frame]
    exact hquiet

end Writer

section Reel

variable {self start final : ServerState F} {nowNs : Nat}

theorem writes_version (markers : List RecordingMarker) (frames : List (RecordedFrame F))
    (recording : ActiveRecording F)
    : (writes markers frames recording).writer.version = recording.writer.version := by
  simp [writes, RecordingWriter.pushFrames_version]

theorem writes_markers (markers : List RecordingMarker) (frames : List (RecordedFrame F))
    {recording : ActiveRecording F} (h : recording.writer.version = .v2)
    : (writes markers frames recording).writer.markers = recording.writer.markers ++ markers := by
  simp [writes, RecordingWriter.pushFrames_markers, RecordingWriter.pushMarkers_markers h]

def runMarkers (self : ServerState F) (ops : List (ServerOp F)) : List RecordingMarker :=
  (Run.log step self ops).flatMap fun p => p.1.pushedMarkers p.2

def runFrames (self : ServerState F) (ops : List (ServerOp F)) : List (RecordedFrame F) :=
  (Run.log step self ops).flatMap fun p => p.1.pushedFrames p.2

theorem activeRecording_run {ops : List (ServerOp F)}
    (hops : Run.AllSteps step (fun _ => DuringTake) self ops) {recording : ActiveRecording F}
    (h : self.activeRecording = some recording)
    : ∃ recording', (Run.run step self ops).activeRecording = some recording'
        ∧ recording'.writer.manifest.sceneId = recording.writer.manifest.sceneId
        ∧ recording'.writer.version = recording.writer.version
        ∧ recording'.writer.frames = recording.writer.frames ++ self.runFrames ops
        ∧ (recording.writer.version = .v2
            → recording'.writer.markers = recording.writer.markers ++ self.runMarkers ops) := by
  induction ops generalizing self recording with
  | nil =>
    refine ⟨recording, h, rfl, rfl, ?_, ?_⟩
    . simp [runFrames, Run.log]
    . simp [runMarkers, Run.log]
  | cons op ops ih =>
    obtain ⟨hop, hrest⟩ := hops
    have hstep := self.step_activeRecording hop
    rw [h, Option.map_some] at hstep
    obtain ⟨recording', hrecording', hscene, hversion, hframes, hmarkers⟩ := ih hrest hstep
    refine ⟨recording', hrecording', ?_, ?_, ?_, ?_⟩
    . rw [hscene, writes_sceneId]
    . rw [hversion, writes_version]
    . rw [hframes, writes_frames, List.append_assoc]
      rfl
    . intro hv2
      rw [hmarkers ((writes_version _ _ _).trans hv2), writes_markers _ _ hv2, List.append_assoc]
      rfl

section Start

variable {path : String} {recordingId id : Uuid}

theorem startRecording_eq_ok (h : self.startRecording path nowNs recordingId = (.ok id, start))
    : start.runtime = { self.runtime with mode := .recording }
        ∧ ∃ recording, start.activeRecording = some recording
          ∧ self.runtime.activeScene = some recording.writer.manifest.sceneId
          ∧ recording.writer.version = .v2
          ∧ recording.writer.frames = []
          ∧ recording.writer.markers
              = .modeTransition nowNs self.startMode .recording
                  :: seedMarkers start.runtime nowNs := by
  cases hscene : self.runtime.activeScene with
  | none =>
    rw [startRecording_of_none hscene] at h
    cases h
  | some activeScene =>
    rw [startRecording_of_some hscene] at h
    cases h
    refine ⟨rfl, _, rfl, ?_, ?_, ?_, ?_⟩
    . rw [RecordingWriter.pushMarkers_manifest]
      rfl
    . simp [RecordingWriter.pushMarker, RecordingWriter.start, RecordingWriter.startWithFormat]
    . simp [RecordingWriter.start, RecordingWriter.startWithFormat]
    . rw [RecordingWriter.pushMarkers_markers rfl]
      rfl

theorem mem_activeRecording_startRecording {recording : ActiveRecording F}
    (h : recording ∈ (self.step (.startRecording path nowNs recordingId)).activeRecording)
    : recording ∈ self.activeRecording
        ∨ (recording.writer.version = .v2
            ∧ recording.writer.markers
                = .modeTransition nowNs self.startMode .recording
                    :: seedMarkers (self.step (.startRecording path nowNs recordingId)).runtime
                      nowNs) := by
  have hstep : self.step (.startRecording path nowNs recordingId)
      = (self.startRecording path nowNs recordingId).2 := rfl
  rw [hstep] at h ⊢
  cases hscene : self.runtime.activeScene with
  | none =>
    rw [startRecording_of_none hscene] at h
    exact .inl h
  | some activeScene =>
    have hstart : self.startRecording path nowNs recordingId
        = (.ok recordingId, (self.startRecording path nowNs recordingId).2) := by
      rw [startRecording_of_some hscene]
    obtain ⟨-, recording', hrecording', -, hv2, -, hmarkers⟩ := startRecording_eq_ok hstart
    rw [hrecording'] at h
    cases h
    exact .inr ⟨hv2, hmarkers⟩

end Start

def finished? (self : ServerState F) (nowNs : Nat) : Option (RecordingWriter F) :=
  self.activeRecording.map fun recording =>
    recording.writer.pushMarker (.modeTransition nowNs .recording .live)

theorem stopRecording_eq_ok {written : Except String Unit} {manifest : RecordingManifest}
    (h : self.stopRecording nowNs written = (.ok manifest, final))
    : ∃ recording, self.activeRecording = some recording ∧ manifest = recording.writer.manifest
        ∧ final.runtime = { self.runtime with mode := .live } := by
  have hset : self.runtime.setMode .live = (.ok (), { self.runtime with mode := .live }) := by
    unfold RuntimeCore.setMode
    cases self.runtime.mode <;> rfl
  unfold stopRecording at h
  split at h
  . cases h
  . next recording hrecording =>
    unfold RecordingWriter.finish at h
    cases written with
    | error e => cases h
    | ok _ =>
      simp only [withRuntime, hset, Except.mapError] at h
      cases h
      refine ⟨recording, hrecording, ?_, rfl⟩
      exact RecordingWriter.pushMarkers_manifest recording.writer
        [.modeTransition nowNs .recording .live]

end Reel

section Split

theorem isSome_heldFrames (self : ServerState F)
    : self.heldFrames.isSome = self.activeRecording.isSome := by
  simp [heldFrames]

theorem activeRecording_stopRecording (self : ServerState F) (nowNs : Nat) (written : Except String Unit)
    : (self.step (.stopRecording nowNs written)).activeRecording = none := by
  have hheld := (self.step_frame (.stopRecording nowNs written)).2.2
  rw [← Option.not_isSome_iff_eq_none, ← isSome_heldFrames, hheld]
  simp [heldAfter]

theorem isSome_activeRecording_of_step {self : ServerState F} {op : ServerOp F}
    (h : (self.step op).activeRecording.isSome = true) (hop : DuringTake op)
    : self.activeRecording.isSome = true := by
  rwa [self.step_activeRecording hop, Option.isSome_map] at h

def HasScene (self : ServerState F) : Prop :=
  self.activeRecording.isSome = true → self.runtime.activeScene.isSome = true

theorem succeeds_startRecording (self : ServerState F) (path : String) (nowNs : Nat)
    (recordingId : Uuid)
    : self.succeeds (.startRecording path nowNs recordingId)
        =
      self.runtime.activeScene.isSome := by
  have hexec : self.exec (.startRecording path nowNs recordingId)
      = void (self.startRecording path nowNs recordingId) := rfl
  unfold succeeds
  cases hscene : self.runtime.activeScene with
  | none =>
    rw [hexec, startRecording_of_none hscene]
    rfl
  | some activeScene =>
    rw [hexec, startRecording_of_some hscene]
    rfl

theorem isSome_activeScene_step {self : ServerState F}
    (h : self.runtime.activeScene.isSome = true) (op : ServerOp F)
    : (self.step op).runtime.activeScene.isSome = true := by
  rw [(self.step_frame op).2.1]
  apply Run.run_invariant (P := fun s : RuntimeCore F => s.activeScene.isSome = true)
    (C := fun _ _ => True)
  . intro s runtimeOp hs _
    rw [RuntimeCore.step_activeScene]
    unfold RuntimeCore.activeSceneAfter
    split
    . split
      . rfl
      . exact hs
    . split
      . rfl
      . exact hs
    . exact hs
  . exact h
  . exact Run.allSteps_true RuntimeCore.step _

theorem HasScene.of_startRecording {self : ServerState F} (h : self.HasScene) {path : String}
    {nowNs : Nat} {recordingId : Uuid}
    (hrecording : (self.step (.startRecording path nowNs recordingId)).activeRecording.isSome = true)
    : self.runtime.activeScene.isSome = true := by
  cases hscene : self.runtime.activeScene with
  | some activeScene => rfl
  | none =>
    have hstep : self.step (.startRecording path nowNs recordingId)
        = (self.startRecording path nowNs recordingId).2 := rfl
    rw [hstep, startRecording_of_none hscene] at hrecording
    rw [← hscene]
    exact h hrecording

theorem hasScene_step {self : ServerState F} (h : self.HasScene) (op : ServerOp F)
    : (self.step op).HasScene := by
  intro hrecording
  apply isSome_activeScene_step
  cases op with
  | startRecording path nowNs recordingId => exact h.of_startRecording hrecording
  | stopRecording nowNs written =>
    rw [activeRecording_stopRecording] at hrecording
    cases hrecording
  | _ => exact h (isSome_activeRecording_of_step hrecording trivial)

theorem hasScene_run (config : ServerConfig) (ops : List (ServerOp F))
    : (Run.run step (new config) ops).HasScene := by
  apply Run.run_invariant (P := HasScene) (C := fun _ _ => True)
  . intro s op h _
    exact hasScene_step h op
  . intro h
    cases h
  . exact Run.allSteps_true step ops

/--
A run that ends in a take: the call that has started the recording, and the calls since.
-/
structure Take (config : ServerConfig) (ops : List (ServerOp F)) where
  before : List (ServerOp F)
  path : String
  nowNs : Nat
  recordingId : Uuid
  calls : List (ServerOp F)
  ops_eq : ops = before ++ .startRecording path nowNs recordingId :: calls
  started
    : (Run.run step (new config) before).succeeds (.startRecording path nowNs recordingId) = true
  during : ∀ op ∈ calls, DuringTake op

namespace Take

variable {config : ServerConfig} {ops : List (ServerOp F)}

def append (take : Take config ops) {op : ServerOp F} (hop : DuringTake op)
    : Take config (ops ++ [op]) where
  before := take.before
  path := take.path
  nowNs := take.nowNs
  recordingId := take.recordingId
  calls := take.calls ++ [op]
  ops_eq := by
    conv => lhs; rw [take.ops_eq]
    rw [List.append_assoc, List.cons_append]
  started := take.started
  during := by
    intro op' hop'
    rcases List.mem_append.mp hop' with hcalls | hlast
    . exact take.during op' hcalls
    . rw [List.mem_singleton.mp hlast]
      exact hop

theorem nonempty_of_activeRecording
    (h : (Run.run step (new config) ops).activeRecording.isSome = true)
    : Nonempty (Take config ops) := by
  -- from the end of the run back to the last call that has started a recording
  induction ops using List.reverseRecOn with
  | nil => cases h
  | append_singleton ops op ih =>
    rw [Run.run_append, Run.run_cons, Run.run_nil] at h
    cases op with
    | startRecording path nowNs recordingId =>
      refine ⟨ops, path, nowNs, recordingId, [], rfl, ?_, by simp⟩
      rw [succeeds_startRecording]
      exact (hasScene_run config ops).of_startRecording h
    | stopRecording nowNs written =>
      rw [activeRecording_stopRecording] at h
      cases h
    | _ =>
      obtain ⟨take⟩ := ih (isSome_activeRecording_of_step h trivial)
      exact ⟨take.append trivial⟩

theorem nonempty_of_stopRecording {nowNs : Nat} {written : Except String Unit}
    {manifest : RecordingManifest} {final : ServerState F}
    (h : (Run.run step (new config) ops).stopRecording nowNs written = (.ok manifest, final))
    : Nonempty (Take config ops) := by
  obtain ⟨recording, hrecording, -⟩ := stopRecording_eq_ok h
  apply nonempty_of_activeRecording
  rw [hrecording]
  rfl

def opening (take : Take config ops) : ServerState F := Run.run step (new config) take.before

def start (take : Take config ops) : ServerState F :=
  take.opening.step (.startRecording take.path take.nowNs take.recordingId)

theorem run_eq (take : Take config ops)
    : Run.run step (new config) ops = Run.run step take.start take.calls := by
  conv => lhs; rw [take.ops_eq]
  rw [Run.run_append, Run.run_cons]
  rfl

theorem startRecording_eq (take : Take config ops)
    : take.opening.startRecording take.path take.nowNs take.recordingId
        =
      (.ok take.recordingId, take.start) := by
  have hstep : take.start
      = (take.opening.startRecording take.path take.nowNs take.recordingId).2 := rfl
  have hstarted := take.started
  rw [succeeds_startRecording] at hstarted
  obtain ⟨activeScene, hscene⟩ := Option.isSome_iff_exists.mp hstarted
  have hopening : take.opening.runtime.activeScene = some activeScene := hscene
  rw [hstep, startRecording_of_some hopening]

end Take

end Split

end ServerState

end MotionStage
