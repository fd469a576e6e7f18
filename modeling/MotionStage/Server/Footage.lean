import MotionStage.Server.Capture

/-!
This module contains what the entries of a frame stand for: the mappings that the runtime has
resolved for the updates of the batch, and the scene that their objects belong to.
-/

namespace MotionStage

variable {F : Floats}

open RuntimeCore (switchScene switchRequest)

namespace RuntimeCore

/--
The mappings that the loop of `apply_updates` resolves, one after the other, each in the state that
the updates before it have left.
-/
def resolvedLoop (deviceId : Uuid) (activeScene : SceneId)
    : RuntimeCore F → List (AttributeUpdate F) → Applied F → List Mapping
  | _, [], _ => []
  | self, update :: updates, applied =>
    match self.route deviceId activeScene update.outputAttribute,
      applyUpdate deviceId activeScene self update applied with
    | some m, .ok (applied, self) => m :: resolvedLoop deviceId activeScene self updates applied
    | some m, .error _ => [m]
    | none, _ => []

def resolved (self : RuntimeCore F) (deviceId : Uuid) (updates : List (AttributeUpdate F))
    (nowNs : Nat) : List Mapping :=
  let self := self.heartbeat deviceId nowNs
  if self.mode = .idle then
    []
  else
    match self.activeScene with
    | none => []
    | some activeScene => resolvedLoop deviceId activeScene self updates .empty

section Resolved

variable {deviceId : Uuid} {activeScene : SceneId}

theorem resolvedLoop_spec {self : RuntimeCore F} {updates : List (AttributeUpdate F)}
    {applied : Applied F}
    (h : (applyUpdatesLoop deviceId activeScene self updates applied).1.isOk = true)
    : List.Forall₂
        (fun update m => self.route deviceId activeScene update.outputAttribute = some m) updates
        (resolvedLoop deviceId activeScene self updates applied) := by
  induction updates generalizing self applied with
  | nil => exact .nil
  | cons update updates ih =>
    simp only [applyUpdatesLoop] at h
    cases hstep : applyUpdate deviceId activeScene self update applied with
    | error e =>
      rw [hstep] at h
      cases h
    | ok next =>
      obtain ⟨applied', self'⟩ := next
      rw [hstep] at h
      obtain ⟨m, -, hroute, -⟩ := applyUpdate_spec hstep
      simp only [resolvedLoop, hroute, hstep]
      refine .cons hroute ?_
      have hrest := ih h
      rwa [(drifted_applyUpdate hstep).route_eq] at hrest

theorem resolved_spec {self : RuntimeCore F} (hscene : self.activeScene = some activeScene)
    (hmode : self.mode ≠ .idle) {updates : List (AttributeUpdate F)} {nowNs : Nat}
    (h : (self.applyUpdates deviceId updates nowNs).1.isOk = true)
    : List.Forall₂
        (fun update m => (self.heartbeat deviceId nowNs).route deviceId activeScene
          update.outputAttribute = some m)
        updates (self.resolved deviceId updates nowNs) := by
  rw [applyUpdates_of_activeScene hmode hscene] at h
  have hscene' : (self.heartbeat deviceId nowNs).activeScene = some activeScene := hscene
  have hmode' : (self.heartbeat deviceId nowNs).mode ≠ .idle := hmode
  unfold resolved
  dsimp only
  rw [if_neg hmode', hscene']
  exact resolvedLoop_spec h

end Resolved

def hasObject (self : RuntimeCore F) (sceneId : SceneId) (objectId : ObjectId) : Bool :=
  ((self.scenes.get? sceneId).bind fun scene => scene.objects.get? objectId).isSome

theorem hasObject_of_attributeAt {self : RuntimeCore F} {t : Target}
    (h : (self.attributeAt t).isSome = true)
    : self.hasObject t.scene t.object = true := by
  obtain ⟨attr, hattr⟩ := Option.isSome_iff_exists.mp h
  obtain ⟨scene, hscene, hattr⟩ := Option.bind_eq_some_iff.mp hattr
  obtain ⟨object, hobject, -⟩ := Option.bind_eq_some_iff.mp hattr
  rw [hasObject, hscene, Option.bind_some, hobject]
  rfl

theorem hasObject_writeCurrent (self : RuntimeCore F) (t : Target) (v : AttributeValue F)
    (sceneId : SceneId) (objectId : ObjectId)
    : (self.writeCurrent t v).hasObject sceneId objectId = self.hasObject sceneId objectId := by
  simp only [hasObject, writeCurrent, IndexMap.get?_modify]
  split
  . cases self.scenes.get? sceneId with
    | none => rfl
    | some scene =>
      simp only [Option.map_some, Option.bind_some, IndexMap.get?_modify]
      split
      . rw [Option.isSome_map]
      . rfl
  . rfl

theorem hasObject_applyUpdates (self : RuntimeCore F) (deviceId : Uuid)
    (updates : List (AttributeUpdate F)) (nowNs : Nat) (sceneId : SceneId) (objectId : ObjectId)
    : (self.applyUpdates deviceId updates nowNs).2.hasObject sceneId objectId
        =
      self.hasObject sceneId objectId := by
  apply applyUpdates_invariant
    (P := fun s => s.hasObject sceneId objectId = self.hasObject sceneId objectId)
  . intro s n h
    exact h
  . intro s activeScene output m v _ h
    rw [hasObject_writeCurrent]
    exact h
  . rfl

end RuntimeCore

def ServerOp.motion? : ServerOp F → Option (Uuid × List (AttributeUpdate F) × Nat)
  | .ingestMotionSamples deviceId updates timestampNs => some (deviceId, updates, timestampNs)
  | .ingestMotionDatagram datagram =>
    some (datagram.deviceId, datagram.updates, datagram.timestampNs)
  | _ => none

namespace ServerState

variable {self : ServerState F} {deviceId : Uuid} {updates : List (AttributeUpdate F)}
  {timestampNs : Nat}

theorem ingestMotionSamples_of_frameOf? {frame : RecordedFrame F}
    (h : self.frameOf? deviceId updates timestampNs = some frame)
    : (self.ingestMotionSamples deviceId updates timestampNs).1 = .ok () := by
  unfold frameOf? at h
  unfold ingestMotionSamples
  generalize self.applyMotion deviceId updates timestampNs = motion at h ⊢
  obtain ⟨result, applied⟩ := motion
  cases result with
  | error e => cases h
  | ok values =>
    dsimp only at h ⊢
    cases hframe : applied.maybeRecordedFrame deviceId updates timestampNs with
    | error e =>
      rw [hframe] at h
      cases h
    | ok recorded => cases recorded <;> rfl

theorem ingestMotionSamples_runtime
    : (self.ingestMotionSamples deviceId updates timestampNs).2.runtime
        =
      (self.runtime.applyUpdates deviceId updates timestampNs).2 :=
  (self.ingestMotionSamples_effect deviceId updates timestampNs).runtime

/--
The recorder finds the mappings that the runtime has resolved: a batch that the runtime takes is
recorded, with one entry for each update under the target that the runtime has resolved for it.
-/
theorem frame_of_resolved {recording : ActiveRecording F}
    (hrecording : self.activeRecording = some recording) (hmode : self.runtime.mode ≠ .idle)
    (hok : (self.runtime.applyUpdates deviceId updates timestampNs).1.isOk = true)
    : let after := (self.ingestMotionSamples deviceId updates timestampNs).2
      (self.ingestMotionSamples deviceId updates timestampNs).1 = .ok ()
        ∧ ∃ recording' frame, after.activeRecording = some recording'
          ∧ recording'.writer.frames = recording.writer.frames ++ [frame]
          ∧ (self.runtime.resolved deviceId updates timestampNs).length = updates.length
          ∧ List.Forall₂
              (fun m entry => entry.objectId = m.targetObject ∧ entry.attr = m.targetAttribute
                ∧ after.runtime.currentAt m.target = some entry.value)
              (self.runtime.resolved deviceId updates timestampNs) frame.attributes := by
  intro after
  cases hscene : self.runtime.activeScene with
  | none =>
    rw [RuntimeCore.applyUpdates_of_noScene hmode hscene] at hok
    cases hok
  | some activeScene =>
    have hframed : self.runtime.framed deviceId activeScene updates = true := by
      rw [RuntimeCore.framed, if_neg hmode]
      exact ((RuntimeCore.isOk_applyUpdates hscene updates timestampNs).mp hok).resolve_left hmode
    have hsome : (self.frameOf? deviceId updates timestampNs).isSome = true :=
      isSome_frameOf?_iff.mpr ⟨by rw [hrecording]; rfl, activeScene, hscene, hframed⟩
    obtain ⟨frame, hframe⟩ := Option.isSome_iff_exists.mp hsome
    obtain ⟨-, -, -, -, activeScene', hscene', hentries⟩ := frameOf?_eq_some_iff.mp hframe
    rw [hscene] at hscene'
    cases hscene'
    have hresolved := RuntimeCore.resolved_spec hscene hmode hok
    refine ⟨ingestMotionSamples_of_frameOf? hframe, writes [] [frame] recording, frame, ?_, ?_,
      hresolved.length_eq.symm, ?_⟩
    . simp only [after, ingestMotionSamples_activeRecording, hframe, hrecording]
      rfl
    . exact writes_frames [] [frame] recording
    . apply Traverse.forall₂_comp hresolved.flip hentries
      rintro m update entry hm ⟨m', hroute, hobject, hattr, hvalue⟩
      -- the heartbeat in front of the loop leaves the targets as they are
      have hbeat : m = m'.beat deviceId timestampNs := by
        have hm' : (self.runtime.heartbeat deviceId timestampNs).route deviceId activeScene
            update.outputAttribute = some m := hm
        rw [RuntimeCore.route_heartbeat, hroute, Option.map_some, Option.some.injEq] at hm'
        exact hm'.symm
      obtain ⟨-, htarget, -⟩ := m'.beat_keeps deviceId timestampNs
      rw [← hbeat] at htarget
      have hfields := htarget
      simp only [Mapping.target, Target.mk.injEq] at hfields
      refine ⟨hobject.trans hfields.2.1.symm, hattr.trans hfields.2.2.symm, ?_⟩
      rw [htarget, ingestMotionSamples_runtime]
      exact hvalue

theorem entries_eq_map {runtime : RuntimeCore F} {mappings : List Mapping}
    {entries : List (RecordedAttribute F)}
    (h : List.Forall₂
      (fun m entry => entry.objectId = m.targetObject ∧ entry.attr = m.targetAttribute
        ∧ runtime.currentAt m.target = some entry.value) mappings entries)
    : entries.map some
        =
      mappings.map fun m => (runtime.currentAt m.target).map fun value =>
        ⟨m.targetObject, m.targetAttribute, value⟩ := by
  induction h with
  | nil => rfl
  | @cons m entry mappings entries hentry hrest ih =>
    obtain ⟨hobject, hattr, hvalue⟩ := hentry
    rw [List.map_cons, List.map_cons, ih, hvalue, ← hobject, ← hattr]
    rfl

/--
Device 7 drives both switches of the panel, and a recording has begun.
-/
def panelStart : ServerState Floats.rational :=
  ((Run.run step (new .default)
    [.setRunning true, .loadScene (switchScene _), .createMapping (switchRequest 7 "left") 10 100,
      .createMapping { switchRequest 7 "right" with sourceOutput := "lever" } 10 101,
      .setMode .live 11]).startRecording "take.cmtrk" 13 50).2

def panelBatch : List (AttributeUpdate Floats.rational) :=
  [⟨"button", .bool true⟩, ⟨"lever", .bool true⟩, ⟨Uuid.display 7 ++ ".button", .bool false⟩]

/--
The left switch comes twice, under both names of its output, and has two entries.
-/
theorem frame_of_resolved_panel
    : ∃ recording' frame,
        (panelStart.ingestMotionSamples 7 panelBatch 14).2.activeRecording = some recording'
          ∧ recording'.writer.frames = [frame]
          ∧ frame.attributes
            = [⟨2, "left", .bool false⟩, ⟨2, "right", .bool true⟩, ⟨2, "left", .bool false⟩] := by
  obtain ⟨-, recording', frame, hrecording, hframes, -, hentries⟩ :=
    @frame_of_resolved _ panelStart 7 panelBatch 14 _ rfl (by decide) rfl
  refine ⟨recording', frame, hrecording, hframes, ?_⟩
  have hsome : frame.attributes.map some = List.map some
      [⟨2, "left", .bool false⟩, ⟨2, "right", .bool true⟩, ⟨2, "left", .bool false⟩] :=
    entries_eq_map hentries
  exact List.map_injective_iff.mpr (Option.some_injective _) hsome

def FramesBelong (sceneId : SceneId) (self : ServerState F) (op : ServerOp F) : Prop :=
  ∀ frame ∈ self.pushedFrames op, ∀ entry ∈ frame.attributes,
    (self.step op).runtime.hasObject sceneId entry.objectId = true

/--
Motion is recorded while the scene is active, or it moves objects that the scene has as well.
-/
def StaysOnScene (sceneId : SceneId) (self : ServerState F) (op : ServerOp F) : Prop :=
  ∀ deviceId updates timestampNs, op.motion? = some (deviceId, updates, timestampNs)
    → ∀ activeScene, self.runtime.activeScene = some activeScene → activeScene ≠ sceneId
    → self.runtime.framed deviceId activeScene updates = true
    → ∀ update ∈ updates, ∀ m,
        self.runtime.route deviceId activeScene update.outputAttribute = some m
        → self.runtime.hasObject sceneId m.targetObject = true

theorem pushedFrames_of_motion? (self : ServerState F) {op : ServerOp F}
    (h : op.motion? = some (deviceId, updates, timestampNs))
    : self.pushedFrames op = (self.frameOf? deviceId updates timestampNs).toList
        ∧ (self.step op).runtime
            = (self.runtime.applyUpdates deviceId updates timestampNs).2 := by
  cases op with
  | ingestMotionSamples deviceId' updates' timestampNs' =>
    cases h
    exact ⟨rfl, ingestMotionSamples_runtime⟩
  | ingestMotionDatagram datagram =>
    cases h
    exact ⟨rfl, ingestMotionSamples_runtime⟩
  | _ => cases h

theorem pushedFrames_of_no_motion {op : ServerOp F} (h : op.motion? = none)
    : self.pushedFrames op = [] := by
  cases op with
  | ingestMotionSamples deviceId' updates' timestampNs' => cases h
  | ingestMotionDatagram datagram => cases h
  | _ => rfl

theorem framesBelong_iff {sceneId : SceneId} {op : ServerOp F}
    (hrecording : self.activeRecording.isSome = true)
    : self.FramesBelong sceneId op ↔ self.StaysOnScene sceneId op := by
  cases hmotion : op.motion? with
  | none =>
    constructor
    . intro _ deviceId updates timestampNs hbatch
      rw [hmotion] at hbatch
      cases hbatch
    . intro _ frame hframe
      rw [pushedFrames_of_no_motion hmotion] at hframe
      cases hframe
  | some batch =>
    obtain ⟨deviceId, updates, timestampNs⟩ := batch
    obtain ⟨hframes, hruntime⟩ := self.pushedFrames_of_motion? hmotion
    constructor
    . intro h deviceId' updates' timestampNs' hbatch activeScene hscene _ hframed update hupdate m
        hroute
      rw [hmotion] at hbatch
      cases hbatch
      have hsome : (self.frameOf? deviceId updates timestampNs).isSome = true :=
        isSome_frameOf?_iff.mpr ⟨hrecording, activeScene, hscene, hframed⟩
      obtain ⟨frame, hframe⟩ := Option.isSome_iff_exists.mp hsome
      obtain ⟨-, -, -, -, activeScene', hscene', hentries⟩ := frameOf?_eq_some_iff.mp hframe
      rw [hscene] at hscene'
      cases hscene'
      obtain ⟨entry, hentry, m', hroute', hobject, -⟩ :=
        Traverse.forall₂_left hentries update hupdate
      rw [hroute] at hroute'
      cases hroute'
      have hbelongs := h frame (by rw [hframes, hframe]; exact List.mem_singleton_self frame) entry
        hentry
      rwa [hruntime, RuntimeCore.hasObject_applyUpdates, hobject] at hbelongs
    . intro h frame hframe entry hentry
      rw [hframes, Option.mem_toList] at hframe
      obtain ⟨-, activeScene, hscene, hframed⟩ := isSome_frameOf?_iff.mp (by rw [hframe]; rfl)
      obtain ⟨-, -, -, -, activeScene', hscene', hentries⟩ := frameOf?_eq_some_iff.mp hframe
      rw [hscene] at hscene'
      cases hscene'
      obtain ⟨update, hupdate, m, hroute, hobject, -, -⟩ :=
        Traverse.forall₂_right hentries entry hentry
      rw [hruntime, RuntimeCore.hasObject_applyUpdates, hobject]
      by_cases hsame : activeScene = sceneId
      . -- the update has been routed to an attribute of the active scene
        have hattr := RuntimeCore.recordable_of_framed hframed update hupdate
        rw [RuntimeCore.recordable, hroute] at hattr
        rw [← hsame, ← (RuntimeCore.route_spec hroute).2.2.2]
        exact RuntimeCore.hasObject_of_attributeAt hattr
      . exact h _ _ _ hmotion activeScene hscene hsame hframed update hupdate m hroute

theorem framesBelong_take_iff {start final : ServerState F} {path : String} {nowNs stopNs : Nat}
    {recordingId id : Uuid} {written : Except String Unit} {manifest : RecordingManifest}
    {ops : List (ServerOp F)}
    (hstart : self.startRecording path nowNs recordingId = (.ok id, start))
    (hops : Run.AllSteps step (fun _ => DuringTake) start ops)
    (hstop : (Run.run step start ops).stopRecording stopNs written = (.ok manifest, final))
    : ∃ writer, (Run.run step start ops).finished? stopNs = some writer
        ∧ writer.manifest = manifest
        ∧ writer.frames = (Run.log step start ops).flatMap (fun p => p.1.pushedFrames p.2)
        ∧ ((∀ p ∈ Run.log step start ops, p.1.FramesBelong manifest.sceneId p.2)
            ↔ Run.AllSteps step (StaysOnScene manifest.sceneId) start ops) := by
  obtain ⟨-, recording, hrecording, -, -, hnone, -⟩ := startRecording_eq_ok hstart
  obtain ⟨recording', hrecording', -, -, hframes, -⟩ := activeRecording_run hops hrecording
  obtain ⟨recording'', hrecording'', hmanifest, -⟩ := stopRecording_eq_ok hstop
  rw [hrecording'] at hrecording''
  cases hrecording''
  refine ⟨_, by rw [finished?, hrecording']; rfl, ?_, ?_, ?_⟩
  . rw [hmanifest]
    exact RecordingWriter.pushMarkers_manifest recording'.writer
      [.modeTransition stopNs .recording .live]
  . rw [RecordingWriter.pushMarker_frames, hframes, hnone, List.nil_append]
    rfl
  . rw [← Run.allSteps_iff_log]
    apply Run.allSteps_iff_of_invariant (P := fun s => s.activeRecording.isSome = true)
      (D := fun _ => DuringTake)
    . intro s op hrecording _
      exact framesBelong_iff hrecording
    . intro s op hrecording hop _
      rw [s.step_activeRecording hop, Option.isSome_map]
      exact hrecording
    . rw [hrecording]
      rfl
    . exact hops

theorem framesBelong_run_iff {config : ServerConfig} {ops : List (ServerOp F)} {stopNs : Nat}
    {written : Except String Unit} {manifest : RecordingManifest} {final : ServerState F}
    (hstop : (Run.run step (new config) ops).stopRecording stopNs written = (.ok manifest, final))
    : ∃ (take : Take config ops) (writer : RecordingWriter F),
        (Run.run step (new config) ops).finished? stopNs = some writer
          ∧ writer.manifest = manifest
          ∧ writer.frames
              = (Run.log step take.start take.calls).flatMap (fun p => p.1.pushedFrames p.2)
          ∧ ((∀ p ∈ Run.log step take.start take.calls, p.1.FramesBelong manifest.sceneId p.2)
              ↔ Run.AllSteps step (StaysOnScene manifest.sceneId) take.start take.calls) := by
  obtain ⟨take⟩ := Take.nonempty_of_stopRecording hstop
  refine ⟨take, ?_⟩
  rw [take.run_eq] at hstop ⊢
  exact framesBelong_take_iff take.startRecording_eq (Run.allSteps_of_forall step take.during) hstop

/--
A stage with two scenes that share nothing. Device 8 drives a switch of the scene that is not
active.
-/
def twoStages : List (ServerOp Floats.rational) :=
  [.loadScene (switchScene _),
    .loadScene ((Scene.new 3 "backstage").withObject
      ((SceneObject.new 4 "panel").withAttribute (.new "left" (.bool false)))),
    .createMapping { switchRequest 8 "left" with targetScene := 3, targetObject := 4 } 10 101]

def backstageMotion : List (ServerOp Floats.rational) :=
  [.setActiveScene 3, .ingestMotionSamples 8 [⟨"button", .bool true⟩] 14]

def backstageTake
    : Take .default (twoStages ++ .startRecording "take.cmtrk" 13 50 :: backstageMotion) where
  before := twoStages
  path := "take.cmtrk"
  nowNs := 13
  recordingId := 50
  calls := backstageMotion
  ops_eq := rfl
  started := rfl
  during := by simp [backstageMotion, DuringTake]

theorem framesBelong_run_iff_twoStages
    : ∃ (take : Take .default (twoStages ++ .startRecording "take.cmtrk" 13 50 :: backstageMotion))
        (writer : RecordingWriter Floats.rational), writer.manifest.sceneId = 1
          ∧ ((∀ p ∈ Run.log step take.start take.calls, p.1.FramesBelong 1 p.2)
              ↔ Run.AllSteps step (StaysOnScene 1) take.start take.calls) := by
  have hstop : (Run.run step (new .default)
      (twoStages ++ .startRecording "take.cmtrk" 13 50 :: backstageMotion)).stopRecording 15 (.ok ())
      = (.ok _, _) := rfl
  obtain ⟨take, writer, -, hmanifest, -, hiff⟩ := framesBelong_run_iff hstop
  refine ⟨take, writer, ?_, hiff⟩
  rw [hmanifest]
  rfl

/--
The recording of the first scene ends up with an object of the second.
-/
theorem framesBelong_fails
    : ((Run.run step backstageTake.start backstageTake.calls).stopRecording 15 (.ok ())).1.isOk = true
        ∧ ((Run.run step backstageTake.start backstageTake.calls).finished? 15).map
            (fun writer => writer.manifest.sceneId) = some 1
        ∧ ¬ ∀ p ∈ Run.log step backstageTake.start backstageTake.calls, p.1.FramesBelong 1 p.2 := by
  refine ⟨rfl, rfl, ?_⟩
  intro h
  have hlast := h _ (List.mem_cons_of_mem _ List.mem_cons_self)
  have hobject := hlast _ (List.mem_singleton.mpr rfl) _ (List.mem_singleton.mpr rfl)
  exact absurd hobject (by decide)

end ServerState

end MotionStage
