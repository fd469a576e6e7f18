import MotionStage.Core.Writes
import MotionStage.Data.Journal
import MotionStage.Server.Take

/-!
This module contains what a recording captures: when the frames of a take, replayed over the values
at its start, give the values that the scene of the take has.
-/

namespace MotionStage

variable {F : Floats}

def SceneAttribute.recorded? (attr : SceneAttribute F) : Option (AttributeValue F) :=
  if attr.recordEnabled then some attr.currentValue else none

namespace RuntimeCore

def recordedAt (self : RuntimeCore F) (t : Target) : Option (AttributeValue F) :=
  (self.attributeAt t).bind SceneAttribute.recorded?

theorem currentAt_of_recordedAt {self : RuntimeCore F} {t : Target} {v : AttributeValue F}
    (h : self.recordedAt t = some v)
    : self.currentAt t = some v := by
  obtain ⟨attr, hattr, hv⟩ := Option.bind_eq_some_iff.mp h
  unfold SceneAttribute.recorded? at hv
  split at hv
  . rw [currentAt, hattr]
    exact hv
  . cases hv

/--
The operations that do not get past a recording of the scene. Whatever they write to a recorded
attribute of the scene is either recorded, or the value that the attribute has anyway.
-/
def KeepsTake (sceneId : SceneId) (self : RuntimeCore F) : RuntimeOp F → Prop
  | .applyUpdates deviceId updates _ =>
    ∀ activeScene ∈ self.activeScene,
      if activeScene = sceneId then
        -- a batch that is rejected half way leaves no frame
        self.mode = .idle ∨ updates.all (self.accepts deviceId activeScene) = true
          ∨ ∀ object name attr,
              self.attributeAt ⟨sceneId, object, name⟩ = some attr → attr.recordEnabled = true →
              (self.settle deviceId activeScene ⟨sceneId, object, name⟩ attr
                (updates.takeWhile (self.accepts deviceId activeScene))).currentValue
                  =
                attr.currentValue
      else
        -- the frames of another scene must not name a recorded attribute of this one
        self.framed deviceId activeScene updates = true →
          ∀ update ∈ updates, ∀ m,
            self.route deviceId activeScene update.outputAttribute = some m →
            self.recordedAt ⟨sceneId, m.targetObject, m.targetAttribute⟩ = none
  | .resetSceneToBaseline reset =>
    reset = sceneId → ∀ object name attr,
      self.attributeAt ⟨sceneId, object, name⟩ = some attr → attr.recordEnabled = true →
      (BaselineSync.reset.sync attr).currentValue = attr.currentValue
  | .loadScene scene =>
    scene.id = sceneId → ∀ object name v,
      (scene.attributeAt object name).bind SceneAttribute.recorded? = some v →
      self.recordedAt ⟨sceneId, object, name⟩ = some v
  | _ => True

theorem recorded?_congr {attr attr' : SceneAttribute F}
    (hrecord : attr'.recordEnabled = attr.recordEnabled)
    (hvalue : attr.recordEnabled = true → attr'.currentValue = attr.currentValue)
    : attr'.recorded? = attr.recorded? := by
  unfold SceneAttribute.recorded?
  rw [hrecord]
  split
  . next henabled => rw [hvalue henabled]
  . rfl

theorem BaselineSync.reset_recordEnabled (attr : SceneAttribute F)
    : (reset.sync attr).recordEnabled = attr.recordEnabled := by
  unfold sync
  split <;> rfl

theorem BaselineSync.commit_recorded? (attr : SceneAttribute F)
    : (commit.sync attr).recorded? = attr.recorded? := by
  have hrecord : (commit.sync attr).recordEnabled = attr.recordEnabled := by
    unfold sync
    split <;> rfl
  exact recorded?_congr hrecord fun _ => commit_currentValue attr

theorem settle_recordEnabled {deviceId : Uuid} {activeScene : SceneId} (self : RuntimeCore F)
    (t : Target) (attr : SceneAttribute F) (updates : List (AttributeUpdate F))
    : (self.settle deviceId activeScene t attr updates).recordEnabled = attr.recordEnabled := by
  rw [(interchangeable_settle self t attr updates).1]

section Step

variable {s : RuntimeCore F} {sceneId : SceneId} {object : ObjectId} {name : String}

theorem recordedAt_step {op : RuntimeOp F} (hkeeps : s.KeepsTake sceneId op)
    (hop : ∀ deviceId updates nowNs, op ≠ .applyUpdates deviceId updates nowNs)
    {v : AttributeValue F} (h : (s.step op).recordedAt ⟨sceneId, object, name⟩ = some v)
    : s.recordedAt ⟨sceneId, object, name⟩ = some v := by
  by_cases hadmin : op.isAdministrative = true
  . rw [recordedAt, attributeAt_step hadmin] at h
    exact h
  . unfold recordedAt at h
    cases op with
    | applyUpdates deviceId updates nowNs => exact absurd rfl (hop _ _ _)
    | loadScene scene =>
      simp only [step, attributeAt_loadScene] at h
      split at h
      . next heq => exact hkeeps heq.symm object name v h
      . exact h
    | resetSceneToBaseline reset =>
      simp only [step, resetSceneToBaseline, attributeAt_syncScene] at h
      split at h
      . next heq =>
        cases hattr : s.attributeAt ⟨sceneId, object, name⟩ with
        | none =>
          rw [hattr] at h
          cases h
        | some attr =>
          rw [hattr] at h
          rw [recordedAt, hattr, ← h]
          exact (recorded?_congr (BaselineSync.reset_recordEnabled attr)
            (hkeeps heq.symm object name attr hattr)).symm
      . exact h
    | commitSceneBaseline scene =>
      simp only [step, commitSceneBaseline, attributeAt_syncScene] at h
      split at h
      . rw [Option.bind_map] at h
        simp only [Function.comp_def, BaselineSync.commit_recorded?] at h
        exact h
      . exact h
    | commitObjectBaseline scene objectId =>
      simp only [step, attributeAt_commitObjectBaseline] at h
      split at h
      . rw [Option.bind_map] at h
        simp only [Function.comp_def, BaselineSync.commit_recorded?] at h
        exact h
      . exact h
    | _ => exact absurd rfl hadmin

end Step

end RuntimeCore

/--
What a frame writes: the values of attributes, each under its object and its name.
-/
def RecordedFrame.journal (frame : RecordedFrame F)
    : List ((ObjectId × String) × AttributeValue F) :=
  frame.attributes.map fun entry => ((entry.objectId, entry.attr), entry.value)

open RuntimeCore (switchScene switchRequest)

namespace ServerState

def sceneValues (runtime : RuntimeCore F) (sceneId : SceneId) (key : ObjectId × String)
    : Option (AttributeValue F) :=
  runtime.currentAt ⟨sceneId, key.1, key.2⟩

/--
The values that the frames leave when they are replayed in order over the values of `start`.
-/
def replayed (start : RuntimeCore F) (sceneId : SceneId) (frames : List (RecordedFrame F))
    : ObjectId × String → Option (AttributeValue F) :=
  Journal.replay (sceneValues start sceneId) (frames.flatMap RecordedFrame.journal)

def TakeHolds (start : RuntimeCore F) (sceneId : SceneId) (frames : List (RecordedFrame F))
    (runtime : RuntimeCore F) : Prop :=
  ∀ object name v, runtime.recordedAt ⟨sceneId, object, name⟩ = some v →
    replayed start sceneId frames (object, name) = some v

/--
If the recording were stopped now, its frames would give the values of the scene in its manifest.
-/
def Captured (start self : ServerState F) : Prop :=
  ∀ recording ∈ self.activeRecording,
    TakeHolds start.runtime recording.writer.manifest.sceneId recording.writer.frames self.runtime

def KeepsCapture (self : ServerState F) (op : ServerOp F) : Prop :=
  ∀ recording ∈ self.activeRecording, ∀ runtimeOp ∈ self.runtimeOps op,
    self.runtime.KeepsTake recording.writer.manifest.sceneId runtimeOp

section Ingest

variable {start : RuntimeCore F} {sceneId : SceneId} {frames : List (RecordedFrame F)}
  {self : ServerState F} {deviceId : Uuid} {updates : List (AttributeUpdate F)}
  {timestampNs : Nat}

theorem replayed_append (frame : RecordedFrame F)
    : replayed start sceneId (frames ++ [frame])
        =
      Journal.replay (replayed start sceneId frames) frame.journal := by
  unfold replayed
  rw [List.flatMap_append, Journal.replay_append, List.flatMap_singleton]

theorem recordedAt_of_unrecorded (hrecording : self.activeRecording.isSome = true)
    (hkeeps : self.runtime.KeepsTake sceneId (.applyUpdates deviceId updates timestampNs))
    (hframe : self.frameOf? deviceId updates timestampNs = none) (object : ObjectId)
    (name : String)
    : (self.runtime.applyUpdates deviceId updates timestampNs).2.recordedAt ⟨sceneId, object, name⟩
        =
      self.runtime.recordedAt ⟨sceneId, object, name⟩ := by
  have hunframed : ¬ ∃ activeScene, self.runtime.activeScene = some activeScene
      ∧ self.runtime.framed deviceId activeScene updates = true := by
    intro h
    have hsome : (self.frameOf? deviceId updates timestampNs).isSome = true :=
      isSome_frameOf?_iff.mpr ⟨hrecording, h⟩
    rw [hframe] at hsome
    cases hsome
  have happlies := self.runtime.applies_applyUpdates deviceId updates timestampNs
  generalize self.runtime.applyUpdates deviceId updates timestampNs = r at happlies
  cases happlies with
  | idle => rfl
  | noScene => rfl
  | loop activeScene result after hmode hscene _ _ hattr =>
    simp only [RuntimeCore.recordedAt, hattr]
    cases ht : self.runtime.attributeAt ⟨sceneId, object, name⟩ with
    | none => rfl
    | some attr =>
      simp only [Option.map_some, Option.bind_some]
      apply RuntimeCore.recorded?_congr (RuntimeCore.settle_recordEnabled _ _ _ _)
      intro henabled
      have hscene' := hkeeps activeScene hscene
      split at hscene'
      . rcases hscene' with hidle | hall | hsettle
        . exact absurd hidle hmode
        . refine absurd ⟨activeScene, hscene, ?_⟩ hunframed
          rw [RuntimeCore.framed, if_neg hmode]
          exact hall
        . exact hsettle object name attr ht henabled
      . next hother =>
        -- the updates only reach the active scene
        rw [RuntimeCore.settle_eq_self]
        refine .inr ?_
        intro update _ m hroute
        exact RuntimeCore.target_ne_of_route hroute hother

theorem mem_journal {activeScene : SceneId} {after : RuntimeCore F} {frame : RecordedFrame F}
    (hentries : List.Forall₂ (Records self.runtime after deviceId activeScene) updates
      frame.attributes)
    {entry : (ObjectId × String) × AttributeValue F} (hentry : entry ∈ frame.journal)
    : ∃ update ∈ updates, ∃ m,
        self.runtime.route deviceId activeScene update.outputAttribute = some m
          ∧ entry.1 = (m.targetObject, m.targetAttribute)
          ∧ sceneValues after activeScene entry.1 = some entry.2 := by
  obtain ⟨recorded, hrecorded, rfl⟩ := List.mem_map.mp hentry
  obtain ⟨update, hupdate, m, hroute, hobject, hattr, hvalue⟩ :=
    Traverse.forall₂_right hentries recorded hrecorded
  refine ⟨update, hupdate, m, hroute, by rw [hobject, hattr], ?_⟩
  rw [sceneValues, hobject, hattr, ← (RuntimeCore.route_spec hroute).2.2.2]
  exact hvalue

theorem mem_keys_journal {activeScene : SceneId} {after : RuntimeCore F} {frame : RecordedFrame F}
    (hentries : List.Forall₂ (Records self.runtime after deviceId activeScene) updates
      frame.attributes)
    {update : AttributeUpdate F} (hupdate : update ∈ updates) {m : Mapping}
    (hroute : self.runtime.route deviceId activeScene update.outputAttribute = some m)
    : (m.targetObject, m.targetAttribute) ∈ frame.journal.map Prod.fst := by
  obtain ⟨recorded, hrecorded, m', hroute', hobject, hattr, -⟩ :=
    Traverse.forall₂_left hentries update hupdate
  rw [hroute] at hroute'
  cases hroute'
  rw [← hobject, ← hattr, RecordedFrame.journal, List.map_map]
  exact List.mem_map_of_mem hrecorded

theorem recordedAt_of_unrouted {activeScene : SceneId} {t : Target}
    (hscene : self.runtime.activeScene = some activeScene)
    (h : ∀ update ∈ updates, ∀ m,
      self.runtime.route deviceId activeScene update.outputAttribute = some m → m.target ≠ t)
    : (self.runtime.applyUpdates deviceId updates timestampNs).2.recordedAt t
        =
      self.runtime.recordedAt t := by
  rw [RuntimeCore.recordedAt, RuntimeCore.recordedAt, RuntimeCore.attributeAt_of_unrouted]
  intro activeScene' hscene'
  rw [Option.mem_def, hscene] at hscene'
  cases hscene'
  exact h

theorem takeHolds_frame {frame : RecordedFrame F}
    (hscene : self.runtime.activeScene = some sceneId)
    (hentries : List.Forall₂
      (Records self.runtime (self.runtime.applyUpdates deviceId updates timestampNs).2 deviceId
        sceneId)
      updates frame.attributes)
    (h : TakeHolds start sceneId frames self.runtime)
    : TakeHolds start sceneId (frames ++ [frame])
        (self.runtime.applyUpdates deviceId updates timestampNs).2 := by
  intro object name v hv
  have hcurrent : sceneValues (self.runtime.applyUpdates deviceId updates timestampNs).2
      sceneId (object, name) = some v := RuntimeCore.currentAt_of_recordedAt hv
  rw [replayed_append, ← hcurrent]
  apply Journal.replay_eq
  . intro entry hentry
    obtain ⟨_, _, _, _, _, hvalue⟩ := mem_journal hentries hentry
    exact hvalue
  . by_cases hkey : (object, name) ∈ frame.journal.map Prod.fst
    . exact .inl hkey
    . -- no update is routed to the attribute, so it has not moved
      refine .inr ?_
      rw [hcurrent]
      apply h
      rw [← hv, recordedAt_of_unrouted hscene]
      intro update hupdate m hroute htarget
      apply hkey
      have hmem := mem_keys_journal hentries hupdate hroute
      cases htarget
      exact hmem

theorem takeHolds_foreign_frame {frame : RecordedFrame F} {activeScene : SceneId}
    (hscene : self.runtime.activeScene = some activeScene) (hne : activeScene ≠ sceneId)
    (hentries : List.Forall₂
      (Records self.runtime (self.runtime.applyUpdates deviceId updates timestampNs).2 deviceId
        activeScene)
      updates frame.attributes)
    (hclash : ∀ update ∈ updates, ∀ m,
      self.runtime.route deviceId activeScene update.outputAttribute = some m →
      self.runtime.recordedAt ⟨sceneId, m.targetObject, m.targetAttribute⟩ = none)
    (h : TakeHolds start sceneId frames self.runtime)
    : TakeHolds start sceneId (frames ++ [frame])
        (self.runtime.applyUpdates deviceId updates timestampNs).2 := by
  intro object name v hv
  rw [recordedAt_of_unrouted hscene] at hv
  . rw [replayed_append, Journal.replay_of_not_mem]
    . exact h object name v hv
    . intro hkey
      obtain ⟨entry, hentry, hkey⟩ := List.mem_map.mp hkey
      obtain ⟨update, hupdate, m, hroute, hnamed, -⟩ := mem_journal hentries hentry
      have hnone := hclash update hupdate m hroute
      rw [hkey, Prod.mk.injEq] at hnamed
      rw [← hnamed.1, ← hnamed.2, hv] at hnone
      cases hnone
  . intro update _ m hroute
    exact RuntimeCore.target_ne_of_route hroute hne

theorem takeHolds_ingest (hrecording : self.activeRecording.isSome = true)
    (hkeeps : self.runtime.KeepsTake sceneId (.applyUpdates deviceId updates timestampNs))
    (h : TakeHolds start sceneId frames self.runtime)
    : TakeHolds start sceneId (frames ++ (self.frameOf? deviceId updates timestampNs).toList)
        (self.runtime.applyUpdates deviceId updates timestampNs).2 := by
  cases hframe : self.frameOf? deviceId updates timestampNs with
  | none =>
    intro object name v hv
    rw [recordedAt_of_unrecorded hrecording hkeeps hframe] at hv
    simpa using h object name v hv
  | some frame =>
    rw [Option.toList_some]
    obtain ⟨-, -, -, -, activeScene, hscene, hentries⟩ := frameOf?_eq_some_iff.mp hframe
    by_cases hsame : activeScene = sceneId
    . subst hsame
      exact takeHolds_frame hscene hentries h
    . have hclash := hkeeps activeScene hscene
      rw [if_neg hsame] at hclash
      apply takeHolds_foreign_frame hscene hsame hentries _ h
      apply hclash
      have hsome : (self.frameOf? deviceId updates timestampNs).isSome = true := by
        rw [hframe]
        rfl
      obtain ⟨-, activeScene', hscene', hframed⟩ := isSome_frameOf?_iff.mp hsome
      rw [hscene] at hscene'
      cases hscene'
      exact hframed

end Ingest

section Run

variable {start self : ServerState F} {op : ServerOp F}

theorem runtimeOps_duringTake (self : ServerState F) {op : ServerOp F} (hop : DuringTake op)
    : (self.runtimeOps op = [] ∧ self.pushedFrames op = [])
        ∨ (∃ runtimeOp, self.runtimeOps op = [runtimeOp] ∧ self.pushedFrames op = []
            ∧ ∀ deviceId updates nowNs, runtimeOp ≠ .applyUpdates deviceId updates nowNs)
        ∨ (∃ deviceId updates timestampNs,
            self.runtimeOps op = [.applyUpdates deviceId updates timestampNs]
              ∧ self.pushedFrames op
                  = (self.frameOf? deviceId updates timestampNs).toList) := by
  cases op with
  | startRecording => cases hop
  | stopRecording => cases hop
  | ingestMotionSamples deviceId updates timestampNs =>
    exact .inr (.inr ⟨deviceId, updates, timestampNs, rfl, rfl⟩)
  | ingestMotionDatagram datagram => exact .inr (.inr ⟨_, _, _, rfl, rfl⟩)
  | resetSceneToBaseline sceneId | commitSceneBaseline sceneId =>
    simp only [runtimeOps]
    cases self.resolveSceneForBaseline sceneId with
    | error e => exact .inl ⟨rfl, rfl⟩
    | ok sceneId => exact .inr (.inl ⟨_, rfl, rfl, by simp⟩)
  | commitObjectBaseline sceneId objectId =>
    simp only [runtimeOps]
    cases self.resolveSceneForBaseline sceneId with
    | error e => exact .inl ⟨rfl, rfl⟩
    | ok sceneId => exact .inr (.inl ⟨_, rfl, rfl, by simp⟩)
  | schedulerTick nowNs =>
    simp only [runtimeOps]
    split
    . exact .inr (.inl ⟨_, rfl, rfl, by simp⟩)
    . exact .inl ⟨rfl, rfl⟩
  | activate | closeSession | loadScene | setActiveScene | setMode | createMapping | updateMapping
  | removeMapping | setMappingLock => exact .inr (.inl ⟨_, rfl, rfl, by simp⟩)
  | _ => exact .inl ⟨rfl, rfl⟩

theorem captured_step (hrecording : self.activeRecording.isSome = true)
    (hcaptured : Captured start self) (hop : DuringTake op) (hkeeps : self.KeepsCapture op)
    : (self.step op).activeRecording.isSome = true ∧ Captured start (self.step op) := by
  obtain ⟨recording, hsome⟩ := Option.isSome_iff_exists.mp hrecording
  have hstep := self.step_activeRecording hop
  rw [hsome, Option.map_some] at hstep
  refine ⟨by rw [hstep]; rfl, ?_⟩
  intro recording' hrecording'
  rw [hstep] at hrecording'
  cases hrecording'
  simp only [writes_frames, writes_sceneId, (self.step_frame op).2.1]
  have hholds := hcaptured recording hsome
  have hkeeps := hkeeps recording hsome
  rcases self.runtimeOps_duringTake hop with
    ⟨hops, hframes⟩ | ⟨runtimeOp, hops, hframes, hne⟩ | ⟨deviceId, updates, timestampNs, hops, hframes⟩
  . simp only [hops, hframes, List.append_nil, Run.run_nil]
    exact hholds
  . simp only [hops, hframes, List.append_nil, Run.run_cons, Run.run_nil]
    intro object name v hv
    apply hholds
    exact RuntimeCore.recordedAt_step (hkeeps runtimeOp (by simp [hops])) hne hv
  . simp only [hops, hframes, Run.run_cons, Run.run_nil]
    exact takeHolds_ingest hrecording (hkeeps _ (by simp [hops])) hholds

theorem keepsCapture_of {recording : ActiveRecording F} {runtimeOp : RuntimeOp F}
    (hrecording : self.activeRecording = some recording)
    (hops : self.runtimeOps op = [runtimeOp])
    (hkeeps : self.runtime.KeepsTake recording.writer.manifest.sceneId runtimeOp)
    : self.KeepsCapture op := by
  intro recording' hrecording' runtimeOp' hop
  rw [Option.mem_def, hrecording] at hrecording'
  cases hrecording'
  rw [hops, List.mem_singleton] at hop
  rw [hop]
  exact hkeeps

theorem startRecording_captured {path : String} {nowNs : Nat} {recordingId id : Uuid}
    (h : self.startRecording path nowNs recordingId = (.ok id, start))
    : start.activeRecording.isSome = true ∧ Captured start start := by
  obtain ⟨-, recording, hrecording, -, -, hframes, -⟩ := startRecording_eq_ok h
  refine ⟨by rw [hrecording]; rfl, ?_⟩
  intro recording' hrecording' object name v hv
  rw [hrecording] at hrecording'
  cases hrecording'
  rw [replayed, hframes]
  exact RuntimeCore.currentAt_of_recordedAt hv

theorem captured_run {path : String} {nowNs : Nat} {recordingId id : Uuid}
    (hstart : self.startRecording path nowNs recordingId = (.ok id, start))
    {ops : List (ServerOp F)} (hops : Run.AllSteps step (fun _ => DuringTake) start ops)
    (hkeeps : Run.AllSteps step KeepsCapture start ops)
    : Run.AllStates step
        (fun s => s.activeRecording.isSome = true ∧ Captured start s) start ops := by
  refine Run.allStates_of_allSteps ?_ (startRecording_captured hstart) (hops.and _ hkeeps)
  rintro s op ⟨hrecording, hcaptured⟩ ⟨hop, hkeeps⟩
  exact captured_step hrecording hcaptured hop hkeeps

/--
A stage with two scenes that share a panel. Device 7 has turned a switch of the active scene on,
device 8 drives the same switch in the other scene.
-/
def switchStage : ServerState Floats.rational :=
  Run.run step (new .default)
    [.setRunning true, .loadScene (switchScene _), .loadScene { switchScene _ with id := 3 },
      .createMapping (switchRequest 7 "left") 10 100,
      .createMapping { switchRequest 8 "left" with targetScene := 3 } 10 101,
      .setMode .live 11, .ingestMotionSamples 7 [⟨"button", .bool true⟩] 12]

def switchStart : ServerState Floats.rational := (switchStage.startRecording "take.cmtrk" 13 50).2

def switchMotion : List (ServerOp Floats.rational) :=
  [.ingestMotionSamples 7 [⟨"button", .bool false⟩] 14,
    .ingestMotionSamples 7 [⟨"button", .int32 1⟩] 15, .setMode .live 16,
    .commitSceneBaseline none, .schedulerTick 17]

theorem captured_run_switchMotion
    : Run.AllStates step
        (fun s => s.activeRecording.isSome = true ∧ Captured switchStart s)
        switchStart switchMotion := by
  have hstart : switchStage.startRecording "take.cmtrk" 13 50 = (.ok 50, switchStart) := rfl
  apply captured_run hstart
  . exact ⟨trivial, trivial, trivial, trivial, trivial, trivial⟩
  . refine ⟨?_, ?_, ?_, ?_, ?_, trivial⟩
    . apply keepsCapture_of rfl rfl
      intro activeScene hscene
      cases hscene
      exact .inr (.inl rfl)
    . apply keepsCapture_of rfl rfl
      intro activeScene hscene
      cases hscene
      exact .inr (.inr fun _ _ _ _ _ => rfl)
    . exact keepsCapture_of rfl rfl trivial
    . exact keepsCapture_of rfl rfl trivial
    . exact keepsCapture_of rfl rfl trivial

/--
Four ways past the frames: a reset, a scene that is loaded again, the motion of another scene with
the same panel, and a batch that is rejected half way.
-/
theorem captured_fails
    : switchStage.startRecording "take.cmtrk" 13 50 = (.ok 50, switchStart)
        ∧ ¬ Captured switchStart (Run.run step switchStart [.resetSceneToBaseline none])
        ∧ ¬ Captured switchStart (Run.run step switchStart [.loadScene (switchScene _)])
        ∧ ¬ Captured switchStart (Run.run step switchStart
            [.setActiveScene 3, .ingestMotionSamples 8 [⟨"button", .bool false⟩] 14])
        ∧ ¬ Captured switchStart (Run.run step switchStart
            [.ingestMotionSamples 7 [⟨"button", .bool false⟩, ⟨"button", .int32 1⟩] 14]) := by
  refine ⟨rfl, ?_, ?_, ?_, ?_⟩
  . intro h
    have hleft := h _ rfl 2 "left" (.bool false) rfl
    cases hleft
  . intro h
    have hleft := h _ rfl 2 "left" (.bool false) rfl
    cases hleft
  . intro h
    have hleft := h _ rfl 2 "left" (.bool true) rfl
    cases hleft
  . intro h
    have hleft := h _ rfl 2 "left" (.bool false) rfl
    cases hleft

end Run

end ServerState

end MotionStage
