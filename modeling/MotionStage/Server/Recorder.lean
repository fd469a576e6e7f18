import MotionStage.Server.Take

/-!
This module contains the recorder over whole runs of the server: when the mode and the recording
agree, and when no recorded frame is lost.
-/

namespace MotionStage

variable {F : Floats}

open RuntimeCore (switchScene switchRequest)

namespace ServerState

def modeAfter (self : ServerState F) : ServerOp F → Mode
  | .setMode mode _ =>
    if RuntimeCore.validModeTransition self.runtime.mode mode then mode else self.runtime.mode
  | .startRecording _ _ _ => .recording
  | .stopRecording _ written =>
    if self.activeRecording.isSome && written.isOk then .live else self.runtime.mode
  | _ => self.runtime.mode

theorem step_mode (self : ServerState F) (op : ServerOp F)
    : (self.step op).runtime.mode = self.modeAfter op := by
  rw [(self.step_frame op).2.1]
  cases op with
  | resetSceneToBaseline sceneId | commitSceneBaseline sceneId =>
    cases h : self.resolveSceneForBaseline sceneId <;>
      simp [runtimeOps, modeAfter, h, Except.toOption, RuntimeCore.step_mode, RuntimeCore.modeAfter]
  | commitObjectBaseline sceneId objectId =>
    cases h : self.resolveSceneForBaseline sceneId <;>
      simp [runtimeOps, modeAfter, h, Except.toOption, RuntimeCore.step_mode, RuntimeCore.modeAfter]
  | startRecording path nowNs recordingId =>
    cases h : self.runtime.mode <;>
      simp [runtimeOps, modeAfter, h, RuntimeCore.step_mode, RuntimeCore.modeAfter,
        RuntimeCore.validModeTransition]
  | stopRecording nowNs written =>
    simp only [runtimeOps, modeAfter]
    split
    . cases h : self.runtime.mode <;>
        simp [h, RuntimeCore.step_mode, RuntimeCore.modeAfter, RuntimeCore.validModeTransition]
    . rfl
  | schedulerTick nowNs =>
    simp only [runtimeOps]
    split <;> simp [modeAfter, RuntimeCore.step_mode, RuntimeCore.modeAfter]
  | _ => simp [runtimeOps, modeAfter, RuntimeCore.step_mode, RuntimeCore.modeAfter]

def RecorderAgrees (self : ServerState F) : Prop :=
  self.runtime.mode = .recording ↔ self.activeRecording.isSome = true

instance (self : ServerState F) : Decidable self.RecorderAgrees :=
  inferInstanceAs (Decidable (_ ↔ _))

/--
The calls that keep mode and recording together: a mode change neither enters nor leaves recording
mode, a recording starts with an active scene, and a recording that stops is written.
-/
def KeepsRecorder (self : ServerState F) : ServerOp F → Prop
  | .setMode mode _ =>
    RuntimeCore.validModeTransition self.runtime.mode mode = true →
      (mode = .recording ↔ self.runtime.mode = .recording)
  | .startRecording _ _ _ => self.runtime.activeScene = none → self.runtime.mode = .recording
  | .stopRecording _ written => self.activeRecording.isSome = true → written.isOk = true
  | _ => True

instance (self : ServerState F) (op : ServerOp F) : Decidable (self.KeepsRecorder op) := by
  unfold KeepsRecorder
  cases op <;> infer_instance

theorem recorderAgrees_step {self : ServerState F} {op : ServerOp F} (h : self.RecorderAgrees)
    (hop : self.KeepsRecorder op)
    : (self.step op).RecorderAgrees := by
  unfold RecorderAgrees at *
  rw [step_mode, ← isSome_heldFrames, (self.step_frame op).2.2]
  cases op with
  | setMode mode nowNs =>
    simp only [modeAfter, heldAfter, Option.isSome_map, isSome_heldFrames]
    split
    . next hvalid => rw [hop hvalid, h]
    . exact h
  | startRecording path nowNs recordingId =>
    simp only [modeAfter, heldAfter, true_iff]
    cases hscene : self.runtime.activeScene with
    | none =>
      simp only [Option.isSome_none, Bool.false_eq_true, ↓reduceIte, isSome_heldFrames]
      exact h.mp (hop hscene)
    | some sceneId => rfl
  | stopRecording nowNs written =>
    simp only [modeAfter, heldAfter, Option.isSome_none, Bool.false_eq_true, iff_false]
    cases hrecording : self.activeRecording.isSome with
    | true => simp [hop hrecording]
    | false =>
      simp only [Bool.false_and, Bool.false_eq_true, ↓reduceIte]
      intro hmode
      simp [h.mp hmode] at hrecording
  | _ => simpa [modeAfter, heldAfter, isSome_heldFrames] using h

theorem recorderAgrees_run (config : ServerConfig) (ops : List (ServerOp F))
    (hops : Run.AllSteps step KeepsRecorder (new config) ops)
    : Run.AllStates step RecorderAgrees (new config) ops := by
  apply Run.allStates_of_allSteps (fun s op h hop => recorderAgrees_step h hop)
  . simp [RecorderAgrees, new, RuntimeCore.new]
  . exact hops

def switchTake : List (ServerOp Floats.rational) :=
  [.loadScene (switchScene _), .setMode .live 1, .startRecording "take.cmtrk" 2 50,
    .setMode .recording 3, .stopRecording 4 (.ok ()), .setMode .idle 5]

theorem recorderAgrees_run_switchTake
    : Run.AllSteps step KeepsRecorder (new .default) switchTake
        ∧
      Run.AllStates step RecorderAgrees (new .default) switchTake := by
  exact ⟨by decide, recorderAgrees_run .default switchTake (by decide)⟩

/--
`set_mode` enters recording mode without starting a recording.
-/
theorem recorderAgrees_fails
    : ¬ (Run.run step (new (F := Floats.rational) .default)
          [.setMode .live 1, .setMode .recording 2]).RecorderAgrees := by
  decide

/--
`start_recording` goes into recording mode before it looks for the scene, so that the call that finds
none has already changed the mode.
-/
theorem startRecording_unchanged_iff (self : ServerState F) (path : String) (nowNs : Nat)
    (recordingId : Uuid)
    : (∀ e, (self.startRecording path nowNs recordingId).1 = .error e
        → (self.startRecording path nowNs recordingId).2 = self)
        ↔
      self.runtime.activeScene.isSome = true ∨ self.runtime.mode = .recording := by
  cases hscene : self.runtime.activeScene with
  | some activeScene => simp [startRecording_of_some hscene]
  | none =>
    simp only [startRecording_of_none hscene, Except.error.injEq, forall_eq', Option.isSome_none,
      Bool.false_eq_true, false_or]
    constructor
    . intro h
      exact (congrArg (fun s : ServerState F => s.runtime.mode) h).symm
    . intro h
      rw [← h]

def StartsOrStays (self : ServerState F) : ServerOp F → Prop
  | .startRecording path nowNs recordingId =>
    ∀ e, (self.startRecording path nowNs recordingId).1 = .error e
      → (self.startRecording path nowNs recordingId).2 = self
  | _ => True

def MayStart (self : ServerState F) : ServerOp F → Prop
  | .startRecording _ _ _ =>
    self.runtime.activeScene.isSome = true ∨ self.runtime.mode = .recording
  | _ => True

theorem startsOrStays_run_iff (config : ServerConfig) (ops : List (ServerOp F))
    : Run.AllSteps step StartsOrStays (new config) ops
        ↔
      Run.AllSteps step MayStart (new config) ops := by
  apply Run.allSteps_congr
  intro s op
  cases op with
  | startRecording path nowNs recordingId =>
    exact s.startRecording_unchanged_iff path nowNs recordingId
  | _ => exact Iff.rfl

/--
Without a scene the first call fails, and leaves the server in recording mode without a recording.
-/
theorem startsOrStays_fails
    : ¬ ∀ (config : ServerConfig) (ops : List (ServerOp Floats.rational)),
        Run.AllSteps step StartsOrStays (new config) ops := by
  intro h
  have hstays := (h .default [.startRecording "take.cmtrk" 13 50]).1 _ rfl
  cases congrArg (fun s : ServerState Floats.rational => s.runtime.mode) hstays

end ServerState

/--
A server together with the history of its frames: all frames that were ever passed to `push_frame`,
and the frames of all recordings whose `finish` returned `Ok`.
-/
structure FrameHistory (F : Floats) where
  server : ServerState F
  pushed : List (RecordedFrame F)
  saved : List (RecordedFrame F)

namespace FrameHistory

def savedFrames (s : ServerState F) : ServerOp F → List (RecordedFrame F)
  | .stopRecording _ written => if written.isOk then s.heldFrames.getD [] else []
  | _ => []

def new (config : ServerConfig) : FrameHistory F := ⟨.new config, [], []⟩

def step (h : FrameHistory F) (op : ServerOp F) : FrameHistory F where
  server := h.server.step op
  pushed := h.pushed ++ h.server.pushedFrames op
  saved := h.saved ++ savedFrames h.server op

def held (h : FrameHistory F) : List (RecordedFrame F) := h.server.heldFrames.getD []

/--
Every pushed frame is saved or in the writer. The recordings follow each other, so this holds in
order and with the number of times each frame was pushed.
-/
def Conserved (h : FrameHistory F) : Prop := h.pushed = h.saved ++ h.held

/--
A call that discards no frame: `start_recording` finds no frames in a writer that it would replace,
and `stop_recording` can write the frames it has.
-/
def KeepsFrames (h : FrameHistory F) : ServerOp F → Prop
  | .startRecording _ _ _ => h.server.runtime.activeScene.isSome = true → h.held = []
  | .stopRecording _ written => written.isOk = false → h.held = []
  | _ => True

theorem pushedFrames_eq_nil {s : ServerState F} (h : s.heldFrames = none) (op : ServerOp F)
    : s.pushedFrames op = [] := by
  have hframe (deviceId : Uuid) (updates : List (AttributeUpdate F)) (timestampNs : Nat)
      : s.frameOf? deviceId updates timestampNs = none := by
    rw [← Option.not_isSome_iff_eq_none, ServerState.isSome_frameOf?_iff]
    rintro ⟨hrecording, -⟩
    rw [← ServerState.isSome_heldFrames, h] at hrecording
    cases hrecording
  cases op with
  | ingestMotionSamples => simp [ServerState.pushedFrames, hframe]
  | ingestMotionDatagram => simp [ServerState.pushedFrames, hframe]
  | _ => rfl

theorem held_step (h : FrameHistory F) (op : ServerOp F)
    : (h.step op).held
        =
      match op with
      | .startRecording _ _ _ => if h.server.runtime.activeScene.isSome then [] else h.held
      | .stopRecording _ _ => []
      | op => h.held ++ h.server.pushedFrames op := by
  have happend : (h.server.heldFrames.map fun frames => frames ++ h.server.pushedFrames op).getD []
      = h.held ++ h.server.pushedFrames op := by
    unfold held
    cases hheld : h.server.heldFrames with
    | none => simp [pushedFrames_eq_nil hheld]
    | some frames => rfl
  simp only [held, step, (h.server.step_frame op).2.2]
  cases op with
  | startRecording path nowNs recordingId =>
    simp only [ServerState.heldAfter]
    split <;> rfl
  | stopRecording nowNs written => rfl
  | _ => exact happend

theorem conserved_step {h : FrameHistory F} {op : ServerOp F} (hc : h.Conserved)
    : (h.step op).Conserved ↔ h.KeepsFrames op := by
  unfold Conserved at *
  rw [held_step]
  cases op with
  | startRecording path nowNs recordingId =>
    simp only [step, ServerState.pushedFrames, savedFrames, KeepsFrames, hc, List.append_nil]
    split
    . next hscene => simp [hscene]
    . next hscene => simp [hscene]
  | stopRecording nowNs written =>
    simp only [step, ServerState.pushedFrames, savedFrames, KeepsFrames, hc, List.append_nil]
    cases written.isOk with
    | true => simp [held]
    | false => simp
  | _ => simp [step, savedFrames, KeepsFrames, hc]

theorem conserved_run_iff (config : ServerConfig) (ops : List (ServerOp F))
    : Run.AllStates step Conserved (new config) ops
        ↔
      Run.AllSteps step KeepsFrames (new config) ops := by
  apply Run.allStates_iff_allSteps
  . intro h op hc
    exact conserved_step hc
  . rfl

def switchRecorded : FrameHistory Floats.rational :=
  Run.run step (new .default)
    [.loadScene (switchScene _), .createMapping (switchRequest 7 "left") 1 100,
      .startRecording "take.cmtrk" 2 50, .ingestMotionSamples 7 [⟨"button", .bool true⟩] 3]

/--
A second `start_recording` and a `stop_recording` that cannot write the file both discard the frame
that was recorded.
-/
theorem conserved_fails
    : (∃ frame ∈ (switchRecorded.step (.startRecording "again.cmtrk" 4 51)).pushed,
        frame ∉ (switchRecorded.step (.startRecording "again.cmtrk" 4 51)).saved
          ∧ frame ∉ (switchRecorded.step (.startRecording "again.cmtrk" 4 51)).held)
        ∧
      (∃ frame ∈ (switchRecorded.step (.stopRecording 4 (.error "disk full"))).pushed,
        frame ∉ (switchRecorded.step (.stopRecording 4 (.error "disk full"))).saved
          ∧ frame ∉ (switchRecorded.step (.stopRecording 4 (.error "disk full"))).held) := by
  constructor
  . refine ⟨_, List.mem_singleton.mpr rfl, ?_, ?_⟩
    . exact List.not_mem_nil
    . exact List.not_mem_nil
  . refine ⟨_, List.mem_singleton.mpr rfl, ?_, ?_⟩
    . exact List.not_mem_nil
    . exact List.not_mem_nil

end FrameHistory

end MotionStage
