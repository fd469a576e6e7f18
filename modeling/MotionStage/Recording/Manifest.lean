import MotionStage.Recording.Writer

/-!
This module contains the summary that the manifest gives of a take: how many frames it has and from
when to when it goes.
-/

namespace MotionStage

variable {F : Floats}

namespace RecordingManifest

structure Bounds (manifest : RecordingManifest) (frames : List (RecordedFrame F)) : Prop where
  frameCount : manifest.frameCount = frames.length
  started_le_stopped : manifest.startedNs ≤ manifest.stoppedNs
  le_stopped : ∀ frame ∈ frames, frame.timestampNs ≤ manifest.stoppedNs

end RecordingManifest

def LastIsLatest (startedNs : Nat) (frames : List (RecordedFrame F)) : Prop :=
  ∀ last, frames.getLast? = some last
    → startedNs ≤ last.timestampNs ∧ ∀ frame ∈ frames, frame.timestampNs ≤ last.timestampNs

namespace RecordingWriter

theorem pushFrames_startedNs (self : RecordingWriter F) (frames : List (RecordedFrame F))
    : (frames.foldl pushFrame self).manifest.startedNs = self.manifest.startedNs := by
  have hstep (writer : RecordingWriter F) (frame : RecordedFrame F)
      : (writer.pushFrame frame).manifest.startedNs = writer.manifest.startedNs := rfl
  exact Run.run_unchanged (g := fun writer => writer.manifest.startedNs) hstep self frames

theorem pushFrames_frameCount {self : RecordingWriter F}
    (h : self.manifest.frameCount = self.frames.length) (frames : List (RecordedFrame F))
    : (frames.foldl pushFrame self).manifest.frameCount
        = (frames.foldl pushFrame self).frames.length := by
  induction frames generalizing self with
  | nil => exact h
  | cons frame frames ih =>
    have hframe : (self.pushFrame frame).manifest.frameCount
        = (self.pushFrame frame).frames.length := by
      rfl
    exact ih hframe

theorem pushFrames_stoppedNs (self : RecordingWriter F) (frames : List (RecordedFrame F))
    : (frames.foldl pushFrame self).manifest.stoppedNs
        = (frames.getLast?.map RecordedFrame.timestampNs).getD self.manifest.stoppedNs := by
  induction frames generalizing self with
  | nil => rfl
  | cons frame frames ih =>
    rw [List.foldl_cons, ih, List.getLast?_cons]
    cases frames.getLast? <;> rfl

theorem finish_eq_ok {self : RecordingWriter F} {written : Except String Unit}
    {manifest : RecordingManifest} (h : self.finish written = .ok manifest)
    : manifest = self.manifest := by
  unfold finish at h
  split at h
  . cases h
  . cases h
    rfl

theorem bounds_finish_iff {sceneId : SceneId} {startedNs : Nat} {version : RecordingFormatVersion}
    {recordingId : Uuid} {frames : List (RecordedFrame F)} {written : Except String Unit}
    {manifest : RecordingManifest}
    (hfinish : (frames.foldl pushFrame
      (startWithFormat sceneId startedNs version recordingId)).finish written = .ok manifest)
    : manifest.Bounds frames ↔ LastIsLatest startedNs frames := by
  have hmanifest := finish_eq_ok hfinish
  have hstarted : manifest.startedNs = startedNs := by
    rw [hmanifest, pushFrames_startedNs]
    rfl
  have hcount : manifest.frameCount = frames.length := by
    rw [hmanifest, pushFrames_frameCount rfl, pushFrames_frames]
    rfl
  have hstopped : manifest.stoppedNs
      = (frames.getLast?.map RecordedFrame.timestampNs).getD startedNs := by
    rw [hmanifest, pushFrames_stoppedNs]
    rfl
  unfold LastIsLatest
  cases hlast : frames.getLast? with
  | none =>
    rw [hlast] at hstopped
    have hnil : frames = [] := List.getLast?_eq_none_iff.mp hlast
    subst hnil
    apply iff_of_true
    . exact ⟨hcount, by rw [hstarted, hstopped]; rfl, by simp⟩
    . intro last hnone
      cases hnone
  | some last =>
    rw [hlast] at hstopped
    change manifest.stoppedNs = last.timestampNs at hstopped
    simp only [Option.some.injEq, forall_eq']
    constructor
    . intro h
      rw [← hstopped, ← hstarted]
      exact ⟨h.started_le_stopped, h.le_stopped⟩
    . rintro ⟨hstart, hall⟩
      rw [← hstopped] at hall
      exact ⟨hcount, by rw [hstarted, hstopped]; exact hstart, hall⟩

def frameAt (timestampNs : Nat) : RecordedFrame Floats.rational := ⟨timestampNs, .recording, []⟩

theorem bounds_finish_iff_inOrder
    : RecordingManifest.Bounds ⟨50, 1, 10, 30, 2⟩ [frameAt 20, frameAt 30]
        ↔
      LastIsLatest 10 [frameAt 20, frameAt 30] :=
  bounds_finish_iff
    (show ([frameAt 20, frameAt 30].foldl pushFrame (startWithFormat 1 10 .v2 50)).finish (.ok ())
        = .ok ⟨50, 1, 10, 30, 2⟩ from rfl)

/--
The clock of a device is behind, or two frames have overtaken each other.
-/
theorem bounds_finish_fails
    : (([frameAt 5].foldl pushFrame (startWithFormat 1 10 .v2 50)).finish (.ok ())
          = .ok ⟨50, 1, 10, 5, 1⟩
        ∧ ¬ RecordingManifest.Bounds ⟨50, 1, 10, 5, 1⟩ [frameAt 5])
      ∧ ([frameAt 30, frameAt 20].foldl pushFrame (startWithFormat 1 10 .v2 50)).finish (.ok ())
          = .ok ⟨50, 1, 10, 20, 2⟩
        ∧ ¬ RecordingManifest.Bounds ⟨50, 1, 10, 20, 2⟩ [frameAt 30, frameAt 20] := by
  refine ⟨⟨rfl, ?_⟩, rfl, ?_⟩
  . intro h
    exact absurd h.started_le_stopped (by decide)
  . intro h
    exact absurd (h.le_stopped _ List.mem_cons_self) (by decide)

end RecordingWriter

end MotionStage
