import MotionStage.Core.Runtime
import MotionStage.Data.Run

/-!
This module contains the recording writer: the frames and markers of a take that is being recorded.
-/

namespace MotionStage

inductive RecordingFormatVersion where
  | v1
  | v2
  deriving DecidableEq, Repr

structure RecordingManifest where
  recordingId : Uuid
  sceneId : SceneId
  startedNs : Nat
  stoppedNs : Nat
  frameCount : Nat
  deriving DecidableEq, Repr

structure RecordedAttribute (F : Floats) where
  objectId : ObjectId
  attr : String
  value : AttributeValue F

structure RecordedFrame (F : Floats) where
  timestampNs : Nat
  mode : Mode
  attributes : List (RecordedAttribute F)

inductive RecordingMarker where
  | modeTransition (timestampNs : Nat) (fromMode toMode : Mode)
  | mappingCreated (timestampNs : Nat) (mappingId : MappingId) (sourceDevice : Uuid)
    (sourceOutput : String) (targetScene : SceneId) (targetObject : ObjectId)
    (targetAttribute : String) (componentMask : Option (List Nat))
  | mappingUpdated (timestampNs : Nat) (mappingId : MappingId) (sourceDevice : Uuid)
    (sourceOutput : String) (targetScene : SceneId) (targetObject : ObjectId)
    (targetAttribute : String) (componentMask : Option (List Nat))
  | mappingRemoved (timestampNs : Nat) (mappingId : MappingId)
  | mappingLockSet (timestampNs : Nat) (mappingId : MappingId) (lock : Bool)
  deriving DecidableEq, Repr

structure RecordingWriter (F : Floats) where
  manifest : RecordingManifest
  frames : List (RecordedFrame F)
  markers : List RecordingMarker
  version : RecordingFormatVersion

variable {F : Floats}

namespace RecordingWriter

def startWithFormat (sceneId : SceneId) (startedNs : Nat) (version : RecordingFormatVersion)
    (recordingId : Uuid) : RecordingWriter F where
  manifest := ⟨recordingId, sceneId, startedNs, startedNs, 0⟩
  frames := []
  markers := []
  version := version

def start (sceneId : SceneId) (startedNs : Nat) (recordingId : Uuid) : RecordingWriter F :=
  startWithFormat sceneId startedNs .v2 recordingId

def pushFrame (self : RecordingWriter F) (frame : RecordedFrame F) : RecordingWriter F :=
  let frames := self.frames ++ [frame]
  { self with
    manifest := { self.manifest with stoppedNs := frame.timestampNs, frameCount := frames.length }
    frames := frames }

def pushMarker (self : RecordingWriter F) (marker : RecordingMarker) : RecordingWriter F :=
  match self.version with
  | .v2 => { self with markers := self.markers ++ [marker] }
  | .v1 => self

def pushMarkers (self : RecordingWriter F) (markers : List RecordingMarker) : RecordingWriter F :=
  markers.foldl pushMarker self

/--
`finish` up to the file system: `written` is what creating and writing the file came to, an error
being the text of the source's `RecordingError`.
-/
def finish (self : RecordingWriter F) (written : Except String Unit)
    : Except String RecordingManifest :=
  match written with
  | .error e => .error e
  | .ok () => .ok self.manifest

@[simp]
theorem pushMarker_frames (self : RecordingWriter F) (marker : RecordingMarker)
    : (self.pushMarker marker).frames = self.frames := by
  unfold pushMarker
  split <;> rfl

@[simp]
theorem pushMarker_manifest (self : RecordingWriter F) (marker : RecordingMarker)
    : (self.pushMarker marker).manifest = self.manifest := by
  unfold pushMarker
  split <;> rfl

@[simp]
theorem pushMarker_version (self : RecordingWriter F) (marker : RecordingMarker)
    : (self.pushMarker marker).version = self.version := by
  unfold pushMarker
  split <;> rfl

@[simp]
theorem pushMarkers_frames (self : RecordingWriter F) (markers : List RecordingMarker)
    : (self.pushMarkers markers).frames = self.frames :=
  Run.run_unchanged pushMarker_frames self markers

@[simp]
theorem pushMarkers_manifest (self : RecordingWriter F) (markers : List RecordingMarker)
    : (self.pushMarkers markers).manifest = self.manifest :=
  Run.run_unchanged pushMarker_manifest self markers

@[simp]
theorem pushMarkers_version (self : RecordingWriter F) (markers : List RecordingMarker)
    : (self.pushMarkers markers).version = self.version :=
  Run.run_unchanged pushMarker_version self markers

@[simp]
theorem pushFrame_frames (self : RecordingWriter F) (frame : RecordedFrame F)
    : (self.pushFrame frame).frames = self.frames ++ [frame] :=
  rfl

theorem pushFrames_frames (self : RecordingWriter F) (frames : List (RecordedFrame F))
    : (frames.foldl pushFrame self).frames = self.frames ++ frames := by
  induction frames generalizing self with
  | nil => simp
  | cons frame frames ih => simp [ih]

theorem pushMarkers_markers {self : RecordingWriter F} (h : self.version = .v2)
    (markers : List RecordingMarker)
    : (self.pushMarkers markers).markers = self.markers ++ markers := by
  induction markers generalizing self with
  | nil => simp [pushMarkers]
  | cons marker markers ih =>
    have hversion : (self.pushMarker marker).version = .v2 := by simp [pushMarker, h]
    have hmarkers : (self.pushMarker marker).markers = self.markers ++ [marker] := by
      simp [pushMarker, h]
    refine (ih hversion).trans ?_
    rw [hmarkers, List.append_assoc]
    rfl

theorem pushFrames_version (self : RecordingWriter F) (frames : List (RecordedFrame F))
    : (frames.foldl pushFrame self).version = self.version := by
  have hstep (writer : RecordingWriter F) (frame : RecordedFrame F)
      : (writer.pushFrame frame).version = writer.version := rfl
  exact Run.run_unchanged hstep self frames

theorem pushFrames_markers (self : RecordingWriter F) (frames : List (RecordedFrame F))
    : (frames.foldl pushFrame self).markers = self.markers := by
  have hstep (writer : RecordingWriter F) (frame : RecordedFrame F)
      : (writer.pushFrame frame).markers = writer.markers := rfl
  exact Run.run_unchanged hstep self frames

theorem pushFrames_sceneId (self : RecordingWriter F) (frames : List (RecordedFrame F))
    : (frames.foldl pushFrame self).manifest.sceneId = self.manifest.sceneId := by
  have hstep (writer : RecordingWriter F) (frame : RecordedFrame F)
      : (writer.pushFrame frame).manifest.sceneId = writer.manifest.sceneId := rfl
  exact Run.run_unchanged (g := fun writer => writer.manifest.sceneId) hstep self frames

end RecordingWriter

end MotionStage
