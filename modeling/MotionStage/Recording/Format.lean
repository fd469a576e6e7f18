import MotionStage.Data.Framing
import MotionStage.Recording.Writer

/-!
This module contains the recording file: the bytes that `finish` writes, the reader and the indexer.
The file system is reduced to the bytes of one file, and the serialization library is a parameter.
-/

namespace MotionStage

variable {F : Floats}

inductive ErrorKind where
  | unexpectedEof
  | other
  deriving DecidableEq, Repr

inductive RecordingError where
  | io (kind : ErrorKind)
  | encoding (reason : String)
  | invalidFormat (reason : String)
  deriving DecidableEq, Repr

/--
The two functions of `bincode` at one type.
-/
structure Codec (α : Type) where
  serialize : α → Except String (List UInt8)
  deserialize : List UInt8 → Except String α

def Codec.RoundTrip {α : Type} (codec : Codec α) : Prop :=
  ∀ value bytes, codec.serialize value = .ok bytes → codec.deserialize bytes = .ok value

structure RecordingCodec (F : Floats) where
  manifest : Codec RecordingManifest
  markers : Codec (List RecordingMarker)
  frame : Codec (RecordedFrame F)

structure RecordingCodec.RoundTrip (codec : RecordingCodec F) : Prop where
  manifest : codec.manifest.RoundTrip
  markers : codec.markers.RoundTrip
  frame : codec.frame.RoundTrip

/--
An open file: its bytes and the position in it.
-/
structure File where
  bytes : List UInt8
  position : Nat
  deriving DecidableEq, Repr

namespace File

def ofBytes (bytes : List UInt8) : File := ⟨bytes, 0⟩

def readExact (file : File) (n : Nat) : Except RecordingError (List UInt8 × File) :=
  let chunk := (file.bytes.drop file.position).take n
  if chunk.length = n then
    .ok (chunk, { file with position := file.position + n })
  else
    .error (.io .unexpectedEof)

/--
Seeking past the end of a file succeeds.
-/
def seekCurrent (file : File) (n : Nat) : File := { file with position := file.position + n }

end File

def magicV1 : List UInt8 := [0x43, 0x4d, 0x54, 0x52, 0x4b, 0x31]

def magicV2 : List UInt8 := [0x43, 0x4d, 0x54, 0x52, 0x4b, 0x32]

def readMagic (file : File) : Except RecordingError (RecordingFormatVersion × File) :=
  match file.readExact 6 with
  | .error e => .error e
  | .ok (magic, file) =>
    if magic = magicV1 then
      .ok (.v1, file)
    else if magic = magicV2 then
      .ok (.v2, file)
    else
      .error (.invalidFormat "invalid magic")

/--
The bytes that `write_blob` appends to a file. The cast of the length to 32 bits wraps.
-/
def writeBlob {α : Type} (codec : Codec α) (value : α) : Except RecordingError (List UInt8) :=
  match codec.serialize value with
  | .error e => .error (.encoding e)
  | .ok bytes => .ok (Framing.toLeBytes bytes.length ++ bytes)

def decode {α : Type} (codec : Codec α) (bytes : List UInt8) : Except RecordingError α :=
  (codec.deserialize bytes).mapError .encoding

def readBlob {α : Type} (codec : Codec α) (file : File) : Except RecordingError (α × File) :=
  match file.readExact 4 with
  | .error e => .error e
  | .ok (lenBytes, file) =>
    let len := Framing.fromLeBytes lenBytes
    match file.readExact len with
    | .error e => .error e
    | .ok (bytes, file) =>
      match decode codec bytes with
      | .error e => .error e
      | .ok value => .ok (value, file)

def skipBlob (file : File) : Except RecordingError File :=
  match file.readExact 4 with
  | .error e => .error e
  | .ok (lenBytes, file) =>
    let len := Framing.fromLeBytes lenBytes
    .ok (file.seekCurrent len)

/--
What `finish` returns and the contents of the file that it has written by then.
-/
def RecordingWriter.finishFile (self : RecordingWriter F) (codec : RecordingCodec F)
    : Except RecordingError (RecordingManifest × List UInt8) := do
  let magic :=
    match self.version with
    | .v1 => magicV1
    | .v2 => magicV2
  let manifest ← writeBlob codec.manifest self.manifest
  let markers ←
    match self.version with
    | .v1 => .ok []
    | .v2 => writeBlob codec.markers self.markers
  let frames ← self.frames.mapM (writeBlob codec.frame)
  .ok (self.manifest, magic ++ manifest ++ markers ++ frames.flatten)

structure RecordingFile (F : Floats) where
  manifest : RecordingManifest
  markers : List RecordingMarker
  frames : List (RecordedFrame F)
  version : RecordingFormatVersion

structure RecordingIndex where
  manifestOffset : Nat
  markerOffset : Option Nat
  frameOffsets : List Nat
  version : RecordingFormatVersion
  deriving DecidableEq, Repr

namespace File

def remaining (file : File) : Nat := file.bytes.length - file.position

theorem readExact_eq_ok {file file' : File} {n : Nat} {chunk : List UInt8}
    (h : file.readExact n = .ok (chunk, file'))
    : chunk.length = n ∧ n ≤ file.remaining
        ∧ file' = { file with position := file.position + n } := by
  unfold readExact at h
  dsimp only at h
  split at h
  . next hlength =>
    cases h
    refine ⟨hlength, ?_, rfl⟩
    rw [List.length_take, List.length_drop] at hlength
    unfold remaining
    omega
  . cases h

end File

theorem remaining_skipBlob {file file' : File} (h : skipBlob file = .ok file')
    : file'.remaining < file.remaining := by
  unfold skipBlob at h
  split at h
  . cases h
  . next hread =>
    obtain ⟨-, hlength, rfl⟩ := File.readExact_eq_ok hread
    cases h
    unfold File.remaining File.seekCurrent at *
    dsimp only
    omega

theorem remaining_readBlob {α : Type} {codec : Codec α} {file file' : File} {value : α}
    (h : readBlob codec file = .ok (value, file'))
    : file'.remaining < file.remaining := by
  unfold readBlob at h
  split at h
  . cases h
  . next hread =>
    obtain ⟨-, hlength, rfl⟩ := File.readExact_eq_ok hread
    dsimp only at h
    split at h
    . cases h
    . next hread =>
      obtain ⟨-, -, rfl⟩ := File.readExact_eq_ok hread
      split at h
      . cases h
      . cases h
        unfold File.remaining at *
        dsimp only
        omega

/--
The loop of `read_recording`. It takes the end of the file, wherever it comes, as the end of the
frames.
-/
def readFrames (codec : Codec (RecordedFrame F)) (file : File)
    : Except RecordingError (List (RecordedFrame F)) :=
  match _h : readBlob codec file with
  | .ok (frame, file) =>
    match readFrames codec file with
    | .error e => .error e
    | .ok frames => .ok (frame :: frames)
  | .error (.io .unexpectedEof) => .ok []
  | .error e => .error e
termination_by file.remaining
decreasing_by exact remaining_readBlob _h

def indexFrames (file : File) : Except RecordingError (List Nat) :=
  match _h : skipBlob file with
  | .ok file' =>
    match indexFrames file' with
    | .error e => .error e
    | .ok offsets => .ok (file.position :: offsets)
  | .error (.io .unexpectedEof) => .ok []
  | .error e => .error e
termination_by file.remaining
decreasing_by exact remaining_skipBlob _h

def readRecording (codec : RecordingCodec F) (bytes : List UInt8)
    : Except RecordingError (RecordingFile F) := do
  let (version, file) ← readMagic (.ofBytes bytes)
  let (manifest, file) ← readBlob codec.manifest file
  let (markers, file) ←
    match version with
    | .v1 => .ok ([], file)
    | .v2 => readBlob codec.markers file
  let frames ← readFrames codec.frame file
  .ok ⟨manifest, markers, frames, version⟩

def buildIndex (bytes : List UInt8) : Except RecordingError RecordingIndex := do
  let (version, file) ← readMagic (.ofBytes bytes)
  let manifestOffset := file.position
  let file ← skipBlob file
  let (markerOffset, file) ←
    match version with
    | .v1 => .ok (none, file)
    | .v2 => (skipBlob file).map fun file' => (some file.position, file')
  let frameOffsets ← indexFrames file
  .ok ⟨manifestOffset, markerOffset, frameOffsets, version⟩

end MotionStage
