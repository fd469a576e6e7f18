import MotionStage.Data.Blobs
import MotionStage.Data.Traverse
import MotionStage.Recording.Format

/-!
This module contains the layout of a recording file: the magic and behind it one frame of bytes for
each blob. The reader and the indexer, which walk through an open file, are reduced to it.
-/

namespace MotionStage

open Framing Traverse

variable {F : Floats}

namespace File

def rest (file : File) : List UInt8 := file.bytes.drop file.position

theorem rest_seekCurrent (file : File) (n : Nat) : (file.seekCurrent n).rest = file.rest.drop n := by
  unfold rest seekCurrent
  rw [List.drop_drop]

theorem readExact_of_le {file : File} {n : Nat} (h : n ≤ file.rest.length)
    : file.readExact n = .ok (file.rest.take n, file.seekCurrent n) := by
  unfold readExact
  dsimp only
  rw [if_pos]
  . rfl
  . exact List.length_take_of_le h

theorem readExact_of_lt {file : File} {n : Nat} (h : file.rest.length < n)
    : file.readExact n = .error (.io .unexpectedEof) := by
  unfold readExact
  dsimp only
  rw [if_neg]
  rw [List.length_take]
  unfold rest at h
  omega

end File

section Blob

variable {α : Type} {codec : Codec α} {file : File} {payload rest : List UInt8}

theorem decode_ne_io {kind : ErrorKind} : decode codec payload ≠ .error (.io kind) := by
  unfold decode
  cases codec.deserialize payload with
  | error e =>
    intro h
    cases h
  | ok value =>
    intro h
    cases h

theorem readBlob_of_some (h : next? file.rest = some (payload, rest))
    : readBlob codec file
        =
      (decode codec payload).map fun value => (value, file.seekCurrent (frame payload).length) := by
  obtain ⟨hsize, hlength, -⟩ := next?_eq_some h
  unfold readBlob
  rw [File.readExact_of_le (by omega)]
  dsimp only
  rw [← hsize, File.readExact_of_le (by rw [File.rest_seekCurrent, List.length_drop]; omega)]
  rw [File.rest_seekCurrent, ← payload_of_next? h]
  have hseek : (file.seekCurrent 4).seekCurrent payload.length
      = file.seekCurrent (frame payload).length := by
    simp only [File.seekCurrent, length_frame, Nat.add_assoc]
  rw [hseek]
  dsimp only
  cases decode codec payload <;> rfl

theorem readBlob_of_none (h : next? file.rest = none)
    : readBlob codec file = .error (.io .unexpectedEof) := by
  unfold readBlob
  by_cases hhead : 4 ≤ file.rest.length
  . rw [File.readExact_of_le hhead]
    dsimp only
    rw [File.readExact_of_lt]
    rw [File.rest_seekCurrent, List.length_drop]
    unfold next? at h
    dsimp only at h
    split at h
    . cases h
    . omega
  . rw [File.readExact_of_lt (by omega)]

theorem skipBlob_of_lt (h : file.rest.length < 4) : skipBlob file = .error (.io .unexpectedEof) := by
  unfold skipBlob
  rw [File.readExact_of_lt h]

theorem skipBlob_of_le (h : 4 ≤ file.rest.length)
    : skipBlob file = .ok (file.seekCurrent (4 + fromLeBytes (file.rest.take 4))) := by
  unfold skipBlob
  rw [File.readExact_of_le h]
  simp only [File.seekCurrent, Nat.add_assoc]

theorem skipBlob_of_some (h : next? file.rest = some (payload, rest))
    : skipBlob file = .ok (file.seekCurrent (frame payload).length) := by
  obtain ⟨hsize, hlength, -⟩ := next?_eq_some h
  rw [skipBlob_of_le (by omega), length_frame, hsize]

theorem rest_of_some (h : next? file.rest = some (payload, rest))
    : (file.seekCurrent (frame payload).length).rest = rest := by
  obtain ⟨-, -, hrest⟩ := next?_eq_some h
  rw [File.rest_seekCurrent, length_frame, hrest]

end Blob

section Loops

variable {file : File}

theorem readFrames_of_error {codec : Codec (RecordedFrame F)} {e : RecordingError}
    (h : readBlob codec file = .error e)
    : readFrames codec file = if e = .io .unexpectedEof then .ok [] else .error e := by
  unfold readFrames
  split <;> simp_all

theorem readFrames_of_ok {codec : Codec (RecordedFrame F)} {frame : RecordedFrame F} {file' : File}
    (h : readBlob codec file = .ok (frame, file'))
    : readFrames codec file = (readFrames codec file').map (frame :: ·) := by
  conv => lhs; unfold readFrames
  split
  . next hread =>
    rw [h] at hread
    cases hread
    cases readFrames codec file' <;> rfl
  all_goals simp_all

theorem readFrames_eq {codec : Codec (RecordedFrame F)} {bytes : List UInt8}
    (h : file.rest = bytes)
    : readFrames codec file = (split bytes).1.mapM (decode codec) := by
  induction bytes using split.induct generalizing file with
  | case1 bytes hnone =>
    rw [readFrames_of_error (readBlob_of_none (h ▸ hnone)), if_pos rfl, split_of_none hnone]
    rfl
  | case2 bytes payload rest hsome ih =>
    subst h
    rw [split_of_some hsome, List.mapM_cons, ← ih (rest_of_some hsome)]
    have hread : readBlob codec file = _ := readBlob_of_some hsome
    cases hdecode : decode codec payload with
    | error e =>
      rw [hdecode] at hread
      rw [readFrames_of_error hread, if_neg]
      . rfl
      . rintro rfl
        exact decode_ne_io hdecode
    | ok frame =>
      rw [hdecode] at hread
      rw [readFrames_of_ok hread]
      cases readFrames codec (file.seekCurrent (Framing.frame payload).length) <;> rfl

theorem indexFrames_of_error (h : skipBlob file = .error (.io .unexpectedEof))
    : indexFrames file = .ok [] := by
  unfold indexFrames
  split <;> simp_all

theorem indexFrames_of_ok {file' : File} (h : skipBlob file = .ok file')
    : indexFrames file = (indexFrames file').map (file.position :: ·) := by
  conv => lhs; unfold indexFrames
  split
  . next hskip =>
    rw [h] at hskip
    cases hskip
    cases indexFrames file' <;> rfl
  all_goals simp_all

/--
The positions at which the indexer finds a blob. It takes a length for a blob, whether the payload
is there or not.
-/
def blobOffsets (start : Nat) (bytes : List UInt8) : List Nat :=
  starts start (split bytes).1
    ++ if 4 ≤ (split bytes).2.length then [start + (frames (split bytes).1).length] else []

theorem blobOffsets_of_some {bytes payload rest : List UInt8}
    (h : next? bytes = some (payload, rest)) (start : Nat)
    : blobOffsets start bytes = start :: blobOffsets (start + (frame payload).length) rest := by
  unfold blobOffsets
  rw [split_of_some h]
  dsimp only
  have hframes : (frames (payload :: (split rest).1)).length
      = (frame payload).length + (frames (split rest).1).length := by
    simp [frames]
  rw [starts, List.cons_append, hframes, Nat.add_assoc]

theorem indexFrames_eq {bytes : List UInt8} (h : file.rest = bytes)
    : indexFrames file = .ok (blobOffsets file.position bytes) := by
  induction bytes using split.induct generalizing file with
  | case1 bytes hnone =>
    unfold blobOffsets
    rw [split_of_none hnone]
    dsimp only
    subst h
    by_cases hhead : 4 ≤ file.rest.length
    . -- The payload is not complete, and the indexer goes to a position behind the end.
      have hend : (file.seekCurrent (4 + fromLeBytes (file.rest.take 4))).rest.length < 4 := by
        rw [File.rest_seekCurrent, List.length_drop]
        unfold next? at hnone
        dsimp only at hnone
        split at hnone
        . cases hnone
        . omega
      rw [indexFrames_of_ok (skipBlob_of_le hhead), indexFrames_of_error (skipBlob_of_lt hend),
        if_pos hhead]
      rfl
    . rw [indexFrames_of_error (skipBlob_of_lt (by omega)), if_neg hhead]
      rfl
  | case2 bytes payload rest hsome ih =>
    subst h
    rw [indexFrames_of_ok (skipBlob_of_some hsome), ih (rest_of_some hsome),
      blobOffsets_of_some hsome]
    rfl

end Loops

def magic : RecordingFormatVersion → List UInt8
  | .v1 => magicV1
  | .v2 => magicV2

@[simp]
theorem length_magic (version : RecordingFormatVersion) : (magic version).length = 6 := by
  cases version <;> rfl

theorem magic_injective : Function.Injective magic := by
  intro v v' h
  cases v <;> cases v' <;> first | rfl | exact absurd h (by decide)

theorem readMagic_eq_ok_iff {bytes : List UInt8} {version : RecordingFormatVersion} {file : File}
    : readMagic (.ofBytes bytes) = .ok (version, file)
        ↔
      bytes.take 6 = magic version ∧ file = ⟨bytes, 6⟩ := by
  have hrest : (File.ofBytes bytes).rest = bytes := rfl
  unfold readMagic
  by_cases h : 6 ≤ bytes.length
  . rw [File.readExact_of_le (by rwa [hrest]), hrest]
    dsimp only
    split
    . next hmagic =>
      rw [hmagic]
      cases version <;> simp [magic, File.ofBytes, File.seekCurrent, eq_comm, magicV1, magicV2]
    . next hv1 =>
      split
      . next hmagic =>
        rw [hmagic]
        cases version <;> simp [magic, File.ofBytes, File.seekCurrent, eq_comm, magicV1, magicV2]
      . next hv2 => cases version <;> simp [magic, hv1, hv2]
  . rw [File.readExact_of_lt (by rw [hrest]; omega)]
    constructor
    . intro h
      cases h
    . rintro ⟨htake, -⟩
      have hlength := congrArg List.length htake
      rw [List.length_take, length_magic] at hlength
      omega

theorem readBlob_eq_ok_iff {α : Type} {codec : Codec α} {file file' : File} {value : α}
    : readBlob codec file = .ok (value, file')
        ↔
      ∃ payload rest, next? file.rest = some (payload, rest) ∧ decode codec payload = .ok value
        ∧ file' = file.seekCurrent (frame payload).length := by
  cases hnext : next? file.rest with
  | none => simp [readBlob_of_none hnext]
  | some next =>
    obtain ⟨payload, rest⟩ := next
    rw [readBlob_of_some hnext, map_eq_ok_iff]
    simp [eq_comm]

/--
The blobs in front of the frames and what they decode to.
-/
inductive Header (codec : RecordingCodec F)
    : RecordingFormatVersion → RecordingManifest → List RecordingMarker → List (List UInt8) → Prop
  | v1 {manifest : RecordingManifest} {payload : List UInt8}
    (h : decode codec.manifest payload = .ok manifest)
    : Header codec .v1 manifest [] [payload]
  | v2 {manifest : RecordingManifest} {markers : List RecordingMarker} {payload payload' : List UInt8}
    (h : decode codec.manifest payload = .ok manifest)
    (h' : decode codec.markers payload' = .ok markers)
    : Header codec .v2 manifest markers [payload, payload']

def headerBlobs : RecordingFormatVersion → Nat
  | .v1 => 1
  | .v2 => 2

theorem Header.length_eq {codec : RecordingCodec F} {version : RecordingFormatVersion}
    {manifest : RecordingManifest} {markers : List RecordingMarker} {header : List (List UInt8)}
    (h : Header codec version manifest markers header)
    : header.length = headerBlobs version := by
  cases h <;> rfl

/--
What the reader accepts: behind the magic the complete blobs are those of the header and one for
each frame. What is left behind the last complete blob is not looked at.
-/
structure Accepts (codec : RecordingCodec F) (bytes : List UInt8) (file : RecordingFile F)
    (header payloads : List (List UInt8)) : Prop where
  magic : bytes.take 6 = magic file.version
  blobs : (split (bytes.drop 6)).1 = header ++ payloads
  header : Header codec file.version file.manifest file.markers header
  frames : List.Forall₂ (fun payload frame => decode codec.frame payload = .ok frame) payloads
    file.frames

theorem accepts_of_readRecording {codec : RecordingCodec F} {bytes : List UInt8}
    {file : RecordingFile F} (h : readRecording codec bytes = .ok file)
    : ∃ header payloads, Accepts codec bytes file header payloads := by
  unfold readRecording at h
  obtain ⟨⟨version, file1⟩, hmagic, h⟩ := bind_eq_ok_iff.mp h
  obtain ⟨htake, rfl⟩ := readMagic_eq_ok_iff.mp hmagic
  obtain ⟨⟨manifest, file2⟩, hmanifest, h⟩ := bind_eq_ok_iff.mp h
  obtain ⟨payload, rest, hnext, hdecode, rfl⟩ := readBlob_eq_ok_iff.mp hmanifest
  have hsplit := split_of_some hnext
  cases version with
  | v1 =>
    obtain ⟨⟨markers, file3⟩, hmarkers, h⟩ := bind_eq_ok_iff.mp h
    obtain ⟨frames, hframes, h⟩ := bind_eq_ok_iff.mp h
    cases h
    cases hmarkers
    rw [readFrames_eq (rest_of_some hnext), mapM_eq_ok_iff] at hframes
    refine ⟨[payload], (split rest).1, htake, ?_, .v1 hdecode, hframes⟩
    exact congrArg Prod.fst hsplit
  | v2 =>
    obtain ⟨⟨markers, file3⟩, hmarkers, h⟩ := bind_eq_ok_iff.mp h
    obtain ⟨frames, hframes, h⟩ := bind_eq_ok_iff.mp h
    cases h
    obtain ⟨payload', rest', hnext', hdecode', rfl⟩ := readBlob_eq_ok_iff.mp hmarkers
    rw [readFrames_eq (rest_of_some hnext'), mapM_eq_ok_iff] at hframes
    refine ⟨[payload, payload'], (split rest').1, htake, ?_, .v2 hdecode hdecode', hframes⟩
    rw [rest_of_some hnext] at hnext'
    rw [split_of_some hnext'] at hsplit
    exact congrArg Prod.fst hsplit

theorem Accepts.readRecording_eq {codec : RecordingCodec F} {bytes : List UInt8}
    {file : RecordingFile F} {header payloads : List (List UInt8)}
    (h : Accepts codec bytes file header payloads)
    : readRecording codec bytes = .ok file := by
  obtain ⟨manifest, markers, frames, version⟩ := file
  obtain ⟨htake, hblobs, hheader, hframes⟩ := h
  dsimp only at htake hheader hframes
  have hrest : (File.mk bytes 6).rest = bytes.drop 6 := rfl
  rw [← hrest] at hblobs
  unfold readRecording
  refine bind_eq_ok_iff.mpr ⟨_, readMagic_eq_ok_iff.mpr ⟨htake, rfl⟩, ?_⟩
  cases hheader with
  | v1 hdecode =>
    obtain ⟨rest, hnext, rfl⟩ := next?_of_split_eq_cons hblobs
    refine bind_eq_ok_iff.mpr ⟨_, readBlob_eq_ok_iff.mpr ⟨_, rest, hnext, hdecode, rfl⟩, ?_⟩
    refine bind_eq_ok_iff.mpr ⟨_, rfl, ?_⟩
    refine bind_eq_ok_iff.mpr ⟨frames, ?_, rfl⟩
    rw [readFrames_eq (rest_of_some hnext), mapM_eq_ok_iff]
    exact hframes
  | v2 hdecode hdecode' =>
    obtain ⟨rest, hnext, hblobs'⟩ := next?_of_split_eq_cons hblobs
    obtain ⟨rest', hnext', rfl⟩ := next?_of_split_eq_cons hblobs'
    rw [← rest_of_some hnext] at hnext'
    refine bind_eq_ok_iff.mpr ⟨_, readBlob_eq_ok_iff.mpr ⟨_, rest, hnext, hdecode, rfl⟩, ?_⟩
    refine bind_eq_ok_iff.mpr ⟨_, readBlob_eq_ok_iff.mpr ⟨_, rest', hnext', hdecode', rfl⟩, ?_⟩
    refine bind_eq_ok_iff.mpr ⟨frames, ?_, rfl⟩
    rw [readFrames_eq (rest_of_some hnext'), mapM_eq_ok_iff]
    exact hframes

theorem Accepts.buildIndex_eq {codec : RecordingCodec F} {bytes : List UInt8}
    {file : RecordingFile F} {header payloads : List (List UInt8)}
    (h : Accepts codec bytes file header payloads)
    : ∃ markerOffset, buildIndex bytes
          = .ok ⟨6, markerOffset, (blobOffsets 6 (bytes.drop 6)).drop header.length, file.version⟩
        ∧ (markerOffset.isSome ↔ file.version = .v2) := by
  obtain ⟨manifest, markers, frames, version⟩ := file
  obtain ⟨htake, hblobs, hheader, -⟩ := h
  dsimp only at htake hheader
  have hrest : (File.mk bytes 6).rest = bytes.drop 6 := rfl
  rw [← hrest] at hblobs ⊢
  have hmagic := readMagic_eq_ok_iff.mpr ⟨htake, rfl⟩
  cases hheader with
  | v1 hdecode =>
    obtain ⟨rest, hnext, -⟩ := next?_of_split_eq_cons hblobs
    refine ⟨none, ?_, by simp⟩
    rw [blobOffsets_of_some hnext]
    unfold buildIndex
    refine bind_eq_ok_iff.mpr ⟨_, hmagic, ?_⟩
    refine bind_eq_ok_iff.mpr ⟨_, skipBlob_of_some hnext, ?_⟩
    refine bind_eq_ok_iff.mpr ⟨_, rfl, ?_⟩
    refine bind_eq_ok_iff.mpr ⟨_, indexFrames_eq (rest_of_some hnext), rfl⟩
  | @v2 _ _ payload payload' hdecode hdecode' =>
    obtain ⟨rest, hnext, hblobs'⟩ := next?_of_split_eq_cons hblobs
    obtain ⟨rest', hnext', -⟩ := next?_of_split_eq_cons hblobs'
    refine ⟨some (6 + (frame payload).length), ?_, by simp⟩
    rw [blobOffsets_of_some hnext, blobOffsets_of_some hnext']
    rw [← rest_of_some hnext] at hnext'
    unfold buildIndex
    refine bind_eq_ok_iff.mpr ⟨_, hmagic, ?_⟩
    refine bind_eq_ok_iff.mpr ⟨_, skipBlob_of_some hnext, ?_⟩
    refine bind_eq_ok_iff.mpr ⟨_, map_eq_ok_iff.mpr ⟨_, skipBlob_of_some hnext', rfl⟩, ?_⟩
    refine bind_eq_ok_iff.mpr ⟨_, indexFrames_eq (rest_of_some hnext'), rfl⟩

end MotionStage
