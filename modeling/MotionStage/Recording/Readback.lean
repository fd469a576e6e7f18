import MotionStage.Recording.Layout

/-!
This module contains what reading a recording back yields: the round trip of the writer's file, the
file that is cut off, and how far the reader and the indexer agree on a file that nobody vouches for.
-/

namespace MotionStage

open Framing Traverse

variable {F : Floats}

inductive WriterOp (F : Floats) where
  | pushFrame (frame : RecordedFrame F)
  | pushMarker (marker : RecordingMarker)

namespace WriterOp

def frame? : WriterOp F → Option (RecordedFrame F)
  | .pushFrame frame => some frame
  | .pushMarker _ => none

def marker? : WriterOp F → Option RecordingMarker
  | .pushFrame _ => none
  | .pushMarker marker => some marker

end WriterOp

namespace RecordingWriter

def step (self : RecordingWriter F) : WriterOp F → RecordingWriter F
  | .pushFrame frame => self.pushFrame frame
  | .pushMarker marker => self.pushMarker marker

def run (self : RecordingWriter F) (ops : List (WriterOp F)) : RecordingWriter F :=
  ops.foldl step self

structure Sound (writer : RecordingWriter F) : Prop where
  frameCount : writer.manifest.frameCount = writer.frames.length
  markers : writer.version = .v1 → writer.markers = []

theorem sound_startWithFormat (sceneId : SceneId) (startedNs : Nat)
    (version : RecordingFormatVersion) (recordingId : Uuid)
    : (startWithFormat sceneId startedNs version recordingId : RecordingWriter F).Sound :=
  ⟨rfl, fun _ => rfl⟩

@[simp]
theorem step_version (self : RecordingWriter F) (op : WriterOp F)
    : (self.step op).version = self.version := by
  cases op with
  | pushFrame frame => rfl
  | pushMarker marker => exact pushMarker_version self marker

theorem sound_step {self : RecordingWriter F} (h : self.Sound) (op : WriterOp F)
    : (self.step op).Sound := by
  cases op with
  | pushFrame frame => exact ⟨rfl, h.markers⟩
  | pushMarker marker =>
    simp only [step, pushMarker]
    split
    . next hv2 =>
      refine ⟨h.frameCount, ?_⟩
      intro hv1
      rw [hv2] at hv1
      cases hv1
    . exact h

theorem sound_run {self : RecordingWriter F} (h : self.Sound) (ops : List (WriterOp F))
    : (self.run ops).Sound := by
  have hsteps := Run.allSteps_true step (s := self) ops
  exact Run.run_invariant (P := Sound) (fun _ op hsound _ => sound_step hsound op) h hsteps

@[simp]
theorem run_version (self : RecordingWriter F) (ops : List (WriterOp F))
    : (self.run ops).version = self.version :=
  Run.run_unchanged step_version self ops

theorem run_frames (self : RecordingWriter F) (ops : List (WriterOp F))
    : (self.run ops).frames = self.frames ++ ops.filterMap WriterOp.frame? := by
  induction ops generalizing self with
  | nil => exact (List.append_nil _).symm
  | cons op ops ih =>
    refine (ih (self.step op)).trans ?_
    cases op with
    | pushFrame frame => simp [step, WriterOp.frame?]
    | pushMarker marker =>
      rw [List.filterMap_cons_none rfl]
      simp [step]

theorem run_markers {self : RecordingWriter F} (hv2 : self.version = .v2) (ops : List (WriterOp F))
    : (self.run ops).markers = self.markers ++ ops.filterMap WriterOp.marker? := by
  induction ops generalizing self with
  | nil => exact (List.append_nil _).symm
  | cons op ops ih =>
    refine (ih ((step_version self op).trans hv2)).trans ?_
    cases op with
    | pushFrame frame => rfl
    | pushMarker marker => simp [step, pushMarker, hv2, WriterOp.marker?]

def headerPayloads (self : RecordingWriter F) (codec : RecordingCodec F)
    : Except String (List (List UInt8)) := do
  let manifest ← codec.manifest.serialize self.manifest
  match self.version with
  | .v1 => .ok [manifest]
  | .v2 => (codec.markers.serialize self.markers).map fun markers => [manifest, markers]

def framePayloads (self : RecordingWriter F) (codec : RecordingCodec F)
    : Except String (List (List UInt8)) :=
  self.frames.mapM codec.frame.serialize

def Fits (self : RecordingWriter F) (codec : RecordingCodec F) : Prop :=
  ∀ header payloads, self.headerPayloads codec = .ok header → self.framePayloads codec = .ok payloads
    → ∀ payload ∈ header ++ payloads, payload.length < 2 ^ 32

end RecordingWriter

theorem decode_of_serialize {α : Type} {codec : Codec α} (hcodec : codec.RoundTrip) {value : α}
    {payload : List UInt8} (h : codec.serialize value = .ok payload)
    : decode codec payload = .ok value := by
  unfold decode
  rw [hcodec value payload h]
  rfl

theorem writeBlob_eq_ok_iff {α : Type} {codec : Codec α} {value : α} {bytes : List UInt8}
    : writeBlob codec value = .ok bytes
        ↔
      ∃ payload, codec.serialize value = .ok payload ∧ bytes = frame payload := by
  unfold writeBlob
  cases codec.serialize value with
  | error e => simp
  | ok payload =>
    simp only [Except.ok.injEq, exists_eq_left']
    exact eq_comm

theorem mapM_writeBlob_eq_ok {α : Type} {codec : Codec α} {values : List α}
    {blobs : List (List UInt8)} (h : values.mapM (writeBlob codec) = .ok blobs)
    : ∃ payloads, values.mapM codec.serialize = .ok payloads ∧ blobs.flatten = frames payloads := by
  rw [mapM_eq_ok_iff] at h
  simp only [mapM_eq_ok_iff]
  induction h with
  | nil => exact ⟨[], .nil, rfl⟩
  | cons hblob _ ih =>
    obtain ⟨payload, hpayload, rfl⟩ := writeBlob_eq_ok_iff.mp hblob
    obtain ⟨payloads, hpayloads, hflatten⟩ := ih
    refine ⟨payload :: payloads, .cons hpayload hpayloads, ?_⟩
    rw [List.flatten_cons, hflatten]
    rfl

namespace RecordingWriter

variable {self : RecordingWriter F} {codec : RecordingCodec F}

theorem finishFile_eq_ok {manifest : RecordingManifest} {bytes : List UInt8}
    (h : self.finishFile codec = .ok (manifest, bytes))
    : manifest = self.manifest
        ∧ ∃ header payloads, self.headerPayloads codec = .ok header
          ∧ self.framePayloads codec = .ok payloads
          ∧ bytes = magic self.version ++ (Framing.frames header ++ Framing.frames payloads) := by
  unfold finishFile at h
  dsimp only at h
  obtain ⟨blob, hblob, h⟩ := bind_eq_ok_iff.mp h
  obtain ⟨payload, hpayload, rfl⟩ := writeBlob_eq_ok_iff.mp hblob
  unfold headerPayloads
  cases hversion : self.version with
  | v1 =>
    rw [hversion] at h
    obtain ⟨blob', hblob', h⟩ := bind_eq_ok_iff.mp h
    cases hblob'
    obtain ⟨blobs, hblobs, h⟩ := bind_eq_ok_iff.mp h
    obtain ⟨payloads, hpayloads, hflatten⟩ := mapM_writeBlob_eq_ok hblobs
    cases h
    refine ⟨rfl, [payload], payloads, ?_, hpayloads, ?_⟩
    . exact bind_eq_ok_iff.mpr ⟨payload, hpayload, rfl⟩
    . simp [magic, Framing.frames, hflatten]
  | v2 =>
    rw [hversion] at h
    obtain ⟨blob', hblob', h⟩ := bind_eq_ok_iff.mp h
    obtain ⟨payload', hpayload', rfl⟩ := writeBlob_eq_ok_iff.mp hblob'
    obtain ⟨blobs, hblobs, h⟩ := bind_eq_ok_iff.mp h
    obtain ⟨payloads, hpayloads, hflatten⟩ := mapM_writeBlob_eq_ok hblobs
    cases h
    refine ⟨rfl, [payload, payload'], payloads, ?_, hpayloads, ?_⟩
    . exact bind_eq_ok_iff.mpr ⟨payload, hpayload, map_eq_ok_iff.mpr ⟨payload', hpayload', rfl⟩⟩
    . simp [magic, Framing.frames, hflatten]

theorem header_of_headerPayloads (hcodec : codec.RoundTrip) (hsound : self.Sound)
    {header : List (List UInt8)} (h : self.headerPayloads codec = .ok header)
    : Header codec self.version self.manifest self.markers header := by
  unfold headerPayloads at h
  obtain ⟨payload, hpayload, h⟩ := bind_eq_ok_iff.mp h
  have hmanifest := decode_of_serialize hcodec.manifest hpayload
  cases hversion : self.version with
  | v1 =>
    rw [hversion] at h
    cases h
    rw [hsound.markers hversion]
    exact .v1 hmanifest
  | v2 =>
    rw [hversion] at h
    obtain ⟨payload', hpayload', rfl⟩ := map_eq_ok_iff.mp h
    exact .v2 hmanifest (decode_of_serialize hcodec.markers hpayload')

end RecordingWriter

def blobAt {α : Type} (codec : Codec α) (bytes : List UInt8) (offset : Nat)
    : Except RecordingError α :=
  (readBlob codec ⟨bytes, offset⟩).map Prod.fst

/--
The indexer finds the frames that the reader has read, each at its position.
-/
def IndexAgrees (codec : RecordingCodec F) (bytes : List UInt8) (file : RecordingFile F) : Prop :=
  ∃ index, buildIndex bytes = .ok index ∧ index.version = file.version
    ∧ List.Forall₂ (fun offset frame => blobAt codec.frame bytes offset = .ok frame)
        index.frameOffsets file.frames

theorem blobAt_starts {α : Type} (codec : Codec α) {bytes : List UInt8} {start : Nat}
    {rest : List UInt8} (h : bytes.drop start = rest)
    : List.Forall₂ (fun offset payload => blobAt codec bytes offset = decode codec payload)
        (starts start (split rest).1) (split rest).1 := by
  induction rest using split.induct generalizing start with
  | case1 rest hnone =>
    rw [split_of_none hnone]
    exact .nil
  | case2 rest payload rest' hsome ih =>
    have hrest : (File.mk bytes start).rest = rest := h
    rw [← hrest] at hsome
    rw [← hrest, split_of_some hsome]
    refine .cons ?_ (ih (rest_of_some hsome))
    unfold blobAt
    rw [readBlob_of_some hsome]
    cases decode codec payload <;> rfl

theorem length_starts (start : Nat) (payloads : List (List UInt8))
    : (starts start payloads).length = payloads.length := by
  induction payloads generalizing start with
  | nil => rfl
  | cons payload payloads ih => rw [starts, List.length_cons, ih, List.length_cons]

namespace Accepts

variable {codec : RecordingCodec F} {bytes : List UInt8} {file : RecordingFile F}
  {header payloads : List (List UInt8)}

theorem blobAt_frames (h : Accepts codec bytes file header payloads)
    : List.Forall₂ (fun offset frame => blobAt codec.frame bytes offset = .ok frame)
        ((starts 6 (split (bytes.drop 6)).1).drop header.length) file.frames := by
  have hall := blobAt_starts codec.frame (show bytes.drop 6 = bytes.drop 6 from rfl)
  have hdrop := List.forall₂_drop header.length hall
  rw [h.blobs, List.drop_left] at hdrop
  rw [h.blobs]
  apply forall₂_comp hdrop h.frames
  intro offset payload frame hoffset hframe
  rw [hoffset, hframe]

theorem indexAgrees_iff_tail (h : Accepts codec bytes file header payloads)
    : IndexAgrees codec bytes file ↔ (split (bytes.drop 6)).2.length < 4 := by
  obtain ⟨markerOffset, hindex, -⟩ := h.buildIndex_eq
  have hblobs := h.blobAt_frames
  unfold blobOffsets at hindex
  constructor
  . rintro ⟨index, hindex', -, hframes⟩
    rw [hindex] at hindex'
    cases hindex'
    by_contra htail
    -- The indexer has one position too many.
    have hlength := hframes.length_eq.trans hblobs.length_eq.symm
    dsimp only at hlength
    rw [if_pos (by omega)] at hlength
    simp only [List.length_drop, List.length_append, length_starts, h.blobs, List.length_cons,
      List.length_nil] at hlength
    omega
  . intro htail
    rw [if_neg (by omega), List.append_nil] at hindex
    exact ⟨_, hindex, rfl, hblobs⟩

end Accepts

theorem accepts_append {codec : RecordingCodec F} {version : RecordingFormatVersion}
    {manifest : RecordingManifest} {markers : List RecordingMarker} {header : List (List UInt8)}
    (hheader : Header codec version manifest markers header)
    (hlen : ∀ payload ∈ header, payload.length < 2 ^ 32)
    {rest : List UInt8} {payloads : List (List UInt8)} {frames : List (RecordedFrame F)}
    (hrest : (split rest).1 = payloads)
    (hframes : List.Forall₂ (fun payload frame => decode codec.frame payload = .ok frame) payloads
      frames)
    : Accepts codec (magic version ++ (Framing.frames header ++ rest))
        ⟨manifest, markers, frames, version⟩ header payloads where
  magic := List.take_left' (length_magic version)
  blobs := by
    rw [List.drop_left' (length_magic version), split_frames_append hlen, hrest]
  header := hheader
  frames := hframes

namespace RecordingWriter

variable {self : RecordingWriter F} {codec : RecordingCodec F} {header payloads : List (List UInt8)}

theorem decode_framePayloads (hcodec : codec.RoundTrip)
    (h : self.framePayloads codec = .ok payloads)
    : List.Forall₂ (fun payload frame => decode codec.frame payload = .ok frame) payloads
        self.frames := by
  have hserialize := mapM_eq_ok_iff.mp h
  apply List.Forall₂.flip
  apply hserialize.imp
  intro frame payload hpayload
  exact decode_of_serialize hcodec.frame hpayload

def record (sceneId : SceneId) (startedNs : Nat) (version : RecordingFormatVersion)
    (recordingId : Uuid) (ops : List (WriterOp F)) : RecordingWriter F :=
  (startWithFormat sceneId startedNs version recordingId).run ops

variable (sceneId : SceneId) (startedNs : Nat) (version : RecordingFormatVersion)
  (recordingId : Uuid) (ops : List (WriterOp F))

theorem sound_record : (record sceneId startedNs version recordingId ops).Sound :=
  sound_run (sound_startWithFormat sceneId startedNs version recordingId) ops

@[simp]
theorem record_version : (record sceneId startedNs version recordingId ops).version = version := by
  rw [record, run_version]
  rfl

@[simp]
theorem record_frames
    : (record sceneId startedNs version recordingId ops).frames
        =
      ops.filterMap WriterOp.frame? := by
  rw [record, run_frames]
  rfl

def keptMarkers (version : RecordingFormatVersion) (ops : List (WriterOp F))
    : List RecordingMarker :=
  match version with
  | .v1 => []
  | .v2 => ops.filterMap WriterOp.marker?

@[simp]
theorem record_markers
    : (record sceneId startedNs version recordingId ops).markers = keptMarkers version ops := by
  cases version with
  | v1 => exact (sound_record sceneId startedNs .v1 recordingId ops).markers (by simp)
  | v2 =>
    rw [record, run_markers rfl]
    rfl

end RecordingWriter

namespace Codec

/--
The codec that knows these values, with their bytes.
-/
def table {α : Type} (same : α → α → Bool) (rows : List (α × List UInt8)) : Codec α where
  serialize v :=
    match rows.find? fun row => same row.1 v with
    | some row => .ok row.2
    | none => .error "unknown value"
  deserialize b :=
    match rows.find? fun row => row.2 = b with
    | some row => .ok row.1
    | none => .error "unknown bytes"

theorem roundTrip_table {α : Type} {same : α → α → Bool} (hsame : ∀ v w, same v w = true → v = w)
    {rows : List (α × List UInt8)} (hrows : (rows.map Prod.snd).Nodup)
    : (table same rows).RoundTrip := by
  intro v b hserialize
  simp only [table] at hserialize ⊢
  split at hserialize
  . next row hfound =>
    cases hserialize
    have hrow := hsame _ _ (by simpa using List.find?_some hfound)
    cases hread : rows.find? fun row' => row'.2 = row.2 with
    | none =>
      have hother := List.find?_eq_none.mp hread row (List.mem_of_find?_eq_some hfound)
      simp at hother
    | some row' =>
      have hbytes : row'.2 = row.2 := by simpa using List.find?_some hread
      have heq := List.inj_on_of_nodup_map hrows (List.mem_of_find?_eq_some hread)
        (List.mem_of_find?_eq_some hfound) hbytes
      rw [heq] at hread ⊢
      rw [← hrow]
  . cases hserialize

end Codec

/-!
A take of two frames and one marker, with the bytes that `bincode` has for it: integers in eight
bytes, the least significant first, the index of a variant in four, and a length before an
identifier, a string or a vector.
-/

section Take

def u64Bytes (n : Nat) : List UInt8 := toLeBytes n ++ toLeBytes (n / 2 ^ 32)

def uuidBytes (n : UInt8) : List UInt8 := u64Bytes 16 ++ List.replicate 15 0 ++ [n]

def stringBytes (s : String) : List UInt8 :=
  u64Bytes s.length ++ s.toList.map fun c => c.toNat.toUInt8

def flagBytes (objectId : UInt8) (attr : String) (value : UInt8) : List UInt8 :=
  uuidBytes objectId ++ stringBytes attr ++ toLeBytes 0 ++ [value]

def firstFrame : RecordedFrame Floats.rational :=
  ⟨20, .recording, [⟨2, "button", .bool true⟩, ⟨3, "lamp", .bool false⟩]⟩

def secondFrame : RecordedFrame Floats.rational := ⟨30, .live, [⟨2, "button", .bool false⟩]⟩

def takeOps : List (WriterOp Floats.rational) :=
  [.pushFrame firstFrame, .pushMarker (.modeTransition 10 .live .recording),
    .pushFrame secondFrame]

def takeManifest : RecordingManifest := ⟨7, 1, 10, 30, 2⟩

def manifestBytes : List UInt8 :=
  uuidBytes 7 ++ uuidBytes 1 ++ u64Bytes 10 ++ u64Bytes 30 ++ u64Bytes 2

def markersBytes : List UInt8 :=
  u64Bytes 1 ++ toLeBytes 0 ++ u64Bytes 10 ++ toLeBytes 1 ++ toLeBytes 2

def firstBytes : List UInt8 :=
  u64Bytes 20 ++ toLeBytes 2 ++ u64Bytes 2 ++ flagBytes 2 "button" 1 ++ flagBytes 3 "lamp" 0

def secondBytes : List UInt8 :=
  u64Bytes 30 ++ toLeBytes 1 ++ u64Bytes 1 ++ flagBytes 2 "button" 0

/--
Entries of flags are compared. Those of any other type have no bytes here.
-/
def sameFlags : List (RecordedAttribute F) → List (RecordedAttribute F) → Bool
  | [], [] => true
  | ⟨objectId, attr, .bool v⟩ :: attributes, ⟨objectId', attr', .bool v'⟩ :: attributes' =>
    (objectId = objectId' ∧ attr = attr' ∧ v = v') && sameFlags attributes attributes'
  | _, _ => false

theorem eq_of_sameFlags {attributes attributes' : List (RecordedAttribute F)}
    (h : sameFlags attributes attributes' = true)
    : attributes = attributes' := by
  fun_induction sameFlags attributes attributes' with
  | case1 => rfl
  | case2 objectId attr v attributes objectId' attr' v' attributes' ih =>
    simp only [Bool.and_eq_true, decide_eq_true_eq] at h
    obtain ⟨⟨rfl, rfl, rfl⟩, hrest⟩ := h
    rw [ih hrest]
  | case3 => cases h

def sameFrame (frame frame' : RecordedFrame F) : Bool :=
  (frame.timestampNs = frame'.timestampNs ∧ frame.mode = frame'.mode)
    && sameFlags frame.attributes frame'.attributes

theorem eq_of_sameFrame {frame frame' : RecordedFrame F} (h : sameFrame frame frame' = true)
    : frame = frame' := by
  obtain ⟨timestampNs, mode, attributes⟩ := frame
  obtain ⟨timestampNs', mode', attributes'⟩ := frame'
  simp only [sameFrame, Bool.and_eq_true, decide_eq_true_eq] at h
  obtain ⟨⟨rfl, rfl⟩, hflags⟩ := h
  rw [eq_of_sameFlags hflags]

def takeCodec : RecordingCodec Floats.rational where
  manifest := .table (fun m m' => m = m') [(takeManifest, manifestBytes)]
  markers := .table (fun markers markers' => markers = markers')
    [([.modeTransition 10 .live .recording], markersBytes)]
  frame := .table sameFrame [(firstFrame, firstBytes), (secondFrame, secondBytes)]

theorem roundTrip_takeCodec : takeCodec.RoundTrip where
  manifest := Codec.roundTrip_table (fun _ _ => of_decide_eq_true) (List.nodup_singleton _)
  markers := Codec.roundTrip_table (fun _ _ => of_decide_eq_true) (List.nodup_singleton _)
  frame := Codec.roundTrip_table (fun _ _ => eq_of_sameFrame) (by decide)

theorem headerPayloads_take
    : (RecordingWriter.record 1 10 .v2 7 takeOps).headerPayloads takeCodec
        =
      .ok [manifestBytes, markersBytes] :=
  rfl

theorem framePayloads_take
    : (RecordingWriter.record 1 10 .v2 7 takeOps).framePayloads takeCodec
        =
      .ok [firstBytes, secondBytes] :=
  rfl

theorem fits_take : (RecordingWriter.record 1 10 .v2 7 takeOps).Fits takeCodec := by
  intro header payloads hheader hpayloads
  rw [headerPayloads_take] at hheader
  rw [framePayloads_take] at hpayloads
  cases hheader
  cases hpayloads
  decide

def takeFile : List UInt8 :=
  magicV2 ++ frame manifestBytes ++ frame markersBytes ++ frame firstBytes ++ frame secondBytes

set_option maxRecDepth 2000 in
theorem finishFile_take
    : (RecordingWriter.record 1 10 .v2 7 takeOps).finishFile takeCodec
        =
      .ok (takeManifest, takeFile) :=
  rfl

set_option maxRecDepth 2000 in
theorem split_take
    : split ((takeFile.take 238).drop 6)
        =
      ([manifestBytes, markersBytes, firstBytes], (frame secondBytes).take 16) := by
  have hcut : (takeFile.take 238).drop 6
      = Framing.frames [manifestBytes, markersBytes, firstBytes]
        ++ (frame secondBytes).take 16 := by
    decide
  have hlen : ∀ payload ∈ [manifestBytes, markersBytes, firstBytes], payload.length < 2 ^ 32 := by
    decide
  rw [hcut, split_frames_append hlen, split_of_none (by decide)]
  rfl

theorem accepts_take
    : Accepts takeCodec (takeFile.take 238)
        ⟨takeManifest, [.modeTransition 10 .live .recording], [firstFrame], .v2⟩
        [manifestBytes, markersBytes] [firstBytes] where
  magic := rfl
  blobs := congrArg Prod.fst split_take
  header := .v2 rfl rfl
  frames := .cons rfl .nil

end Take

section Written

variable {codec : RecordingCodec F} {sceneId : SceneId} {startedNs : Nat}
  {version : RecordingFormatVersion} {recordingId : Uuid} {ops : List (WriterOp F)}
  {manifest : RecordingManifest} {bytes : List UInt8}

open RecordingWriter

theorem layout_of_finishFile (hcodec : codec.RoundTrip)
    (hfits : (record sceneId startedNs version recordingId ops).Fits codec)
    (hfinish : (record sceneId startedNs version recordingId ops).finishFile codec
      = .ok (manifest, bytes))
    : ∃ header payloads,
        (record sceneId startedNs version recordingId ops).headerPayloads codec = .ok header
          ∧ (record sceneId startedNs version recordingId ops).framePayloads codec = .ok payloads
          ∧ bytes = magic version ++ (Framing.frames header ++ Framing.frames payloads)
          ∧ (∀ payload ∈ header ++ payloads, payload.length < 2 ^ 32)
          ∧ Header codec version manifest (keptMarkers version ops) header
          ∧ List.Forall₂ (fun payload frame => decode codec.frame payload = .ok frame) payloads
              (ops.filterMap WriterOp.frame?) := by
  obtain ⟨rfl, header, payloads, hheader, hpayloads, hbytes⟩ := finishFile_eq_ok hfinish
  have hblobs := header_of_headerPayloads hcodec (sound_record sceneId startedNs version recordingId ops)
    hheader
  have hframes := decode_framePayloads hcodec hpayloads
  rw [record_version, record_markers] at hblobs
  rw [record_version] at hbytes
  rw [record_frames] at hframes
  exact ⟨header, payloads, hheader, hpayloads, hbytes, hfits header payloads hheader hpayloads,
    hblobs, hframes⟩

theorem readRecording_finishFile (hcodec : codec.RoundTrip)
    (hfits : (record sceneId startedNs version recordingId ops).Fits codec)
    (hfinish : (record sceneId startedNs version recordingId ops).finishFile codec
      = .ok (manifest, bytes))
    : manifest.frameCount = (ops.filterMap WriterOp.frame?).length
        ∧ readRecording codec bytes
            = .ok ⟨manifest, keptMarkers version ops, ops.filterMap WriterOp.frame?, version⟩
        ∧ ∃ index, buildIndex bytes = .ok index
          ∧ index.version = version
          ∧ index.manifestOffset = 6
          ∧ (index.markerOffset.isSome ↔ version = .v2)
          ∧ List.Forall₂ (fun offset frame => blobAt codec.frame bytes offset = .ok frame)
              index.frameOffsets (ops.filterMap WriterOp.frame?) := by
  have hsound := sound_record sceneId startedNs version recordingId ops
  obtain ⟨hmanifest, -⟩ := finishFile_eq_ok hfinish
  obtain ⟨header, payloads, -, -, rfl, hlen, hheader, hframes⟩ :=
    layout_of_finishFile hcodec hfits hfinish
  have hsmall : ∀ payload ∈ header, payload.length < 2 ^ 32 :=
    fun payload hpayload => hlen payload (List.mem_append_left _ hpayload)
  have hsplit : split (Framing.frames payloads) = (payloads, []) :=
    split_frames fun payload hpayload => hlen payload (List.mem_append_right _ hpayload)
  have haccepts := accepts_append hheader hsmall (congrArg Prod.fst hsplit) hframes
  refine ⟨?_, haccepts.readRecording_eq, ?_⟩
  . rw [hmanifest, hsound.frameCount, record_frames]
  . obtain ⟨markerOffset, hindex, hmarker⟩ := haccepts.buildIndex_eq
    refine ⟨_, hindex, rfl, rfl, hmarker, ?_⟩
    have htail : (split ((magic version ++ (Framing.frames header ++ Framing.frames payloads)).drop
        6)).2 = [] := by
      rw [List.drop_left' (length_magic version), split_frames_append hsmall, hsplit]
    have hblobs := haccepts.blobAt_frames
    dsimp only
    unfold blobOffsets
    rw [htail, if_neg (by decide), List.append_nil]
    exact hblobs

theorem readRecording_finishFile_take
    : readRecording takeCodec takeFile
        =
      .ok ⟨takeManifest, [.modeTransition 10 .live .recording], [firstFrame, secondFrame], .v2⟩ :=
  (readRecording_finishFile roundTrip_takeCodec fits_take finishFile_take).2.1

theorem readRecording_take (hcodec : codec.RoundTrip)
    (hfits : (record sceneId startedNs version recordingId ops).Fits codec)
    (hfinish : (record sceneId startedNs version recordingId ops).finishFile codec
      = .ok (manifest, bytes))
    : ∃ header payloads,
        (record sceneId startedNs version recordingId ops).headerPayloads codec = .ok header
          ∧ (record sceneId startedNs version recordingId ops).framePayloads codec = .ok payloads
          ∧ ∀ k, let headerEnd := (magic version ++ Framing.frames header).length
            (k < headerEnd → ∃ e, readRecording codec (bytes.take k) = .error e)
            ∧ (headerEnd ≤ k → readRecording codec (bytes.take k)
                = .ok ⟨manifest, keptMarkers version ops,
                    before k (ops.filterMap WriterOp.frame?) (ends headerEnd payloads), version⟩) := by
  obtain ⟨header, payloads, hheaderPayloads, hframePayloads, rfl, hlen, hheader, hframes⟩ :=
    layout_of_finishFile hcodec hfits hfinish
  refine ⟨header, payloads, hheaderPayloads, hframePayloads, ?_⟩
  intro k headerEnd
  have hend : headerEnd = 6 + (Framing.frames header).length := by simp [headerEnd]
  have hsmall : ∀ payload ∈ header, payload.length < 2 ^ 32 :=
    fun payload hpayload => hlen payload (List.mem_append_left _ hpayload)
  refine ⟨?_, ?_⟩
  . intro hk
    cases hread : readRecording codec
        ((magic version ++ (Framing.frames header ++ Framing.frames payloads)).take k) with
    | error e => exact ⟨e, rfl⟩
    | ok file =>
      -- the reader has found as many blobs as the header has, but the cut has lost one of them
      exfalso
      obtain ⟨header', payloads', htake, hblobs, hheader', -⟩ := accepts_of_readRecording hread
      have hlength := congrArg List.length htake
      rw [length_magic, List.length_take, List.length_take] at hlength
      rw [List.take_take, Nat.min_eq_left (by omega), List.take_left' (length_magic version)] at htake
      have hversion := magic_injective htake
      rw [List.drop_take, List.drop_left' (length_magic version)] at hblobs
      have hlost := length_split_take_lt hsmall (Framing.frames payloads)
        (show k - 6 < (Framing.frames header).length by omega)
      rw [hblobs, List.length_append, hheader.length_eq, hheader'.length_eq, hversion] at hlost
      omega
  . intro hk
    have hcut : (magic version ++ (Framing.frames header ++ Framing.frames payloads)).take k
        = magic version ++ (Framing.frames header ++ (Framing.frames payloads).take (k - headerEnd)) := by
      rw [← List.append_assoc, List.take_append, List.take_of_length_le hk, List.append_assoc]
    have hrest := split_take_frames
      (fun payload (hpayload : payload ∈ payloads) => hlen payload (List.mem_append_right _ hpayload))
      headerEnd (k - headerEnd)
    rw [Nat.add_sub_cancel' hk] at hrest
    rw [hcut]
    exact (accepts_append hheader hsmall hrest (forall₂_before hframes k _)).readRecording_eq

theorem readRecording_take_take
    : ∃ header payloads, headerPayloads (record 1 10 .v2 7 takeOps) takeCodec = .ok header
        ∧ framePayloads (record 1 10 .v2 7 takeOps) takeCodec = .ok payloads
        ∧ ∀ k, let headerEnd := (magic .v2 ++ Framing.frames header).length
          (k < headerEnd → ∃ e, readRecording takeCodec (takeFile.take k) = .error e)
          ∧ (headerEnd ≤ k → readRecording takeCodec (takeFile.take k)
              = .ok ⟨takeManifest, [.modeTransition 10 .live .recording],
                  before k [firstFrame, secondFrame] (ends headerEnd payloads), .v2⟩) :=
  readRecording_take roundTrip_takeCodec fits_take finishFile_take

end Written

/--
The reader and the indexer agree unless the file ends inside the payload of a blob: the reader takes
that for the end of the frames, while the indexer has already stepped over the payload.
-/
theorem indexAgrees_iff {codec : RecordingCodec F} {bytes : List UInt8} {file : RecordingFile F}
    (h : readRecording codec bytes = .ok file)
    : IndexAgrees codec bytes file ↔ (split (bytes.drop 6)).2.length < 4 := by
  obtain ⟨header, payloads, haccepts⟩ := accepts_of_readRecording h
  exact haccepts.indexAgrees_iff_tail

theorem indexAgrees_iff_take
    : readRecording takeCodec (takeFile.take 238)
          = .ok ⟨takeManifest, [.modeTransition 10 .live .recording], [firstFrame], .v2⟩
        ∧ (IndexAgrees takeCodec (takeFile.take 238)
              ⟨takeManifest, [.modeTransition 10 .live .recording], [firstFrame], .v2⟩
            ↔ (split ((takeFile.take 238).drop 6)).2.length < 4) :=
  ⟨accepts_take.readRecording_eq, indexAgrees_iff accepts_take.readRecording_eq⟩

/--
The file of the take, cut off inside the second frame: the reader returns one frame, the indexer
two.
-/
theorem indexAgrees_fails
    : ¬ ∀ (bytes : List UInt8) (file : RecordingFile Floats.rational),
        readRecording takeCodec bytes = .ok file → IndexAgrees takeCodec bytes file := by
  intro h
  have hagrees := h _ _ accepts_take.readRecording_eq
  rw [accepts_take.indexAgrees_iff_tail, split_take] at hagrees
  exact absurd hagrees (by decide)

/--
The reader returns one frame for each complete blob behind the header. It takes their number from the
blobs and not from the manifest.
-/
theorem length_frames_eq_frameCount_iff {codec : RecordingCodec F} {bytes : List UInt8}
    {file : RecordingFile F} (h : readRecording codec bytes = .ok file)
    : List.Forall₂ (fun payload frame => decode codec.frame payload = .ok frame)
          ((split (bytes.drop 6)).1.drop (headerBlobs file.version)) file.frames
        ∧ (file.frames.length = file.manifest.frameCount
            ↔ (split (bytes.drop 6)).1.length
                = headerBlobs file.version + file.manifest.frameCount) := by
  obtain ⟨header, payloads, haccepts⟩ := accepts_of_readRecording h
  have hheader := haccepts.header.length_eq
  rw [haccepts.blobs]
  constructor
  . rw [← hheader, List.drop_left]
    exact haccepts.frames
  . rw [List.length_append, hheader, haccepts.frames.length_eq]
    omega

theorem length_frames_eq_frameCount_iff_take
    : readRecording takeCodec (takeFile.take 238)
          = .ok ⟨takeManifest, [.modeTransition 10 .live .recording], [firstFrame], .v2⟩
        ∧ (1 = takeManifest.frameCount
            ↔ (split ((takeFile.take 238).drop 6)).1.length = 2 + takeManifest.frameCount) :=
  ⟨accepts_take.readRecording_eq,
    (length_frames_eq_frameCount_iff accepts_take.readRecording_eq).2⟩

theorem frameCount_fails
    : ¬ ∀ (bytes : List UInt8) (file : RecordingFile Floats.rational),
        readRecording takeCodec bytes = .ok file
          → file.frames.length = file.manifest.frameCount := by
  intro h
  have hcount := h _ _ accepts_take.readRecording_eq
  exact absurd hcount (by decide)

end MotionStage
