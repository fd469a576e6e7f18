import MotionStage.Data.Strings
import MotionStage.Data.Usda
import MotionStage.Recording.Format

/-!
This module contains the USD exporter. It pastes timestamps, object identifiers and attribute names
into the names of prims and properties as they are.
-/

namespace MotionStage

variable {F : Floats}

/--
The `Display` forms of `f32` and `f64`.
-/
structure FloatText (F : Floats) where
  f32 : F.f32 → String
  f64 : F.f64 → String

namespace Usd

def spaced (text : FloatText F) (v : List F.f32) : String := " ".intercalate (v.map text.f32)

def encodeValue (text : FloatText F) : AttributeValue F → String
  | .bool v => toString v
  | .int32 v => toString v.toInt
  | .float32 v => text.f32 v
  | .float64 v => text.f64 v
  | .vec2f v => spaced text v.toList
  | .vec3f v => spaced text v.toList
  | .vec4f v => spaced text v.toList
  | .quatf v => spaced text v.toList
  | .mat4f v => spaced text (v.toList.flatMap Vector.toList)
  | .trigger v => toString v

def exportAttribute (text : FloatText F) (attr : RecordedAttribute F) : String :=
  "            custom string o" ++ attr.objectId.display ++ "_" ++ attr.attr ++ " = \""
    ++ encodeValue text attr.value ++ "\"\n"

def exportFrame (text : FloatText F) (out : String) (frame : RecordedFrame F) : String :=
  let out := out ++ ("        def Scope \"f_" ++ toString frame.timestampNs ++ "\" \x7b\n")
  let out := frame.attributes.foldl (fun out attr => out ++ exportAttribute text attr) out
  out ++ "        \x7d\n"

def exportText (text : FloatText F) (recording : RecordingFile F) : String :=
  let out := "#usda 1.0\n"
  let out := out ++ "def Xform \"MotionStageTake\" \x7b\n"
  let out := out
    ++ ("    custom string recording_id = \"" ++ recording.manifest.recordingId.display ++ "\"\n")
  let out := out ++ "    def Scope \"Frames\" \x7b\n"
  let out := recording.frames.foldl (exportFrame text) out
  let out := out ++ "    \x7d\n"
  out ++ "\x7d\n"

def header (recordingId : Uuid) : String :=
  "#usda 1.0\n" ++ "def Xform \"MotionStageTake\" \x7b\n"
    ++ ("    custom string recording_id = \"" ++ recordingId.display ++ "\"\n")
    ++ "    def Scope \"Frames\" \x7b\n"

theorem exportText_eq (text : FloatText F) (recording : RecordingFile F)
    : exportText text recording
        = recording.frames.foldl (exportFrame text) (header recording.manifest.recordingId)
          ++ "    \x7d\n" ++ "\x7d\n" :=
  rfl

/--
The scopes right inside `Frames` have different names, and so have the properties of each scope, all
names are identifiers, and quotes and braces balance.
-/
structure WellFormed (text : String) : Prop where
  frames : ∀ n prim, (Usda.readText text).prims[n]? = some prim → prim.name = "Frames" →
    ((Usda.readText text).namesInside (some n) "Scope").Nodup
  properties : ∀ n prim, (Usda.readText text).prims[n]? = some prim → prim.kind = "Scope" →
    ((Usda.readText text).propertiesOf (some n)).Nodup
  primNames : ∀ prim ∈ (Usda.readText text).prims, Usda.isIdentifier prim.name = true
  propertyNames : ∀ property ∈ (Usda.readText text).properties,
    Usda.isIdentifier property.name = true
  quotes : (Usda.readText text).isQuoting = false
  braces : (Usda.readText text).opened = [] ∧ (Usda.readText text).underflow = false

def insideFrames (prims : List Usda.Prim) : Usda.Reader where
  scan := .between
  pending := []
  opened := [some 1, some 0]
  prims := [⟨none, "Xform", "MotionStageTake"⟩, ⟨some 0, "Scope", "Frames"⟩] ++ prims
  properties := [⟨some 0, "recording_id"⟩]
  underflow := false

def framePrim (frame : RecordedFrame F) : Usda.Prim :=
  ⟨some 1, "Scope", "f_" ++ toString frame.timestampNs⟩

theorem read_header (recordingId : Uuid)
    : Usda.Reader.start.read (header recordingId) = insideFrames [] := by
  have hquotes : '"' ∉ recordingId.display.toList := fun hmem =>
    absurd (Uuid.mem_displayChars hmem) (by decide)
  have hmagic : Usda.Reader.start.read "#usda 1.0\n"
      = ⟨.between, [.word "1.0", .word "#usda"], [], [], [], false⟩ := by
    decide
  have htake : Usda.Reader.read ⟨.between, [.word "1.0", .word "#usda"], [], [], [], false⟩
        "def Xform \"MotionStageTake\" \x7b\n"
      = ⟨.between, [], [some 0], [⟨none, "Xform", "MotionStageTake"⟩], [], false⟩ := by
    decide
  have hid : Usda.Reader.read
        ⟨.between, [], [some 0], [⟨none, "Xform", "MotionStageTake"⟩], [], false⟩
        "    custom string recording_id = \""
      = ⟨.quoted [], [.word "=", .word "recording_id", .word "string", .word "custom"], [some 0],
          [⟨none, "Xform", "MotionStageTake"⟩], [⟨some 0, "recording_id"⟩], false⟩ := by
    decide
  rw [header]
  simp only [Usda.Reader.read_append, hmagic, htake, hid]
  rw [Usda.Reader.read_quoted rfl hquotes]
  rfl

theorem read_frame_opens (prims : List Usda.Prim) (n : Nat)
    : (insideFrames prims).read ("        def Scope \"f_" ++ toString n ++ "\" \x7b\n")
        =
      { insideFrames (prims ++ [⟨some 1, "Scope", "f_" ++ toString n⟩]) with
        opened := [some (2 + prims.length), some 1, some 0] } := by
  have hquotes : '"' ∉ (toString n).toList := by
    rw [Nat.toString_eq_repr, Nat.toList_repr]
    intro hmem
    exact absurd (Nat.isDigit_of_mem_toDigits (by decide) (by decide) hmem) (by decide)
  have hname : (insideFrames prims).read "        def Scope \"f_"
      = { insideFrames prims with
          scan := .quoted ['f', '_'], pending := [.word "Scope", .word "def"] } := by
    rfl
  simp only [Usda.Reader.read_append, hname]
  rw [Usda.Reader.read_quoted rfl hquotes]
  have hprim : String.ofList (['f', '_'] ++ (toString n).toList) = "f_" ++ toString n := by
    rw [← String.toList_inj, String.toList_ofList, String.toList_append]
    rfl
  rw [← hprim, Nat.add_comm 2]
  show Usda.Reader.mk _ _ (some ([_, _] ++ prims).length :: _) (([_, _] ++ prims) ++ [_]) _ _ = _
  rw [List.append_assoc]
  rfl

theorem read_exportFrame (text : FloatText F) {prims : List Usda.Prim} {out : String}
    (hout : Usda.Reader.start.read out = insideFrames prims) {frame : RecordedFrame F}
    (hframe : frame.attributes = [])
    : Usda.Reader.start.read (exportFrame text out frame)
        = insideFrames (prims ++ [framePrim frame]) := by
  rw [exportFrame, hframe, List.foldl_nil, Usda.Reader.read_append, Usda.Reader.read_append, hout,
    read_frame_opens]
  rfl

theorem read_exportFrames (text : FloatText F) {frames : List (RecordedFrame F)}
    (hframes : ∀ frame ∈ frames, frame.attributes = []) {prims : List Usda.Prim} {out : String}
    (hout : Usda.Reader.start.read out = insideFrames prims)
    : Usda.Reader.start.read (frames.foldl (exportFrame text) out)
        = insideFrames (prims ++ frames.map framePrim) := by
  induction frames generalizing prims out with
  | nil => simpa using hout
  | cons frame frames ih =>
    have hfirst := read_exportFrame text hout (hframes frame List.mem_cons_self)
    rw [List.foldl_cons, ih (fun f hf => hframes f (List.mem_cons_of_mem _ hf)) hfirst]
    simp

/--
The text of a recording without attributes, as it is read.
-/
def bare (frames : List (RecordedFrame F)) : Usda.Reader :=
  { insideFrames (frames.map framePrim) with opened := [] }

theorem readText_exportText (text : FloatText F) {recording : RecordingFile F}
    (hframes : ∀ frame ∈ recording.frames, frame.attributes = [])
    : Usda.readText (exportText text recording)
        = bare recording.frames := by
  have hheader := read_header recording.manifest.recordingId
  rw [Usda.readText, exportText_eq, Usda.Reader.read_append, Usda.Reader.read_append,
    read_exportFrames text hframes hheader]
  rfl

theorem isIdentifier_frameName (n : Nat) : Usda.isIdentifier ("f_" ++ toString n) = true := by
  have hname : ("f_" ++ toString n).toList = 'f' :: '_' :: Nat.toDigits 10 n := by
    rw [String.toList_append, Nat.toString_eq_repr, Nat.toList_repr]
    rfl
  have hdigits : ∀ c ∈ Nat.toDigits 10 n, c.isDigit = true := fun c hc =>
    Nat.isDigit_of_mem_toDigits (by decide) (by decide) hc
  simp only [Usda.isIdentifier, hname, List.all_cons, Bool.and_eq_true, List.all_eq_true,
    Bool.or_eq_true]
  exact ⟨by decide, by decide, fun c hc => .inr (hdigits c hc)⟩

theorem frameName_injective : Function.Injective fun n : Nat => "f_" ++ toString n := by
  intro m n h
  have hdigits : Nat.toDigits 10 m = Nat.toDigits 10 n := by
    simpa [Nat.toString_eq_repr, ← String.toList_inj] using h
  rw [← Nat.ofDigitChars_ten_toDigits (n := m), hdigits, Nat.ofDigitChars_ten_toDigits]

theorem namesInside_bare (frames : List (RecordedFrame F)) (n : Nat)
    : (bare frames).namesInside (some n) "Scope"
        = (if n = 0 then ["Frames"] else [])
          ++ if n = 1 then
            (frames.map RecordedFrame.timestampNs).map fun n => "f_" ++ toString n
          else
            [] := by
  have hframes : ((frames.map framePrim).filter fun prim =>
      decide (prim.parent = some n ∧ prim.kind = "Scope")).map Usda.Prim.name
      = if n = 1 then
        (frames.map RecordedFrame.timestampNs).map fun n => "f_" ++ toString n
      else
        [] := by
    rw [List.filter_map, List.map_map, List.map_map]
    by_cases hn : n = 1
    . subst hn
      simp [Function.comp_def, framePrim]
    . simp [Function.comp_def, framePrim, hn, Ne.symm hn]
  rw [← hframes]
  by_cases hn : n = 0
  . simp [Usda.Reader.namesInside, bare, insideFrames, hn]
  . simp [Usda.Reader.namesInside, bare, insideFrames, hn, Ne.symm hn]

theorem primNames_bare (frames : List (RecordedFrame F))
    : ∀ prim ∈ (bare frames).prims, Usda.isIdentifier prim.name = true := by
  intro prim hprim
  rcases List.mem_append.mp hprim with hprim | hprim
  . have hnames : ∀ prim ∈ [(⟨none, "Xform", "MotionStageTake"⟩ : Usda.Prim),
        ⟨some 0, "Scope", "Frames"⟩], Usda.isIdentifier prim.name = true := by
      decide
    exact hnames prim hprim
  . obtain ⟨frame, -, rfl⟩ := List.mem_map.mp hprim
    exact isIdentifier_frameName frame.timestampNs

theorem properties_bare (frames : List (RecordedFrame F))
    : (bare frames).properties = [⟨some 0, "recording_id"⟩] :=
  rfl

theorem wellFormed_iff_of_bare (text : FloatText F) {recording : RecordingFile F}
    (hframes : ∀ frame ∈ recording.frames, frame.attributes = [])
    : WellFormed (exportText text recording)
        ↔ (recording.frames.map RecordedFrame.timestampNs).Nodup := by
  have hread : Usda.readText (exportText text recording) = bare recording.frames :=
    readText_exportText text hframes
  constructor
  . intro h
    have hnodup := h.frames 1 ⟨some 0, "Scope", "Frames"⟩ (by rw [hread]; rfl) rfl
    rw [hread, namesInside_bare] at hnodup
    exact hnodup.of_map
  . intro hnodup
    constructor
    . intro n prim _ _
      rw [hread, namesInside_bare]
      by_cases hn : n = 1
      . simpa [hn] using hnodup.map frameName_injective
      . by_cases hn : n = 0 <;> simp [*]
    . intro n prim _ _
      rw [hread, Usda.Reader.propertiesOf, properties_bare]
      exact (List.nodup_singleton _).sublist (List.filter_sublist.map _)
    . rw [hread]
      exact primNames_bare recording.frames
    . rw [hread, properties_bare]
      decide
    . rw [hread]
      rfl
    . rw [hread]
      exact ⟨rfl, rfl⟩

theorem prefix_append (s t : String) : s.toList <+: (s ++ t).toList := by
  rw [String.toList_append]
  exact List.prefix_append s.toList t.toList

theorem prefix_foldl {α : Type} {f : String → α → String}
    (hf : ∀ out item, out.toList <+: (f out item).toList) (items : List α) (out : String)
    : out.toList <+: (items.foldl f out).toList := by
  induction items generalizing out with
  | nil => exact List.prefix_rfl
  | cons item items ih => exact (hf out item).trans (ih (f out item))

def upToAttributes (out : String) (frame : RecordedFrame F) : String :=
  out ++ ("        def Scope \"f_" ++ toString frame.timestampNs ++ "\" \x7b\n")

def upToName (out : String) (attr : RecordedAttribute F) : String :=
  out ++ ("            custom string o" ++ attr.objectId.display)

theorem prefix_exportFrame (text : FloatText F) (out : String) (frame : RecordedFrame F)
    : (upToAttributes out frame).toList <+: (exportFrame text out frame).toList := by
  have hattributes := prefix_foldl (fun out attr => prefix_append out (exportAttribute text attr))
    frame.attributes (upToAttributes out frame)
  exact hattributes.trans (prefix_append _ "        \x7d\n")

theorem append_regroup (out a b c d e f g : String)
    : out ++ (a ++ b ++ c ++ d ++ e ++ f ++ g) = out ++ (a ++ b) ++ (c ++ d ++ e ++ f ++ g) := by
  simp only [String.append_assoc]

theorem prefix_attribute (text : FloatText F) (out : String) (attr : RecordedAttribute F)
    : (upToName out attr).toList <+: (out ++ exportAttribute text attr).toList := by
  have hname : out ++ exportAttribute text attr
      = upToName out attr
        ++ ("_" ++ attr.attr ++ " = \"" ++ encodeValue text attr.value ++ "\"\n") :=
    append_regroup _ _ _ _ _ _ _ _
  rw [hname]
  exact prefix_append _ _

theorem prefix_foldl_exportFrame (text : FloatText F) (frames : List (RecordedFrame F))
    (out : String)
    : out.toList <+: (frames.foldl (exportFrame text) out).toList :=
  prefix_foldl (fun out frame => (prefix_append out _).trans (prefix_exportFrame text out frame))
    frames out

/--
The name of the first property of a frame is pasted together from the identifier of its object.
-/
theorem prefix_exportText (text : FloatText F) {recording : RecordingFile F}
    {earlier later : List (RecordedFrame F)} {frame : RecordedFrame F}
    (hframes : recording.frames = earlier ++ frame :: later)
    {attr : RecordedAttribute F} {attrs : List (RecordedAttribute F)}
    (hattributes : frame.attributes = attr :: attrs)
    : (upToName (upToAttributes (earlier.foldl (exportFrame text)
          (header recording.manifest.recordingId)) frame) attr).toList
        <+: (exportText text recording).toList := by
  generalize hout : earlier.foldl (exportFrame text) (header recording.manifest.recordingId) = out
  have hframe : (upToName (upToAttributes out frame) attr).toList
      <+: (exportFrame text out frame).toList := by
    refine (prefix_attribute text _ attr).trans ?_
    have hrest := prefix_foldl (fun out attr => prefix_append out (exportAttribute text attr)) attrs
      (upToAttributes out frame ++ exportAttribute text attr)
    rw [exportFrame, hattributes, List.foldl_cons]
    exact hrest.trans (prefix_append _ "        \x7d\n")
  rw [exportText_eq, hframes, List.foldl_append, hout, List.foldl_cons]
  refine hframe.trans ((prefix_foldl_exportFrame text later _).trans ?_)
  exact (prefix_append _ "    \x7d\n").trans (prefix_append _ "\x7d\n")

theorem read_property_opens (opened : List (Option Nat)) (prims : List Usda.Prim)
    (properties : List Usda.Property) (underflow : Bool)
    : Usda.Reader.read ⟨.between, [], opened, prims, properties, underflow⟩
          "            custom string o"
        = ⟨.word ['o'], [.word "string", .word "custom"], opened, prims, properties, underflow⟩ := by
  have htext : "            custom string o"
      = "            " ++ "custom " ++ "string " ++ "o" := by
    decide
  have hcustom : Usda.Reader.read ⟨.between, [], opened, prims, properties, underflow⟩ "custom "
      = ⟨.between, [.word "custom"], opened, prims, properties, underflow⟩ := by
    rfl
  have hstring : Usda.Reader.read ⟨.between, [.word "custom"], opened, prims, properties, underflow⟩
        "string "
      = ⟨.between, [.word "string", .word "custom"], opened, prims, properties, underflow⟩ := by
    rfl
  rw [htext]
  simp only [Usda.Reader.read_append]
  rw [show Usda.Reader.read ⟨.between, [], opened, prims, properties, underflow⟩ "            "
    = ⟨.between, [], opened, prims, properties, underflow⟩ from rfl, hcustom, hstring]
  rfl

theorem read_upToName {prims : List Usda.Prim} {out : String}
    (hout : Usda.Reader.start.read out = insideFrames prims) (frame : RecordedFrame F)
    (attr : RecordedAttribute F)
    : (Usda.Reader.start.read (upToName (upToAttributes out frame) attr)).scan
          = .word ('o' :: attr.objectId.display.toList)
        ∧ Usda.declares (Usda.Reader.start.read (upToName (upToAttributes out frame) attr)).pending
          = true := by
  have hword : ∀ c ∈ attr.objectId.display.toList, Usda.isDelimiter c = false := by
    intro c hc
    have hall : (Uuid.displayChars.all fun c => !Usda.isDelimiter c) = true := by decide
    simpa using List.all_eq_true.mp hall c (Uuid.mem_displayChars hc)
  rw [upToName, Usda.Reader.read_append, upToAttributes, Usda.Reader.read_append _ out, hout,
    read_frame_opens, Usda.Reader.read_append, insideFrames, read_property_opens,
    Usda.Reader.read_word rfl hword]
  exact ⟨rfl, rfl⟩

theorem not_isIdentifier_of_uuid {name : String} {objectId : Uuid}
    (h : 'o' :: objectId.display.toList <+: name.toList)
    : Usda.isIdentifier name = false := by
  by_contra hidentifier
  rw [Bool.not_eq_false] at hidentifier
  have hhyphen : '-' ∈ objectId.display.toList := by simp [Uuid.display]
  have hmem : '-' ∈ name.toList := h.subset (List.mem_cons_of_mem _ hhyphen)
  have hletter := Usda.letter_or_digit_of_isIdentifier hidentifier hmem
  revert hletter
  decide

theorem not_wellFormed_of_attribute (text : FloatText F) {recording : RecordingFile F}
    (h : ∃ frame ∈ recording.frames, frame.attributes ≠ [])
    : ¬ WellFormed (exportText text recording) := by
  -- the first frame that has an attribute
  obtain ⟨frame, hfind⟩ : ∃ frame, recording.frames.find? (fun frame => !frame.attributes.isEmpty)
      = some frame := by
    obtain ⟨frame, hmem, hne⟩ := h
    rw [← Option.isSome_iff_exists, List.find?_isSome]
    exact ⟨frame, hmem, by simpa using hne⟩
  obtain ⟨hframe, earlier, later, hframes, hbare⟩ := List.find?_eq_some_iff_append.mp hfind
  obtain ⟨attr, attrs, hattributes⟩ :=
    List.exists_cons_of_ne_nil (by simpa using hframe : frame.attributes ≠ [])
  have hread := read_exportFrames text (fun f hf => by simpa using hbare f hf)
    (read_header recording.manifest.recordingId)
  obtain ⟨hscan, hdeclares⟩ := read_upToName hread frame attr
  obtain ⟨rest, hrest⟩ := prefix_exportText text hframes hattributes
  obtain ⟨property, hproperty, hname⟩ :=
    Usda.Reader.exists_property_of_word hscan hdeclares rest
  intro hwellFormed
  have hidentifier := hwellFormed.propertyNames property (by
    rw [Usda.readText, Usda.Reader.read, ← hrest, List.foldl_append]
    exact hproperty)
  rw [not_isIdentifier_of_uuid hname] at hidentifier
  cases hidentifier

theorem wellFormed_exportText_iff (text : FloatText F) (recording : RecordingFile F)
    : WellFormed (exportText text recording)
        ↔ (∀ frame ∈ recording.frames, frame.attributes = [])
          ∧ (recording.frames.map RecordedFrame.timestampNs).Nodup := by
  by_cases hframes : ∀ frame ∈ recording.frames, frame.attributes = []
  . rw [wellFormed_iff_of_bare text hframes]
    exact (and_iff_right hframes).symm
  . refine iff_of_false ?_ fun h => hframes h.1
    apply not_wellFormed_of_attribute
    push Not at hframes
    exact hframes

def rationalText : FloatText Floats.rational where
  f32 := fun (a : Rat) => toString a
  f64 := fun (a : Rat) => toString a

def moved : RecordingFile Floats.rational where
  manifest := ⟨0, 0, 1, 2, 1⟩
  markers := []
  frames := [⟨1, .recording, [⟨0, "position", .vec3f #v[(1 : Rat), (2 : Rat), (3 : Rat)]⟩]⟩]
  version := .v2

def repeated : RecordingFile Floats.rational where
  manifest := ⟨0, 0, 1, 2, 2⟩
  markers := []
  frames := [⟨1, .recording, []⟩, ⟨1, .recording, []⟩]
  version := .v2

/--
The name of the property that stands for the position has the hyphens of a UUID in it, and two
frames at the same time have one name.
-/
theorem wellFormed_exportText_fails
    : ¬ WellFormed (exportText rationalText moved)
        ∧ ¬ WellFormed (exportText rationalText repeated) := by
  constructor
  . apply not_wellFormed_of_attribute
    exact ⟨_, List.mem_singleton_self _, List.cons_ne_nil _ _⟩
  . rw [wellFormed_iff_of_bare]
    . decide
    . intro frame hframe
      have hempty : ∀ frame ∈ repeated.frames, frame.attributes.isEmpty = true := by decide
      exact List.isEmpty_iff.mp (hempty frame hframe)

end Usd

end MotionStage
