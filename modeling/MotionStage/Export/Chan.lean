import MotionStage.Data.Table
import MotionStage.Export.Usd

/-!
This module contains the CHAN exporter: a line for each channel of each recorded attribute, with
blanks between the timestamp, the object, the name of the channel and its values.
-/

namespace MotionStage

variable {F : Floats}

namespace Chan

variable (text : FloatText F)

/--
The function of the CHAN crate, which is the same as that of the USD crate.
-/
def encodeValue : AttributeValue F → String := Usd.encodeValue text

def exportAttribute (timestampNs : Nat) (attr : RecordedAttribute F) : List String :=
  let line (channel value : String) : String :=
    toString timestampNs ++ " " ++ attr.objectId.display ++ " " ++ attr.attr ++ channel ++ " "
      ++ value
  match attr.value with
  | .vec3f v => List.zipWith line [".tx", ".ty", ".tz"] (v.toList.map text.f32)
  | .quatf v => List.zipWith line [".qx", ".qy", ".qz", ".qw"] (v.toList.map text.f32)
  | value => [line "" (encodeValue text value)]

def exportFrame (frame : RecordedFrame F) : List String :=
  frame.attributes.flatMap (exportAttribute text frame.timestampNs)

def exportText (recording : RecordingFile F) : String :=
  "\n".intercalate (recording.frames.flatMap (exportFrame text))

def values : AttributeValue F → List String
  | .bool v | .trigger v => [toString v]
  | .int32 v => [toString v.toInt]
  | .float32 v => [text.f32 v]
  | .float64 v => [text.f64 v]
  | .vec2f v => v.toList.map text.f32
  | .vec3f v => v.toList.map text.f32
  | .vec4f v | .quatf v => v.toList.map text.f32
  | .mat4f v => (v.toList.flatMap Vector.toList).map text.f32

def channels : AttributeValue F → List (String × List String)
  | .vec3f v => [".tx", ".ty", ".tz"].zip (v.toList.map fun x => [text.f32 x])
  | .quatf v => [".qx", ".qy", ".qz", ".qw"].zip (v.toList.map fun x => [text.f32 x])
  | value => [("", values text value)]

def attributeRows (timestampNs : Nat) (attr : RecordedAttribute F) : List (List String) :=
  (channels text attr.value).map fun c =>
    toString timestampNs :: attr.objectId.display :: (attr.attr ++ c.1) :: c.2

/--
The recording as a table with a row for each channel of each attribute of each frame.
-/
def rows (recording : RecordingFile F) : List (List String) :=
  recording.frames.flatMap fun frame =>
    frame.attributes.flatMap (attributeRows text frame.timestampNs)

theorem values_ne_nil (value : AttributeValue F) : values text value ≠ [] := by
  cases value with
  | mat4f v =>
    apply List.ne_nil_of_length_pos
    have hrows : v.toList = v.toList.head (by simp) :: v.toList.tail := by simp
    rw [values, hrows, List.flatMap_cons]
    simp
  | vec2f v | vec3f v | vec4f v | quatf v => exact List.ne_nil_of_length_pos (by simp [values])
  | _ => exact List.cons_ne_nil _ _

theorem encodeValue_eq (value : AttributeValue F)
    : encodeValue text value = " ".intercalate (values text value) := by
  cases value <;> simp [encodeValue, Usd.encodeValue, Usd.spaced, values]

theorem line_eq (timestamp object name : String) {vs : List String} (h : vs ≠ [])
    : timestamp ++ " " ++ object ++ " " ++ name ++ " " ++ " ".intercalate vs
        = " ".intercalate (timestamp :: object :: name :: vs) := by
  rw [String.intercalate_cons_cons, String.intercalate_cons_cons,
    String.intercalate_cons_of_ne_nil h]
  simp only [String.append_assoc]

theorem exportAttribute_eq (timestampNs : Nat) (attr : RecordedAttribute F)
    : exportAttribute text timestampNs attr
        = (attributeRows text timestampNs attr).map fun row => " ".intercalate row := by
  have hsingle : ∀ channel value : String,
      toString timestampNs ++ " " ++ attr.objectId.display ++ " " ++ attr.attr ++ channel ++ " "
          ++ value
        = " ".intercalate
            [toString timestampNs, attr.objectId.display, attr.attr ++ channel, value] := by
    intro channel value
    rw [← line_eq _ _ _ (List.cons_ne_nil value []), String.intercalate_singleton]
    simp only [String.append_assoc]
  have hvalue : ∀ value : AttributeValue F,
      toString timestampNs ++ " " ++ attr.objectId.display ++ " " ++ attr.attr ++ "" ++ " "
          ++ encodeValue text value
        = " ".intercalate
            (toString timestampNs :: attr.objectId.display :: (attr.attr ++ "")
              :: values text value) := by
    intro value
    rw [← line_eq _ _ _ (values_ne_nil text value), encodeValue_eq]
    simp only [String.append_assoc]
  unfold exportAttribute attributeRows
  cases attr.value with
  | vec3f v | quatf v =>
    simp only [channels, hsingle, List.zip, List.zipWith_map_right, List.map_zipWith]
  | _ => simp only [channels, List.map_cons, List.map_nil, hvalue]

def chars (rows : List (List String)) : List (List (List Char)) :=
  rows.map fun row => row.map String.toList

theorem toList_exportText (recording : RecordingFile F)
    : (exportText text recording).toList = Table.write '\n' ' ' (chars (rows text recording)) := by
  have hlines : recording.frames.flatMap (exportFrame text)
      = (rows text recording).map fun row => " ".intercalate row := by
    simp only [rows, List.map_flatMap, ← exportAttribute_eq]
    rfl
  rw [exportText, hlines, String.toList_intercalate, Table.write, chars, List.map_map, List.map_map]
  congr 1
  apply List.map_congr_left
  intro row _
  exact String.toList_intercalate

/--
No separator of the table is in the text.
-/
def Clean (s : String) : Prop := '\n' ∉ s.toList ∧ ' ' ∉ s.toList

theorem Clean.append_iff {s t : String} : Clean (s ++ t) ↔ Clean s ∧ Clean t := by
  simp only [Clean, String.toList_append, List.mem_append, not_or]
  tauto

theorem clean_of_isDigit {s : String} (h : ∀ c ∈ s.toList, c.isDigit = true) : Clean s :=
  ⟨fun hmem => absurd (h _ hmem) (by decide), fun hmem => absurd (h _ hmem) (by decide)⟩

theorem clean_nat (n : Nat) : Clean (toString n) := by
  apply clean_of_isDigit
  intro c hc
  rw [Nat.toString_eq_repr, Nat.toList_repr] at hc
  exact Nat.isDigit_of_mem_toDigits (by decide) (by decide) hc

theorem clean_int (n : Int) : Clean (toString n) := by
  cases n with
  | ofNat n => exact clean_nat n
  | negSucc n => exact Clean.append_iff.mpr ⟨⟨by decide, by decide⟩, clean_nat (n + 1)⟩

theorem clean_display (id : Uuid) : Clean id.display :=
  ⟨fun hmem => absurd (Uuid.mem_displayChars hmem) (by decide),
    fun hmem => absurd (Uuid.mem_displayChars hmem) (by decide)⟩

theorem clean_bool (v : Bool) : Clean (toString v) := by
  cases v <;> exact ⟨by decide, by decide⟩

/--
`Display` of a float writes digits, a sign, a point, `inf` or `NaN`.
-/
structure CleanText (text : FloatText F) : Prop where
  f32 : ∀ v, Clean (text.f32 v)
  f64 : ∀ v, Clean (text.f64 v)

variable {text}

theorem clean_values (h : CleanText text) (value : AttributeValue F)
    : ∀ v ∈ values text value, Clean v := by
  have hvector : ∀ (vs : List F.f32), ∀ v ∈ vs.map text.f32, Clean v := by
    intro vs v hv
    obtain ⟨x, -, rfl⟩ := List.mem_map.mp hv
    exact h.f32 x
  intro v hv
  cases value with
  | bool b | trigger b => rw [List.mem_singleton.mp hv]; exact clean_bool b
  | int32 n => rw [List.mem_singleton.mp hv]; exact clean_int n.toInt
  | float32 x => rw [List.mem_singleton.mp hv]; exact h.f32 x
  | float64 x => rw [List.mem_singleton.mp hv]; exact h.f64 x
  | _ => exact hvector _ v hv

theorem clean_channels (h : CleanText text) {value : AttributeValue F}
    {c : String × List String} (hc : c ∈ channels text value)
    : Clean c.1 ∧ ∀ v ∈ c.2, Clean v := by
  have hfixed : Clean "" ∧ (∀ s ∈ [".tx", ".ty", ".tz"], Clean s)
      ∧ ∀ s ∈ [".qx", ".qy", ".qz", ".qw"], Clean s := by
    unfold Clean
    decide
  have hvector : ∀ xs : List F.f32, c.2 ∈ xs.map (fun x => [text.f32 x]) →
      ∀ v ∈ c.2, Clean v := by
    intro xs hmem v hv
    obtain ⟨x, -, hx⟩ := List.mem_map.mp hmem
    rw [← hx, List.mem_singleton] at hv
    exact hv ▸ h.f32 x
  cases value with
  | vec3f v =>
    obtain ⟨hname, hvalues⟩ := List.of_mem_zip hc
    exact ⟨hfixed.2.1 c.1 hname, hvector _ hvalues⟩
  | quatf v =>
    obtain ⟨hname, hvalues⟩ := List.of_mem_zip hc
    exact ⟨hfixed.2.2 c.1 hname, hvector _ hvalues⟩
  | _ =>
    rw [List.mem_singleton.mp hc]
    dsimp only
    exact ⟨hfixed.1, clean_values h _⟩

theorem channels_ne_nil (value : AttributeValue F) : channels text value ≠ [] := by
  cases value with
  | vec3f v | quatf v => exact List.ne_nil_of_length_pos (by simp [channels])
  | _ => exact List.cons_ne_nil _ _

theorem clean_attributeRows (h : CleanText text) (timestampNs : Nat) (attr : RecordedAttribute F)
    : (∀ row ∈ attributeRows text timestampNs attr, ∀ field ∈ row, Clean field)
        ↔ Clean attr.attr := by
  constructor
  . intro hrows
    obtain ⟨c, rest, hchannels⟩ := List.exists_cons_of_ne_nil (channels_ne_nil attr.value)
    have hname := hrows _ (List.mem_map.mpr ⟨c, hchannels ▸ List.mem_cons_self, rfl⟩)
      (attr.attr ++ c.1) (by simp)
    exact (Clean.append_iff.mp hname).1
  . intro hname row hrow field hfield
    obtain ⟨c, hc, rfl⟩ := List.mem_map.mp hrow
    obtain ⟨hbehind, hvalues⟩ := clean_channels h hc
    simp only [List.mem_cons] at hfield
    rcases hfield with rfl | rfl | rfl | hfield
    . exact clean_nat timestampNs
    . exact clean_display attr.objectId
    . exact Clean.append_iff.mpr ⟨hname, hbehind⟩
    . exact hvalues field hfield

theorem reads_back_iff (h : CleanText text) (recording : RecordingFile F)
    : Table.read '\n' ' ' (exportText text recording).toList = chars (rows text recording)
        ↔
      ∀ frame ∈ recording.frames, ∀ attr ∈ frame.attributes, Clean attr.attr := by
  have hlength : ∀ row ∈ chars (rows text recording), 2 ≤ row.length := by
    intro line hline
    obtain ⟨row, hrow, rfl⟩ := List.mem_map.mp hline
    obtain ⟨frame, -, hframe⟩ := List.mem_flatMap.mp hrow
    obtain ⟨attr, -, hattr⟩ := List.mem_flatMap.mp hframe
    obtain ⟨c, -, rfl⟩ := List.mem_map.mp hattr
    simp
  rw [toList_exportText, Table.read_write_iff (by decide) hlength]
  constructor
  . intro hclean frame hframe attr hattr
    refine (clean_attributeRows h frame.timestampNs attr).mp fun row hrow field hfield => ?_
    refine hclean (row.map String.toList) (List.mem_map.mpr ⟨row, ?_, rfl⟩) field.toList
      (List.mem_map.mpr ⟨field, hfield, rfl⟩)
    exact List.mem_flatMap.mpr ⟨frame, hframe, List.mem_flatMap.mpr ⟨attr, hattr, hrow⟩⟩
  . intro hnames line hline piece hpiece
    obtain ⟨row, hrow, rfl⟩ := List.mem_map.mp hline
    obtain ⟨field, hfield, rfl⟩ := List.mem_map.mp hpiece
    obtain ⟨frame, hframe, hinside⟩ := List.mem_flatMap.mp hrow
    obtain ⟨attr, hattr, hrow⟩ := List.mem_flatMap.mp hinside
    exact (clean_attributeRows h frame.timestampNs attr).mpr (hnames frame hframe attr hattr)
      row hrow field hfield

theorem cleanText_rationalText : CleanText Usd.rationalText := by
  have hclean : ∀ a : Rat, Clean (toString a) := by
    intro a
    show Clean (if a.den = 1 then toString a.num else s!"{a.num}/{a.den}")
    split
    . exact clean_int a.num
    . exact Clean.append_iff.mpr
        ⟨Clean.append_iff.mpr ⟨clean_int a.num, by decide, by decide⟩, clean_nat a.den⟩
  exact ⟨hclean, hclean⟩

theorem reads_back_iff_moved
    : Table.read '\n' ' ' (exportText Usd.rationalText Usd.moved).toList
        = chars (rows Usd.rationalText Usd.moved) :=
  (reads_back_iff cleanText_rationalText Usd.moved).mpr (by
    intro frame hframe attr hattr
    rw [List.mem_singleton.mp hframe, List.mem_singleton] at hattr
    rw [hattr]
    exact ⟨by decide, by decide⟩)

end Chan

end MotionStage
