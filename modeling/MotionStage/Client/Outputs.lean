import MotionStage.Data.Strings
import MotionStage.Server.Stage

/-!
This module contains the output names of the clients. A client puts the identifier of its device in
front of a name, the runtime and the server take it off again when they compare two names. Of
`Uuid::parse_str` only the answer whether it accepts a string is used, which is a parameter.
-/

namespace MotionStage

variable (parseStr : String → Bool)

def Simulate.qualifySourceOutput (deviceId : Uuid) (outputAttribute : String) : String :=
  let normalized := Text.trim outputAttribute
  if normalized = "" then
    normalized
  else
    let expected := deviceId.display ++ "."
    if (Text.stripPrefix? normalized expected).isSome then
      normalized
    else
      let start := Text.firstSegment normalized '.'
      if parseStr start then
        normalized
      else
        deviceId.display ++ "." ++ normalized

def SwiftSdk.qualifySourceOutput (deviceId : Uuid) (outputAttribute : String) : String :=
  let normalized := Text.trim outputAttribute
  if normalized = "" then
    normalized
  else
    let expected := deviceId.display ++ "."
    if (Text.stripPrefix? normalized expected).isSome then
      normalized
    else
      let start := Text.firstSegment normalized '.'
      if parseStr start then
        normalized
      else
        deviceId.display ++ "." ++ normalized

theorem SwiftSdk.qualifySourceOutput_eq
    : SwiftSdk.qualifySourceOutput parseStr = Simulate.qualifySourceOutput parseStr :=
  rfl

theorem ServerState.sourceOutputMatches_eq
    : ServerState.sourceOutputMatches = MotionStage.sourceOutputMatches :=
  rfl

theorem sourceOutputMatches_iff {mappingOutput updateOutput : String} {deviceId : Uuid}
    : sourceOutputMatches mappingOutput deviceId updateOutput = true
        ↔
      mappingOutput = updateOutput
        ∨ mappingOutput = deviceId.display ++ "." ++ updateOutput
        ∨ updateOutput = deviceId.display ++ "." ++ mappingOutput := by
  simp only [sourceOutputMatches, Bool.or_eq_true, beq_iff_eq, Text.stripPrefix?_eq_some_iff,
    or_assoc]

/--
The name does not carry an identifier, neither the one of the device nor another one.
-/
structure Unqualified (name : String) : Prop where
  nonempty : name ≠ ""
  segment : parseStr (Text.firstSegment name '.') = false

variable {parseStr} {deviceId : Uuid}

theorem firstSegment_qualified (deviceId : Uuid) (name : String)
    : Text.firstSegment (deviceId.display ++ "." ++ name) '.' = deviceId.display := by
  have hdot : "." = String.singleton '.' := by decide
  rw [hdot]
  exact Text.firstSegment_append (Uuid.not_mem_display (by decide)) name

theorem Unqualified.ne_append (hparse : ∀ u : Uuid, parseStr u.display = true) {name : String}
    (h : Unqualified parseStr name) (deviceId : Uuid) (rest : String)
    : name ≠ deviceId.display ++ "." ++ rest := by
  intro heq
  have hsegment := h.segment
  rw [heq, firstSegment_qualified, hparse] at hsegment
  cases hsegment

namespace Simulate

theorem qualifySourceOutput_of_unqualified (hparse : ∀ u : Uuid, parseStr u.display = true)
    {name : String} (h : Unqualified parseStr (Text.trim name)) (deviceId : Uuid)
    : qualifySourceOutput parseStr deviceId name = deviceId.display ++ "." ++ Text.trim name := by
  have hstrip : (Text.stripPrefix? (Text.trim name) (deviceId.display ++ ".")).isSome = false := by
    rw [Option.isSome_eq_false_iff, Option.isNone_iff_eq_none, Option.eq_none_iff_forall_ne_some]
    intro rest hrest
    exact h.ne_append hparse deviceId rest (Text.stripPrefix?_eq_some_iff.mp hrest)
  simp [qualifySourceOutput, h.nonempty, hstrip, h.segment]

theorem trimmed_qualified {name : String} (h : Text.Trimmed name)
    : Text.Trimmed (deviceId.display ++ "." ++ name) :=
  (deviceId.trimmed_display.append Text.trimmed_dot).append h

theorem qualifySourceOutput_of_trimmed {name : String} (h : Text.Trimmed name)
    (hcarries : name = "" ∨ (∃ rest, name = deviceId.display ++ "." ++ rest)
      ∨ parseStr (Text.firstSegment name '.') = true)
    : qualifySourceOutput parseStr deviceId name = name := by
  unfold qualifySourceOutput
  rw [Text.trim_of_trimmed h]
  dsimp only
  rcases hcarries with rfl | ⟨rest, hrest⟩ | hparses
  . rfl
  . rw [Text.stripPrefix?_eq_some_iff.mpr hrest]
    split <;> rfl
  . rw [hparses]
    split
    . rfl
    . split <;> rfl

theorem qualifySourceOutput_idempotent (parseStr : String → Bool) (deviceId : Uuid) (name : String)
    : qualifySourceOutput parseStr deviceId (qualifySourceOutput parseStr deviceId name)
        =
      qualifySourceOutput parseStr deviceId name := by
  apply qualifySourceOutput_of_trimmed
  . unfold qualifySourceOutput
    dsimp only
    split
    . exact Text.trimmed_trim name
    . split
      . exact Text.trimmed_trim name
      . split
        . exact Text.trimmed_trim name
        . exact trimmed_qualified (Text.trimmed_trim name)
  . unfold qualifySourceOutput
    dsimp only
    split
    . next hempty => exact .inl hempty
    . split
      . next hstrip =>
        obtain ⟨rest, hrest⟩ := Option.isSome_iff_exists.mp hstrip
        exact .inr (.inl ⟨rest, Text.stripPrefix?_eq_some_iff.mp hrest⟩)
      . split
        . next hparses => exact .inr (.inr hparses)
        . exact .inr (.inl ⟨_, rfl⟩)

/--
The two forms in which the name of an output comes along.
-/
def Spells (parseStr : String → Bool) (deviceId : Uuid) (name spelled : String) : Prop :=
  spelled = Text.trim name ∨ spelled = qualifySourceOutput parseStr deviceId name

theorem sourceOutputMatches_spelled (hparse : ∀ u : Uuid, parseStr u.display = true)
    {a b x y : String} (ha : Unqualified parseStr (Text.trim a))
    (hb : Unqualified parseStr (Text.trim b)) (hx : Spells parseStr deviceId a x)
    (hy : Spells parseStr deviceId b y)
    : sourceOutputMatches x deviceId y = true ↔ Text.trim a = Text.trim b := by
  have hnea := ha.ne_append hparse deviceId
  have hneb := hb.ne_append hparse deviceId
  unfold Spells at hx hy
  rw [qualifySourceOutput_of_unqualified hparse ha] at hx
  rw [qualifySourceOutput_of_unqualified hparse hb] at hy
  rw [sourceOutputMatches_iff]
  generalize deviceId.display ++ "." = start at *
  generalize Text.trim a = a at *
  generalize Text.trim b = b at *
  rcases hx with rfl | rfl <;> rcases hy with rfl | rfl
  . simp [hnea, hneb]
  . simp [hnea, String.append_right_inj, eq_comm]
  . simp [hneb, Ne.symm (hneb _), String.append_right_inj]
  . simp [hnea, hneb, String.append_right_inj]

end Simulate

theorem qualified_names_route (hparse : ∀ u : Uuid, parseStr u.display = true) (deviceId : Uuid)
    : (∀ name, Simulate.qualifySourceOutput parseStr deviceId
          (Simulate.qualifySourceOutput parseStr deviceId name)
            = Simulate.qualifySourceOutput parseStr deviceId name)
        ∧ (∀ a b x y, Unqualified parseStr (Text.trim a) → Unqualified parseStr (Text.trim b)
          → Simulate.Spells parseStr deviceId a x → Simulate.Spells parseStr deviceId b y
          → (sourceOutputMatches x deviceId y = true ↔ Text.trim a = Text.trim b))
        ∧ (∀ d name, SwiftSdk.qualifySourceOutput parseStr d name
            = Simulate.qualifySourceOutput parseStr d name)
        ∧ (∀ x d y, ServerState.sourceOutputMatches x d y = sourceOutputMatches x d y) := by
  refine ⟨Simulate.qualifySourceOutput_idempotent parseStr deviceId, ?_, ?_, ?_⟩
  . intro a b x y ha hb hx hy
    exact Simulate.sourceOutputMatches_spelled hparse ha hb hx hy
  . intro d name
    rw [SwiftSdk.qualifySourceOutput_eq]
  . intro x d y
    rw [ServerState.sourceOutputMatches_eq]

/--
The hyphenated form, which is one of those that the parser accepts.
-/
def acceptsHyphenated (s : String) : Bool :=
  s.toList.length = 36 && s.toList.all fun c => c ∈ Uuid.displayChars

theorem qualified_names_route_position
    : sourceOutputMatches "demo.position" 7
          (Simulate.qualifySourceOutput acceptsHyphenated 7 " demo.position ") = true
        ↔
      Text.trim "demo.position" = Text.trim " demo.position " := by
  have hparse : ∀ u : Uuid, acceptsHyphenated u.display = true := by
    intro u
    rw [acceptsHyphenated, Bool.and_eq_true, decide_eq_true_iff, List.all_eq_true]
    exact ⟨u.length_display, fun c hc => decide_eq_true (Uuid.mem_displayChars hc)⟩
  have hname : Unqualified acceptsHyphenated "demo.position" := ⟨by decide, by decide⟩
  have htrim : Text.trim "demo.position" = "demo.position" := by decide
  have htrim' : Text.trim " demo.position " = "demo.position" := by decide
  have hroute := (qualified_names_route hparse 7).2.1 "demo.position" " demo.position "
    "demo.position" (Simulate.qualifySourceOutput acceptsHyphenated 7 " demo.position ")
  rw [htrim, htrim'] at hroute
  rw [htrim, htrim']
  exact hroute hname hname (.inl htrim.symm) (.inr rfl)

end MotionStage
