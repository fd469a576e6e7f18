import Mathlib.Data.List.TakeWhile
import MotionStage.Core.Validity

/-!
This module contains the absence of drift: a batch that writes an attribute leaves a value behind
that is determined by the baseline and the batch, whatever value the attribute had before.
-/

namespace MotionStage

variable {F : Floats}

namespace AttributeFilter

/--
The filters that do not look at the previous value.
-/
def isMemoryless : AttributeFilter F → Bool
  | .passthrough | .clamp _ _ => true
  | .ema _ | .deadband _ => false

end AttributeFilter

theorem applyFilters_of_memoryless {filters : List (AttributeFilter F)}
    (h : ∀ filter ∈ filters, filter.isMemoryless = true)
    (previous previous' incoming : AttributeValue F)
    : applyFilters previous incoming filters = applyFilters previous' incoming filters := by
  unfold applyFilters
  induction filters generalizing incoming with
  | nil => rfl
  | cons filter filters ih =>
    have hone : applyFilter previous incoming filter = applyFilter previous' incoming filter := by
      cases filter with
      | passthrough => rfl
      | clamp min max => rfl
      | ema alpha => cases h _ List.mem_cons_self
      | deadband threshold => cases h _ List.mem_cons_self
    simp only [List.foldl_cons, hone]
    exact ih (fun f hf => h f (List.mem_cons_of_mem _ hf)) _

theorem AttributeValue.typeName_eq_of_kind_eq {a b : AttributeValue F} (h : a.kind = b.kind)
    : a.typeName = b.typeName := by
  cases a <;> cases b <;> cases h <;> rfl

theorem setScalarValue_congr {a b : AttributeValue F} (h : a.kind = b.kind) (component : F.f32)
    : setScalarValue a component = setScalarValue b component := by
  cases a <;> cases b <;> cases h <;> rfl

/--
The absolute transform starts from the current value only when it sets components of a vector.
-/
theorem applyMappingTransform_congr {a b : AttributeValue F} (h : a.kind = b.kind)
    {mask : Option (List Nat)} (hmask : vectorLen a = none ∨ mask = none)
    (incoming : AttributeValue F)
    : applyMappingTransform a incoming mask = applyMappingTransform b incoming mask := by
  have hname := AttributeValue.typeName_eq_of_kind_eq h
  unfold applyMappingTransform
  cases mask with
  | none => simp only [hname]
  | some mask =>
    have hscalar : vectorLen a = none := hmask.resolve_right (by simp)
    have hscalar' : vectorLen b = none := by rw [← vectorLen_of_kind_eq h, hscalar]
    simp only [hscalar, hscalar', Option.isSome_none, Bool.false_eq_true, if_false,
      setScalarValue_congr h]

namespace SceneAttribute

/--
The two attributes differ at most in their name, in what is recorded of them, and in current values
of one type.
-/
structure Alike (a b : SceneAttribute F) : Prop where
  kind : a.currentValue.kind = b.currentValue.kind
  defaultValue : a.defaultValue = b.defaultValue
  liveEnabled : a.liveEnabled = b.liveEnabled
  filterChain : a.filterChain = b.filterChain

/--
The next value of the attribute under the mask is composed from something else than its current
value: from the baseline, or from the incoming value alone.
-/
def Anchored (attr : SceneAttribute F) (mask : Option (List Nat)) : Prop :=
  supportsRelativeComposition attr.defaultValue = true ∨ vectorLen attr.currentValue = none
    ∨ mask = none

end SceneAttribute

namespace RuntimeCore

theorem nextValue_congr {a b : SceneAttribute F} (h : a.Alike b)
    (hfilters : ∀ filter ∈ a.filterChain, filter.isMemoryless = true) {mask : Option (List Nat)}
    (hanchored : a.Anchored mask) (value : AttributeValue F)
    : nextValue a value mask = nextValue b value mask := by
  unfold nextValue
  simp only [← h.defaultValue, ← h.filterChain,
    applyFilters_of_memoryless hfilters a.currentValue b.currentValue]
  by_cases hrel : supportsRelativeComposition a.defaultValue = true
  . simp only [hrel, if_true]
  . simp only [hrel, Bool.false_eq_true, if_false,
      applyMappingTransform_congr h.kind (hanchored.resolve_left hrel)]

theorem settleOne_converged {a b : SceneAttribute F} (h : a.Alike b)
    (hcurrent : a.currentValue = b.currentValue) (s : RuntimeCore F) (deviceId : Uuid)
    (activeScene : SceneId) (t : Target) (update : AttributeUpdate F)
    : (s.settleOne deviceId activeScene t a update).Alike
          (s.settleOne deviceId activeScene t b update)
        ∧ (s.settleOne deviceId activeScene t a update).currentValue
            =
          (s.settleOne deviceId activeScene t b update).currentValue := by
  have hnext : ∀ value mask, nextValue b value mask = nextValue a value mask := by
    intro value mask
    simp only [nextValue, h.defaultValue, h.filterChain, hcurrent]
  unfold settleOne
  rw [← h.liveEnabled]
  split
  . exact ⟨h, hcurrent⟩
  . split
    . rw [hnext]
      split
      . exact ⟨h, hcurrent⟩
      . exact ⟨⟨rfl, h.defaultValue, rfl, h.filterChain⟩, rfl⟩
    . exact ⟨h, hcurrent⟩

theorem settle_converged {a b : SceneAttribute F} (h : a.Alike b)
    (hcurrent : a.currentValue = b.currentValue) (s : RuntimeCore F) (deviceId : Uuid)
    (activeScene : SceneId) (t : Target) (updates : List (AttributeUpdate F))
    : (s.settle deviceId activeScene t a updates).currentValue
        =
      (s.settle deviceId activeScene t b updates).currentValue := by
  unfold settle
  induction updates generalizing a b with
  | nil => exact hcurrent
  | cons update updates ih =>
    obtain ⟨halike, hsame⟩ :=
      settleOne_converged h hcurrent s deviceId activeScene t update
    exact ih halike hsame

theorem settle_eq_of_reached {s : RuntimeCore F} {deviceId : Uuid} {activeScene : SceneId}
    {t : Target} {a b : SceneAttribute F} (h : a.Alike b) (ha : s.attributeAt t = some a)
    (hlive : a.liveEnabled = true)
    (hfilters : ∀ filter ∈ a.filterChain, filter.isMemoryless = true)
    (hanchored : ∀ m ∈ s.mappings.values, m.target = t → a.Anchored m.componentMask)
    {updates : List (AttributeUpdate F)}
    (haccepts : ∀ update ∈ updates, s.accepts deviceId activeScene update = true)
    (hreached : ∃ update ∈ updates, s.RoutedTo deviceId activeScene t update)
    : (s.settle deviceId activeScene t a updates).currentValue
        =
      (s.settle deviceId activeScene t b updates).currentValue := by
  obtain ⟨update, hupdate, rest, hrouted, hsettle⟩ := settle_of_reached hreached
  obtain ⟨m, v, hroute, htarget, hnext, hone⟩ :=
    settleOne_of_accepts ha hlive (haccepts update hupdate) hrouted
  have hmem := (route_spec hroute).1
  -- the first write makes the values equal, what comes after it starts from equal values
  have hnext' : nextValue b update.value m.componentMask = .ok v := by
    rw [← nextValue_congr h hfilters (hanchored m hmem htarget), hnext]
  have hone' : s.settleOne deviceId activeScene t b update = { b with currentValue := v } := by
    simp [settleOne, hroute, htarget, ← h.liveEnabled, hlive, hnext']
  have hafter : { a with currentValue := v }.Alike { b with currentValue := v } :=
    ⟨rfl, h.defaultValue, h.liveEnabled, h.filterChain⟩
  rw [hsettle, hsettle, hone, hone']
  exact settle_converged hafter rfl s deviceId activeScene t rest

theorem accepts_of_isOk {self : RuntimeCore F} {deviceId : Uuid} {activeScene : SceneId}
    {updates : List (AttributeUpdate F)} {nowNs : Nat} (hmode : self.mode ≠ .idle)
    (hscene : self.activeScene = some activeScene)
    (hok : (self.applyUpdates deviceId updates nowNs).1.isOk = true)
    : (∀ update ∈ updates, self.accepts deviceId activeScene update = true)
        ∧ ∀ t, (self.applyUpdates deviceId updates nowNs).2.attributeAt t
            = (self.attributeAt t).map fun attr =>
                self.settle deviceId activeScene t attr updates := by
  have happlies := self.applies_applyUpdates deviceId updates nowNs
  generalize self.applyUpdates deviceId updates nowNs = r at happlies hok
  cases happlies with
  | idle hidle => exact absurd hidle hmode
  | noScene _ hnone =>
    rw [hscene] at hnone
    cases hnone
  | loop active result self' _ hactive hresult _ hattr =>
    rw [hscene, Option.some.injEq] at hactive
    subst hactive
    have hall : ∀ update ∈ updates, self.accepts deviceId activeScene update = true := by
      rw [← List.all_eq_true, ← hresult]
      exact hok
    refine ⟨hall, ?_⟩
    rw [List.takeWhile_eq_self_iff.mpr hall] at hattr
    exact hattr

theorem applyUpdates_no_drift {s₁ s₂ : RuntimeCore F} {t : Target} {a₁ a₂ : SceneAttribute F}
    {deviceId : Uuid} {updates : List (AttributeUpdate F)} {nowNs : Nat}
    (hmode : s₂.mode = s₁.mode) (hscene : s₂.activeScene = s₁.activeScene)
    (hmappings : s₂.mappings = s₁.mappings)
    (h₁ : s₁.attributeAt t = some a₁) (h₂ : s₂.attributeAt t = some a₂) (halike : a₁.Alike a₂)
    (hfilters : ∀ filter ∈ a₁.filterChain, filter.isMemoryless = true)
    (hanchored : ∀ m ∈ s₁.mappings.values, m.target = t → a₁.Anchored m.componentMask)
    (hok₁ : (s₁.applyUpdates deviceId updates nowNs).1.isOk = true)
    (hok₂ : (s₂.applyUpdates deviceId updates nowNs).1.isOk = true)
    (hlive : a₁.liveEnabled = true) (hreaches : s₁.Reaches t deviceId updates)
    : (s₁.applyUpdates deviceId updates nowNs).2.currentAt t
        =
      (s₂.applyUpdates deviceId updates nowNs).2.currentAt t := by
  obtain ⟨hidle, activeScene, hactive, update, hupdate, hrouted⟩ := hreaches
  obtain ⟨haccepts, hattr₁⟩ := accepts_of_isOk hidle hactive hok₁
  obtain ⟨-, hattr₂⟩ := accepts_of_isOk (hmode ▸ hidle) (hscene ▸ hactive) hok₂
  have hsettle : s₂.settle deviceId activeScene = s₁.settle deviceId activeScene := by
    funext t attr updates
    unfold settle settleOne
    simp only [route_eq, hmappings]
  have hreached : ∃ update ∈ updates, s₁.RoutedTo deviceId activeScene t update :=
    ⟨update, (List.takeWhile_sublist _).subset hupdate, hrouted⟩
  simp only [currentAt, hattr₁, hattr₂, h₁, h₂, Option.map_some, hsettle,
    settle_eq_of_reached halike h₁ hlive hfilters hanchored haccepts hreached]

def point (x y z : Rat) : AttributeValue Floats.rational := .vec3f #v[x, y, z]

def pointAttribute (default current : AttributeValue Floats.rational)
    : SceneAttribute Floats.rational :=
  { SceneAttribute.new "point" default with currentValue := current }

def pointStage (attr : SceneAttribute Floats.rational) : RuntimeCore Floats.rational :=
  Run.run step (new .default)
    [.loadScene ((Scene.new 1 "stage").withObject ((SceneObject.new 2 "panel").withAttribute attr)),
      .setMode .live,
      .createMapping { switchRequest 7 "point" with componentMask := some [0] } 10 100]

def pointTable : MappingTable :=
  MappingTable.empty.insert
    (newMapping { switchRequest 7 "point" with componentMask := some [0] } 10 100)

def pointUpdate : List (AttributeUpdate Floats.rational) :=
  [⟨"button", .float32 (1 : Rat)⟩, ⟨"button", .float32 (2 : Rat)⟩]

theorem reaches_pointUpdate (default : AttributeValue Floats.rational)
    (h : default = .bool false ∨ default = point 4 4 4)
    : (pointStage (pointAttribute default (point 0 0 0))).Reaches ⟨1, 2, "point"⟩ 7
        pointUpdate := by
  rcases h with rfl | rfl
  . exact ⟨by decide, 1, rfl, ⟨"button", .float32 (1 : Rat)⟩, .head _, newMapping _ _ _, rfl, rfl⟩
  . exact ⟨by decide, 1, rfl, ⟨"button", .float32 (1 : Rat)⟩, .head _, newMapping _ _ _, rfl, rfl⟩

theorem applyUpdates_no_drift_point
    : ((pointStage (pointAttribute (point 4 4 4) (point 0 0 0))).applyUpdates 7 pointUpdate
          20).2.currentAt ⟨1, 2, "point"⟩
        =
      ((pointStage (pointAttribute (point 4 4 4) (point 9 9 9))).applyUpdates 7 pointUpdate
        20).2.currentAt ⟨1, 2, "point"⟩ := by
  have h₁ : (pointStage (pointAttribute (point 4 4 4) (point 0 0 0))).mappings = pointTable := rfl
  have h₂ : (pointStage (pointAttribute (point 4 4 4) (point 9 9 9))).mappings = pointTable := rfl
  have halike : (pointAttribute (point 4 4 4) (point 0 0 0)).Alike
      (pointAttribute (point 4 4 4) (point 9 9 9)) := ⟨rfl, rfl, rfl, rfl⟩
  apply applyUpdates_no_drift (by decide) (by decide) (h₂.trans h₁.symm) rfl rfl halike
  . simp [pointAttribute, SceneAttribute.new, AttributeFilter.isMemoryless]
  . intro m _ _
    exact .inl rfl
  . rfl
  . rfl
  . rfl
  . exact reaches_pointUpdate _ (.inr rfl)

/--
A boolean baseline under a vector value is not composed with: the masked write keeps the other
components of the value it finds.
-/
theorem applyUpdates_no_drift_fails
    : let t : Target := ⟨1, 2, "point"⟩
      let a₁ := pointAttribute (.bool false) (point 0 0 0)
      let a₂ := pointAttribute (.bool false) (point 0 5 0)
      let s₁ := pointStage a₁
      let s₂ := pointStage a₂
      s₂.mode = s₁.mode ∧ s₂.activeScene = s₁.activeScene ∧ s₂.mappings = s₁.mappings
        ∧ s₁.attributeAt t = some a₁ ∧ s₂.attributeAt t = some a₂ ∧ a₁.Alike a₂
        ∧ (∀ filter ∈ a₁.filterChain, filter.isMemoryless = true) ∧ a₁.liveEnabled = true
        ∧ (s₁.applyUpdates 7 pointUpdate 20).1.isOk = true
        ∧ (s₂.applyUpdates 7 pointUpdate 20).1.isOk = true
        ∧ s₁.Reaches t 7 pointUpdate
        ∧ (s₁.applyUpdates 7 pointUpdate 20).2.currentAt t = some (point 2 0 0)
        ∧ (s₂.applyUpdates 7 pointUpdate 20).2.currentAt t = some (point 2 5 0)
        ∧ point 2 0 0 ≠ point 2 5 0 := by
  intro t a₁ a₂ s₁ s₂
  have h₁ : s₁.mappings = pointTable := rfl
  have h₂ : s₂.mappings = pointTable := rfl
  refine ⟨by decide, by decide, h₂.trans h₁.symm, rfl, rfl, ⟨rfl, rfl, rfl, rfl⟩, ?_, rfl, rfl, rfl,
    reaches_pointUpdate _ (.inl rfl), rfl, rfl, ?_⟩
  . simp [a₁, pointAttribute, SceneAttribute.new, AttributeFilter.isMemoryless]
  . intro h
    injection h with h
    have := congrArg (fun v : Vector Rat 3 => v[1]) h
    exact absurd this (by decide)

end RuntimeCore

end MotionStage
