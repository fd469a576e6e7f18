import MotionStage.Core.Kind

/-!
This module contains the validity of active mappings: the target of an active mapping exists and its
component mask suits the value it finds there. Validity is checked when a mapping is assigned, so
what can break it later is a write that gives an attribute a value of another kind, or a scene that
replaces another one.
-/

namespace MotionStage

variable {F : Floats}

/--
What `validate_component_mask` asks of a mask for a target with this value.
-/
def MaskFits (value : AttributeValue F) : Option (List Nat) → Prop
  | none => True
  | some mask =>
    mask ≠ [] ∧ value.kind ≠ .mat4f
      ∧ match vectorLen value with
        | some targetLen => mask.Nodup ∧ ∀ index ∈ mask, index < targetLen
        | none => mask.length = 1

theorem vectorLen_of_kind_eq {a b : AttributeValue F} (h : a.kind = b.kind)
    : vectorLen a = vectorLen b := by
  cases a <;> cases b <;> cases h <;> rfl

theorem maskFits_congr {a b : AttributeValue F} (h : a.kind = b.kind) (mask : Option (List Nat))
    : MaskFits a mask ↔ MaskFits b mask := by
  cases mask with
  | none => exact Iff.rfl
  | some mask => simp only [MaskFits, h, vectorLen_of_kind_eq h]

theorem AttributeValue.kind_eq_of_eq {a b : AttributeValue F} (h : a.eq b = true)
    : a.kind = b.kind := by
  cases a <;> cases b <;> first | rfl | cases h

namespace RuntimeCore

theorem checkMaskIndices_ok_iff {targetLen : Nat} {seen : Finset Nat} {mask : List Nat}
    : checkMaskIndices targetLen seen mask = .ok ()
        ↔
      mask.Nodup ∧ (∀ index ∈ mask, index < targetLen) ∧ ∀ index ∈ mask, index ∉ seen := by
  induction mask generalizing seen with
  | nil => simp [checkMaskIndices]
  | cons index mask ih =>
    simp only [checkMaskIndices]
    split
    . next hbound =>
      simp only [reduceCtorEq, false_iff]
      rintro ⟨-, hlt, -⟩
      exact absurd (hlt index List.mem_cons_self) (by omega)
    . next hbound =>
      split
      . next hseen =>
        simp only [reduceCtorEq, false_iff]
        rintro ⟨-, -, hfresh⟩
        exact hfresh index List.mem_cons_self hseen
      . next hseen =>
        rw [ih]
        simp only [List.nodup_cons, List.mem_cons, forall_eq_or_imp, Finset.mem_insert, not_or]
        constructor
        . rintro ⟨hnodup, hlt, hfresh⟩
          have hmem : index ∉ mask := fun h => (hfresh index h).1 rfl
          exact ⟨⟨hmem, hnodup⟩, ⟨by omega, hlt⟩, hseen, fun i hi => (hfresh i hi).2⟩
        . rintro ⟨⟨hmem, hnodup⟩, ⟨-, hlt⟩, -, hfresh⟩
          refine ⟨hnodup, hlt, fun i hi => ⟨?_, hfresh i hi⟩⟩
          rintro rfl
          exact hmem hi

theorem ensureTargetExists_ok_iff {self : RuntimeCore F} {t : Target}
    : self.ensureTargetExists t = .ok () ↔ ∃ attr, self.attributeAt t = some attr := by
  unfold ensureTargetExists attributeAt
  cases self.scenes.get? t.scene with
  | none => simp
  | some scene =>
    simp only [Option.bind_some]
    cases scene.objects.get? t.object with
    | none => simp
    | some object =>
      simp only [Option.bind_some]
      rw [← Option.isSome_iff_exists]
      change _ ↔ object.attributes.contains t.attr = true
      cases object.attributes.contains t.attr <;> simp

theorem targetAttributeValue_of_attributeAt {self : RuntimeCore F} {t : Target}
    {attr : SceneAttribute F} (h : self.attributeAt t = some attr)
    : self.targetAttributeValue t = .ok attr.currentValue := by
  unfold attributeAt at h
  obtain ⟨scene, hscene, h⟩ := Option.bind_eq_some_iff.mp h
  obtain ⟨object, hobject, hattr⟩ := Option.bind_eq_some_iff.mp h
  simp [targetAttributeValue, hscene, hobject, hattr]

theorem validateComponentMask_ok_iff {self : RuntimeCore F} {t : Target} {attr : SceneAttribute F}
    (h : self.attributeAt t = some attr) (mask : Option (List Nat))
    : self.validateComponentMask t mask = .ok () ↔ MaskFits attr.currentValue mask := by
  cases mask with
  | none => simp [validateComponentMask, MaskFits]
  | some mask =>
    simp only [validateComponentMask, targetAttributeValue_of_attributeAt h, MaskFits]
    cases mask with
    | nil => simp
    | cons index mask =>
      simp only [List.isEmpty_cons, Bool.false_eq_true, if_false, ne_eq, reduceCtorEq,
        not_false_eq_true, true_and]
      cases attr.currentValue with
      | mat4f v => simp [AttributeValue.kind]
      | vec2f v | vec3f v | vec4f v | quatf v =>
        simp [AttributeValue.kind, vectorLen, checkMaskIndices_ok_iff]
      | bool v | int32 v | float32 v | float64 v | trigger v =>
        simp only [AttributeValue.kind, vectorLen, reduceCtorEq, not_false_eq_true, true_and]
        split <;> simp_all

def Fits (self : RuntimeCore F) (t : Target) (mask : Option (List Nat)) : Prop :=
  self.ensureTargetExists t = .ok () ∧ self.validateComponentMask t mask = .ok ()

def ActiveMapping (self : RuntimeCore F) (m : Mapping) : Prop :=
  m ∈ self.mappings.values ∧ m.state = .active

def Valid (self : RuntimeCore F) : Prop :=
  ∀ m, self.ActiveMapping m → self.Fits m.target m.componentMask

theorem fits_iff {self : RuntimeCore F} {t : Target} {mask : Option (List Nat)}
    : self.Fits t mask
        ↔
      ∃ attr, self.attributeAt t = some attr ∧ MaskFits attr.currentValue mask := by
  unfold Fits
  rw [ensureTargetExists_ok_iff]
  constructor
  . rintro ⟨⟨attr, hattr⟩, hmask⟩
    exact ⟨attr, hattr, (validateComponentMask_ok_iff hattr mask).mp hmask⟩
  . rintro ⟨attr, hattr, hmask⟩
    exact ⟨⟨attr, hattr⟩, (validateComponentMask_ok_iff hattr mask).mpr hmask⟩

theorem fits_congr {s s' : RuntimeCore F} {t : Target} (h : s'.attributeAt t = s.attributeAt t)
    (mask : Option (List Nat))
    : s'.Fits t mask ↔ s.Fits t mask := by
  rw [fits_iff, fits_iff, h]

theorem fits_of_acceptsRequest {self : RuntimeCore F} {req : MappingRequest}
    (h : self.acceptsRequest req = true)
    : self.Fits req.target req.componentMask :=
  (acceptsRequest_iff.mp h).2

def RoutedTo (s : RuntimeCore F) (deviceId : Uuid) (activeScene : SceneId) (t : Target)
    (update : AttributeUpdate F) : Prop :=
  ∃ m, s.route deviceId activeScene update.outputAttribute = some m ∧ m.target = t

/--
The updates of a batch that `apply_updates` gets through, one of which is routed to `t`.
-/
def Reaches (s : RuntimeCore F) (t : Target) (deviceId : Uuid) (updates : List (AttributeUpdate F))
    : Prop :=
  s.mode ≠ .idle ∧ ∃ activeScene, s.activeScene = some activeScene
    ∧ ∃ update ∈ updates.takeWhile (s.accepts deviceId activeScene),
        s.RoutedTo deviceId activeScene t update

/--
The operation gives the attribute at `t` a current value of the kind of its default value: the reset
of its scene, and an update that is composed from the baseline.
-/
def Rebases (s : RuntimeCore F) (t : Target) (attr : SceneAttribute F) : RuntimeOp F → Prop
  | .resetSceneToBaseline sceneId => t.scene = sceneId
  | .applyUpdates deviceId updates _ =>
    attr.liveEnabled = true ∧ supportsRelativeComposition attr.defaultValue = true
      ∧ s.Reaches t deviceId updates
  | _ => False

/--
A scene that is loaded has every attribute that an active mapping targets in it, with a value that
the mask of the mapping suits. Any other operation leaves the attributes that active mappings target
with a value of the kind they have, or their masks suit the kind of the baseline as well.
-/
def KeepsValid (s : RuntimeCore F) (op : RuntimeOp F) : Prop :=
  match op with
  | .loadScene scene =>
    ∀ m, s.ActiveMapping m → m.targetScene = scene.id
      → ∃ attr, scene.attributeAt m.targetObject m.targetAttribute = some attr
          ∧ MaskFits attr.currentValue m.componentMask
  | op =>
    ∀ m, s.ActiveMapping m → ∀ attr, s.attributeAt m.target = some attr
      → s.Rebases m.target attr op → MaskFits attr.defaultValue m.componentMask

theorem kind_nextValue_of_relative {attr : SceneAttribute F} {value v : AttributeValue F}
    {mask : Option (List Nat)} (hrel : supportsRelativeComposition attr.defaultValue = true)
    (h : nextValue attr value mask = .ok v)
    : v.kind = attr.defaultValue.kind := by
  simp only [nextValue, hrel, if_true] at h
  split at h
  . cases h
  . next transformed htransformed =>
    cases h
    rw [kind_applyFilters]
    split at htransformed
    . cases htransformed
    . exact kind_composeRelativeValue htransformed

section Reached

variable {s : RuntimeCore F} {deviceId : Uuid} {activeScene : SceneId} {t : Target}

theorem settleOne_of_not_routedTo {update : AttributeUpdate F}
    (h : ¬ s.RoutedTo deviceId activeScene t update) (attr : SceneAttribute F)
    : s.settleOne deviceId activeScene t attr update = attr := by
  unfold settleOne
  split
  . rfl
  . next m hroute =>
    rw [if_neg]
    rintro ⟨ht, -⟩
    exact h ⟨m, hroute, ht⟩

theorem settle_of_reached {updates : List (AttributeUpdate F)}
    (h : ∃ update ∈ updates, s.RoutedTo deviceId activeScene t update)
    : ∃ update ∈ updates, ∃ rest, s.RoutedTo deviceId activeScene t update
        ∧ ∀ attr, s.settle deviceId activeScene t attr updates
            = s.settle deviceId activeScene t (s.settleOne deviceId activeScene t attr update)
                rest := by
  induction updates with
  | nil => simp at h
  | cons update updates ih =>
    by_cases hhead : s.RoutedTo deviceId activeScene t update
    . exact ⟨update, List.mem_cons_self, updates, hhead, fun _ => rfl⟩
    . obtain ⟨u, hu, hrouted⟩ := h
      have hmem : u ∈ updates := by
        rcases List.mem_cons.mp hu with rfl | hu
        . exact absurd hrouted hhead
        . exact hu
      obtain ⟨first, hfirst, rest, hroutedFirst, hsettle⟩ := ih ⟨u, hmem, hrouted⟩
      refine ⟨first, List.mem_cons_of_mem _ hfirst, rest, hroutedFirst, fun attr => ?_⟩
      rw [← hsettle attr]
      simp only [settle, List.foldl_cons, settleOne_of_not_routedTo hhead]

theorem settleOne_of_accepts {attr : SceneAttribute F} {update : AttributeUpdate F}
    (hattr : s.attributeAt t = some attr) (hlive : attr.liveEnabled = true)
    (haccepts : s.accepts deviceId activeScene update = true)
    (hrouted : s.RoutedTo deviceId activeScene t update)
    : ∃ m v, s.route deviceId activeScene update.outputAttribute = some m ∧ m.target = t
        ∧ nextValue attr update.value m.componentMask = .ok v
        ∧ s.settleOne deviceId activeScene t attr update = { attr with currentValue := v } := by
  obtain ⟨m, hroute, rfl⟩ := hrouted
  simp only [accepts, hroute, hattr, hlive, Bool.not_true, Bool.false_or] at haccepts
  cases hnext : nextValue attr update.value m.componentMask with
  | error e =>
    rw [hnext] at haccepts
    cases haccepts
  | ok v =>
    refine ⟨m, v, hroute, rfl, hnext, ?_⟩
    simp [settleOne, hroute, hlive, hnext]

theorem kind_settle_of_reached {attr : SceneAttribute F} (hattr : s.attributeAt t = some attr)
    (hlive : attr.liveEnabled = true)
    (hrel : supportsRelativeComposition attr.defaultValue = true)
    {updates : List (AttributeUpdate F)}
    (haccepts : ∀ update ∈ updates, s.accepts deviceId activeScene update = true)
    (hreached : ∃ update ∈ updates, s.RoutedTo deviceId activeScene t update)
    : (s.settle deviceId activeScene t attr updates).currentValue.kind
        =
      attr.defaultValue.kind := by
  obtain ⟨update, hupdate, rest, hrouted, hsettle⟩ := settle_of_reached hreached
  obtain ⟨m, v, -, -, hnext, hone⟩ :=
    settleOne_of_accepts hattr hlive (haccepts update hupdate) hrouted
  -- from this update on the attribute has one kind
  have hkind : { attr with currentValue := v }.HasKind attr.defaultValue.kind :=
    ⟨rfl, kind_nextValue_of_relative hrel hnext⟩
  rw [hsettle, hone]
  exact (hasKind_settle s deviceId activeScene t hkind rest).2

theorem kind_settle_of_not_reached {attr : SceneAttribute F} {updates : List (AttributeUpdate F)}
    (h : attr.liveEnabled = false ∨ supportsRelativeComposition attr.defaultValue = false
      ∨ ¬ ∃ update ∈ updates, s.RoutedTo deviceId activeScene t update)
    : (s.settle deviceId activeScene t attr updates).currentValue.kind
        =
      attr.currentValue.kind := by
  rcases h with hlive | hrel | hnone
  . rw [settle_eq_self (.inl hlive)]
  . have hsame : attr.Interchangeable (s.settle deviceId activeScene t attr updates) :=
      interchangeable_settle s t attr updates
    apply AttributeValue.kind_eq_of_typeName_eq
    exact hsame.2.resolve_left (by simp [hrel])
  . rw [settle_eq_self (.inr fun update hmem m hroute ht => hnone ⟨update, hmem, m, hroute, ht⟩)]

end Reached

def KindAfter (s : RuntimeCore F) (op : RuntimeOp F) (t : Target) (before after : SceneAttribute F)
    : Prop :=
  (s.Rebases t before op → after.currentValue.kind = before.defaultValue.kind)
    ∧ (¬ s.Rebases t before op → after.currentValue.kind = before.currentValue.kind)

theorem kindAfter_self {s : RuntimeCore F} {op : RuntimeOp F} {t : Target}
    {attr : SceneAttribute F} (h : ¬ s.Rebases t attr op)
    : s.KindAfter op t attr attr :=
  ⟨fun hrebases => absurd hrebases h, fun _ => rfl⟩

theorem kind_reset (attr : SceneAttribute F)
    : (BaselineSync.reset.sync attr).currentValue.kind = attr.defaultValue.kind := by
  unfold BaselineSync.sync
  split
  . rfl
  . next hsame =>
    simp only [BaselineSync.reset, Bool.not_eq_true', Bool.not_eq_false] at hsame
    exact AttributeValue.kind_eq_of_eq hsame

theorem kindAfter_applyUpdates (s : RuntimeCore F) (deviceId : Uuid)
    (updates : List (AttributeUpdate F)) (nowNs : Nat) (t : Target)
    : Option.Rel (s.KindAfter (.applyUpdates deviceId updates nowNs) t) (s.attributeAt t)
        ((s.applyUpdates deviceId updates nowNs).2.attributeAt t) := by
  have happlies := s.applies_applyUpdates deviceId updates nowNs
  generalize s.applyUpdates deviceId updates nowNs = r at happlies
  cases happlies with
  | idle hmode =>
    apply rel_self
    intro attr
    apply kindAfter_self
    rintro ⟨-, -, hlive, -⟩
    exact hlive hmode
  | noScene _ hscene =>
    apply rel_self
    intro attr
    apply kindAfter_self
    rintro ⟨-, -, -, activeScene, hactive, -⟩
    rw [hscene] at hactive
    cases hactive
  | loop activeScene result self' hmode hscene _ _ hattr =>
    dsimp only
    rw [hattr]
    cases ht : s.attributeAt t with
    | none => exact .none
    | some attr =>
      refine .some ⟨?_, ?_⟩
      . rintro ⟨hlive, hrel, -, activeScene', hactive, hreached⟩
        rw [hscene, Option.some.injEq] at hactive
        subst hactive
        exact kind_settle_of_reached ht hlive hrel
          (List.all_eq_true.mp List.all_takeWhile) hreached
      . intro hrebases
        apply kind_settle_of_not_reached
        by_contra hcontra
        simp only [not_or, Bool.not_eq_false, not_not] at hcontra
        exact hrebases ⟨hcontra.1, hcontra.2.1, hmode, activeScene, hscene, hcontra.2.2⟩

theorem kindAfter_commit {s : RuntimeCore F} {op : RuntimeOp F} {t : Target}
    (h : ∀ attr, ¬ s.Rebases t attr op) (attr : SceneAttribute F)
    : s.KindAfter op t attr (BaselineSync.commit.sync attr) := by
  refine ⟨fun hrebases => absurd hrebases (h attr), fun _ => ?_⟩
  rw [BaselineSync.commit_currentValue]

theorem kindAfter_step {s : RuntimeCore F} {op : RuntimeOp F} (hop : ∀ scene, op ≠ .loadScene scene)
    (t : Target)
    : Option.Rel (s.KindAfter op t) (s.attributeAt t) ((s.step op).attributeAt t) := by
  have hunchanged : (∀ attr, ¬ s.Rebases t attr op)
      → Option.Rel (s.KindAfter op t) (s.attributeAt t) (s.attributeAt t) := by
    intro h
    exact rel_self (fun attr => kindAfter_self (h attr)) _
  by_cases hadmin : op.isAdministrative = true
  . rw [attributeAt_step hadmin]
    apply hunchanged
    intro attr
    cases op <;> first | exact id | cases hadmin
  . cases op with
    | loadScene scene => exact absurd rfl (hop scene)
    | applyUpdates deviceId updates nowNs =>
      exact kindAfter_applyUpdates s deviceId updates nowNs t
    | resetSceneToBaseline sceneId =>
      simp only [step, resetSceneToBaseline, attributeAt_syncScene]
      split
      . next hscene =>
        apply rel_map
        intro attr
        exact ⟨fun _ => kind_reset attr, fun h => absurd hscene h⟩
      . next hscene => exact hunchanged fun _ => hscene
    | commitSceneBaseline sceneId =>
      simp only [step, commitSceneBaseline, attributeAt_syncScene]
      split
      . exact rel_map (kindAfter_commit fun _ => id) _
      . exact hunchanged fun _ => id
    | commitObjectBaseline sceneId objectId =>
      simp only [step, attributeAt_commitObjectBaseline]
      split
      . exact rel_map (kindAfter_commit fun _ => id) _
      . exact hunchanged fun _ => id
    | _ => exact absurd rfl hadmin

theorem fits_step_iff {s : RuntimeCore F} {op : RuntimeOp F}
    (hop : ∀ scene, op ≠ .loadScene scene) {t : Target} {mask : Option (List Nat)}
    (hfits : s.Fits t mask)
    : (s.step op).Fits t mask
        ↔
      ∀ attr, s.attributeAt t = some attr → s.Rebases t attr op
        → MaskFits attr.defaultValue mask := by
  rw [fits_iff] at hfits ⊢
  obtain ⟨before, hbefore, hmask⟩ := hfits
  have hkind : Option.Rel (s.KindAfter op t) _ _ := kindAfter_step hop t
  rw [hbefore] at hkind ⊢
  generalize (s.step op).attributeAt t = after at hkind
  obtain ⟨hrebases, hkeeps⟩ | _ := hkind
  simp only [Option.some.injEq, exists_eq_left', forall_eq']
  by_cases h : s.Rebases t before op
  . simp only [h, true_imp_iff]
    exact maskFits_congr (hrebases h) mask
  . simp only [h, false_imp_iff, iff_true]
    exact (maskFits_congr (hkeeps h) mask).mpr hmask

theorem fits_loadScene_iff {s : RuntimeCore F} {scene : Scene F} {t : Target}
    {mask : Option (List Nat)} (hfits : s.Fits t mask)
    : (s.loadScene scene).2.Fits t mask
        ↔
      (t.scene = scene.id → ∃ attr, scene.attributeAt t.object t.attr = some attr
        ∧ MaskFits attr.currentValue mask) := by
  by_cases hscene : t.scene = scene.id
  . rw [fits_iff, attributeAt_loadScene, if_pos hscene]
    simp [hscene]
  . have hsame : (s.loadScene scene).2.attributeAt t = s.attributeAt t := by
      rw [attributeAt_loadScene, if_neg hscene]
    simp only [fits_congr hsame, hfits, hscene, false_imp_iff]

theorem isAdministrative_of_assigns {op : RuntimeOp F} (h : assigns op = true)
    : op.isAdministrative = true := by
  cases op <;> first | rfl | cases h

theorem activeMapping_iff {self : RuntimeCore F} {m : Mapping}
    : self.ActiveMapping m ↔ ∃ id, self.mappings.get? id = some m ∧ m.state = .active := by
  simp [ActiveMapping, MappingTable.mem_values]

def Continues (s : RuntimeCore F) (m' : Mapping) : Prop :=
  ∃ m, s.ActiveMapping m ∧ m'.target = m.target ∧ m'.componentMask = m.componentMask

theorem continues_of_get? {s : RuntimeCore F} {id : MappingId} {m : Mapping}
    (h : s.mappings.get? id = some m) (hactive : m.state = .active)
    : s.Continues m :=
  ⟨m, activeMapping_iff.mpr ⟨id, h, hactive⟩, rfl, rfl⟩

theorem activeMapping_step {s : RuntimeCore F} {op : RuntimeOp F} {m' : Mapping}
    (hm' : (s.step op).ActiveMapping m')
    : s.Continues m' ∨ (op.isAdministrative = true ∧ s.Fits m'.target m'.componentMask) := by
  obtain ⟨id, hid, hactive⟩ := activeMapping_iff.mp hm'
  rcases (origin_step hid).of_active hactive with
    ⟨m, hm, hstate, htarget, hmask⟩ | ⟨hassigns, req, hreq, htarget, hmask⟩
  . exact .inl ⟨m, activeMapping_iff.mpr ⟨id, hm, hstate⟩, htarget, hmask⟩
  . rw [htarget, hmask]
    exact .inr ⟨isAdministrative_of_assigns hassigns, fits_of_acceptsRequest hreq⟩

theorem continues_step {s : RuntimeCore F} {op : RuntimeOp F}
    (hop : op.isAdministrative = false) {m : Mapping} (hm : s.ActiveMapping m)
    : (s.step op).Continues m := by
  obtain ⟨id, hid, hactive⟩ := activeMapping_iff.mp hm
  have hstep := tableStep_step s op
  generalize htable : (s.step op).mappings = table at hstep
  cases hstep with
  | keep => exact continues_of_get? (htable ▸ hid) hactive
  | beat _ deviceId nowNs =>
    obtain ⟨hstate, htarget, -⟩ := m.beat_keeps deviceId nowNs
    refine ⟨m.beat deviceId nowNs, activeMapping_iff.mpr ⟨id, ?_, by rw [hstate, hactive]⟩,
      htarget.symm, (m.beat_componentMask deviceId nowNs).symm⟩
    rw [htable, MappingTable.get?_mapValues, hid]
    rfl
  | _ => cases hop

theorem keepsValid_iff {s : RuntimeCore F} {op : RuntimeOp F}
    (hop : ∀ scene, op ≠ .loadScene scene)
    : s.KeepsValid op
        ↔
      ∀ m, s.ActiveMapping m → ∀ attr, s.attributeAt m.target = some attr
        → s.Rebases m.target attr op → MaskFits attr.defaultValue m.componentMask := by
  cases op with
  | loadScene scene => exact absurd rfl (hop scene)
  | _ => exact Iff.rfl

theorem valid_step_iff {s : RuntimeCore F} (h : s.Valid) (op : RuntimeOp F)
    : (s.step op).Valid ↔ s.KeepsValid op := by
  by_cases hload : ∃ scene, op = .loadScene scene
  . obtain ⟨scene, rfl⟩ := hload
    apply forall_congr'
    intro m
    apply imp_congr_right
    intro hm
    exact fits_loadScene_iff (h m hm)
  . have hop : ∀ scene, op ≠ .loadScene scene := fun scene heq => hload ⟨scene, heq⟩
    rw [keepsValid_iff hop]
    constructor
    . intro hnext m hm attr hattr hrebases
      have hscene : op.isAdministrative = false := by
        cases op <;> first | rfl | cases hrebases
      obtain ⟨m', hm', htarget, hmask⟩ := continues_step hscene hm
      have hfits := hnext m' hm'
      rw [← htarget, ← hmask] at hfits
      exact (fits_step_iff hop (h m hm)).mp hfits attr hattr hrebases
    . intro hall m' hm'
      rcases activeMapping_step hm' with ⟨m, hm, htarget, hmask⟩ | ⟨hadmin, hfits⟩
      . rw [htarget, hmask]
        exact (fits_step_iff hop (h m hm)).mpr (hall m hm)
      . exact (fits_congr (attributeAt_step hadmin _) _).mpr hfits

theorem valid_new (lease : LeaseConfig) : (new (F := F) lease).Valid := by
  rintro m ⟨hm, -⟩
  cases hm

theorem valid_run_iff (lease : LeaseConfig) (ops : List (RuntimeOp F))
    : Run.AllStates step Valid (new lease) ops ↔ Run.AllSteps step KeepsValid (new lease) ops := by
  apply Run.allStates_iff_allSteps
  . intro s op h
    exact valid_step_iff h op
  . exact valid_new lease

/--
`load_scene` looks at no mapping: loading the stage again without its panel leaves the mapping of
device 7 active and without a target.
-/
theorem valid_fails
    : ¬ (Run.run step (new (F := Floats.rational) .default)
          [.loadScene (switchScene _), .createMapping (switchRequest 7 "left") 10 100,
            .loadScene (Scene.new 1 "stage")]).Valid := by
  intro h
  have hfits := h (newMapping (switchRequest 7 "left") 10 100) ⟨by decide, by decide⟩
  cases hfits.1

def WellKinded (s : RuntimeCore F) : Prop :=
  ∀ t attr, s.attributeAt t = some attr → attr.currentValue.kind = attr.defaultValue.kind

theorem wellKinded_step {s : RuntimeCore F} (h : s.WellKinded) {op : RuntimeOp F}
    (hop : ∀ scene, op = .loadScene scene → scene.WellKinded)
    : (s.step op).WellKinded := by
  intro t attr hattr
  by_cases hload : ∃ scene, op = .loadScene scene
  . obtain ⟨scene, rfl⟩ := hload
    simp only [step, attributeAt_loadScene] at hattr
    split at hattr
    . exact hop scene rfl _ _ _ hattr
    . exact h t attr hattr
  . obtain ⟨before, hbefore, hkind⟩ := hasKind_step (fun scene heq => hload ⟨scene, heq⟩) hattr
    obtain ⟨hdefault, hcurrent⟩ := hkind before.defaultValue.kind ⟨rfl, h t before hbefore⟩
    rw [hdefault, hcurrent]

def KeepsTargets (s : RuntimeCore F) : RuntimeOp F → Prop
  | .loadScene scene => s.KeepsValid (.loadScene scene)
  | _ => True

theorem keepsValid_iff_keepsTargets {s : RuntimeCore F} (hvalid : s.Valid) (hkind : s.WellKinded)
    (op : RuntimeOp F)
    : s.KeepsValid op ↔ s.KeepsTargets op := by
  by_cases hload : ∃ scene, op = .loadScene scene
  . obtain ⟨scene, rfl⟩ := hload
    exact Iff.rfl
  . have hop : ∀ scene, op ≠ .loadScene scene := fun scene heq => hload ⟨scene, heq⟩
    have htargets : s.KeepsTargets op := by
      cases op with
      | loadScene scene => exact absurd rfl (hop scene)
      | _ => trivial
    simp only [htargets, iff_true]
    rw [keepsValid_iff hop]
    intro m hm attr hattr _
    obtain ⟨attr', hattr', hmask⟩ := fits_iff.mp (hvalid m hm)
    rw [hattr, Option.some.injEq] at hattr'
    subst hattr'
    exact (maskFits_congr (hkind _ _ hattr) _).mp hmask

/--
When the attributes of every loaded scene have one kind, as `SceneAttribute::new` builds them, only
a scene that replaces another one can leave a mapping without a valid target.
-/
theorem valid_run_iff_keepsTargets (lease : LeaseConfig) (ops : List (RuntimeOp F))
    (hops : ∀ scene, .loadScene scene ∈ ops → scene.WellKinded)
    : Run.AllStates step Valid (new lease) ops ↔ Run.AllSteps step KeepsTargets (new lease) ops := by
  rw [valid_run_iff]
  have hloads : Run.AllSteps step (fun _ op => ∀ scene, op = .loadScene scene → scene.WellKinded)
      (new lease) ops := by
    apply Run.allSteps_of_forall
    rintro op hop scene rfl
    exact hops scene hop
  apply Run.allSteps_iff_of_invariant (P := fun s => s.Valid ∧ s.WellKinded) _ _ _ hloads
  . intro s op hs _
    exact keepsValid_iff_keepsTargets hs.1 hs.2 op
  . intro s op hs hop hkeeps
    exact ⟨(valid_step_iff hs.1 op).mpr hkeeps, wellKinded_step hs.2 hop⟩
  . refine ⟨valid_new lease, ?_⟩
    intro t attr h
    cases h

end RuntimeCore

end MotionStage
