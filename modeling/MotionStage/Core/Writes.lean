import MotionStage.Core.Batch

/-!
This module contains who may write what: for every operation of the runtime, the attributes whose
baseline or current value it can change.
-/

namespace MotionStage

variable {F : Floats}

def Scene.attributeAt (scene : Scene F) (objectId : ObjectId) (name : String)
    : Option (SceneAttribute F) :=
  (scene.objects.get? objectId).bind fun object => object.attributes.get? name

namespace RuntimeCore

theorem attributeAt_loadScene (self : RuntimeCore F) (scene : Scene F) (t : Target)
    : (self.loadScene scene).2.attributeAt t
        =
      if t.scene = scene.id then scene.attributeAt t.object t.attr else self.attributeAt t := by
  simp only [attributeAt, loadScene, IndexMap.get?_insert]
  split <;> rfl

def BaselineSync.sync (sync : BaselineSync F) (attr : SceneAttribute F) : SceneAttribute F :=
  if sync.differs attr then sync.assign attr else attr

theorem BaselineSync.run_attributes (sync : BaselineSync F) (object : SceneObject F)
    : (sync.run object).2.attributes = object.attributes.mapValues sync.sync :=
  rfl

theorem BaselineSync.reset_defaultValue (attr : SceneAttribute F)
    : (reset.sync attr).defaultValue = attr.defaultValue := by
  unfold sync
  split <;> rfl

theorem BaselineSync.commit_currentValue (attr : SceneAttribute F)
    : (commit.sync attr).currentValue = attr.currentValue := by
  unfold sync
  split <;> rfl

theorem attributeAt_syncScene (self : RuntimeCore F) (sync : BaselineSync F) (sceneId : SceneId)
    (t : Target)
    : (self.syncScene sync sceneId).2.attributeAt t
        =
      if t.scene = sceneId then (self.attributeAt t).map sync.sync else self.attributeAt t := by
  unfold syncScene
  cases hscene : self.scenes.get? sceneId with
  | none =>
    dsimp only
    split
    . next heq => simp [attributeAt, heq, hscene]
    . rfl
  | some scene =>
    simp only [attributeAt, IndexMap.get?_modify]
    by_cases heq : t.scene = sceneId
    . simp only [heq, if_true, hscene, Option.map_some, Option.bind_some, IndexMap.get?_mapValues]
      cases scene.objects.get? t.object with
      | none => rfl
      | some object => simp [BaselineSync.run_attributes]
    . simp only [heq, if_false]

theorem attributeAt_commitObjectBaseline (self : RuntimeCore F) (sceneId : SceneId)
    (objectId : ObjectId) (t : Target)
    : (self.commitObjectBaseline sceneId objectId).2.attributeAt t
        =
      if t.scene = sceneId ∧ t.object = objectId then
        (self.attributeAt t).map BaselineSync.commit.sync
      else
        self.attributeAt t := by
  unfold commitObjectBaseline
  cases hscene : self.scenes.get? sceneId with
  | none =>
    dsimp only
    split
    . next heq => simp [attributeAt, heq.1, hscene]
    . rfl
  | some scene =>
    dsimp only
    cases hobject : scene.objects.get? objectId with
    | none =>
      dsimp only
      split
      . next heq => simp [attributeAt, heq.1, heq.2, hscene, hobject]
      . rfl
    | some object =>
      simp only [attributeAt, IndexMap.get?_modify]
      by_cases heq : t.scene = sceneId
      . simp only [heq, if_true, hscene, Option.map_some, Option.bind_some, true_and,
          IndexMap.get?_modify]
        by_cases heq' : t.object = objectId
        . simp [heq', hobject, BaselineSync.run_attributes]
        . simp [heq']
      . simp only [heq, if_false, false_and]

end RuntimeCore

namespace RuntimeOp

/--
The operations that write no attribute: everything about the mode, mappings, leases, connections,
the scheduler and the choice of the active scene.
-/
def isAdministrative : RuntimeOp F → Bool
  | .setActiveScene _ | .setMode _ | .registerDeviceConnected _ | .registerDeviceDisconnected _ _
  | .heartbeat _ _ | .createMapping _ _ _ | .updateMapping _ _ _ | .removeMapping _
  | .setMappingLock _ _ | .schedulerTick _ => true
  | .loadScene _ | .applyUpdates _ _ _ | .resetSceneToBaseline _ | .commitSceneBaseline _
  | .commitObjectBaseline _ _ => false

def mayWriteDefault (t : Target) : RuntimeOp F → Bool
  | .loadScene scene => scene.id == t.scene
  | .commitSceneBaseline sceneId => sceneId == t.scene
  | .commitObjectBaseline sceneId objectId => sceneId == t.scene && objectId == t.object
  | _ => false

end RuntimeOp

namespace RuntimeCore

def MayWriteCurrent (s : RuntimeCore F) (t : Target) : RuntimeOp F → Prop
  | .loadScene scene => scene.id = t.scene
  | .resetSceneToBaseline sceneId => sceneId = t.scene
  | .applyUpdates deviceId updates _ =>
    s.mode ≠ .idle ∧ s.activeScene = some t.scene
      ∧ (∃ attr, s.attributeAt t = some attr ∧ attr.liveEnabled = true)
      ∧ ∃ m ∈ s.mappings.values, m.state = .active ∧ m.sourceDevice = deviceId ∧ m.target = t
        ∧ ∃ update ∈ updates,
            sourceOutputMatches m.sourceOutput deviceId update.outputAttribute = true
  | _ => False

theorem scenes_step {s : RuntimeCore F} {op : RuntimeOp F} (hop : op.isAdministrative = true)
    : (s.step op).scenes = s.scenes := by
  cases op with
  | setActiveScene sceneId =>
    simp only [step, setActiveScene]
    split <;> rfl
  | setMode mode =>
    simp only [step, setMode]
    split <;> rfl
  | createMapping _ _ _ | updateMapping _ _ _ | removeMapping _ | setMappingLock _ _ =>
    rw [editsMappings_frame rfl]
  | registerDeviceConnected deviceId => rfl
  | registerDeviceDisconnected deviceId nowNs => rfl
  | heartbeat deviceId nowNs => rfl
  | schedulerTick nowNs => rfl
  | loadScene scene => cases hop
  | applyUpdates deviceId updates nowNs => cases hop
  | resetSceneToBaseline sceneId => cases hop
  | commitSceneBaseline sceneId => cases hop
  | commitObjectBaseline sceneId objectId => cases hop

theorem attributeAt_step {s : RuntimeCore F} {op : RuntimeOp F} (hop : op.isAdministrative = true)
    (t : Target)
    : (s.step op).attributeAt t = s.attributeAt t := by
  unfold attributeAt
  rw [scenes_step hop]

theorem defaultAt_applyUpdates (self : RuntimeCore F) (deviceId : Uuid)
    (updates : List (AttributeUpdate F)) (nowNs : Nat) (t : Target)
    : (self.applyUpdates deviceId updates nowNs).2.defaultAt t = self.defaultAt t := by
  have happlies := self.applies_applyUpdates deviceId updates nowNs
  generalize self.applyUpdates deviceId updates nowNs = r at happlies
  cases happlies with
  | idle => rfl
  | noScene => rfl
  | loop activeScene result self' _ _ _ _ hattr =>
    simp only [defaultAt, hattr, Option.map_map]
    congr 1
    funext attr
    exact settle_defaultValue self t attr _

theorem mayWriteCurrent_of_applyUpdates {self : RuntimeCore F} {deviceId : Uuid}
    {updates : List (AttributeUpdate F)} {nowNs : Nat} {t : Target}
    (h : (self.applyUpdates deviceId updates nowNs).2.currentAt t ≠ self.currentAt t)
    : self.MayWriteCurrent t (.applyUpdates deviceId updates nowNs) := by
  have happlies := self.applies_applyUpdates deviceId updates nowNs
  generalize self.applyUpdates deviceId updates nowNs = r at happlies h
  cases happlies with
  | idle => exact absurd rfl h
  | noScene => exact absurd rfl h
  | loop activeScene result self' hmode hscene _ _ hattr =>
    simp only [currentAt, hattr, Option.map_map] at h
    cases ht : self.attributeAt t with
    | none =>
      rw [ht] at h
      exact absurd rfl h
    | some attr =>
      rw [ht] at h
      simp only [Option.map_some, Function.comp_apply, ne_eq, Option.some.injEq] at h
      -- the value can only have moved if the attribute is live and some update is routed to it
      have hlive : attr.liveEnabled = true := by
        by_contra hlive
        simp only [Bool.not_eq_true] at hlive
        apply h
        rw [settle_eq_self (.inl hlive)]
      have hrouted : ∃ update ∈ updates.takeWhile (self.accepts deviceId activeScene), ∃ m,
          self.route deviceId activeScene update.outputAttribute = some m ∧ m.target = t := by
        by_contra hnone
        simp only [not_exists, not_and] at hnone
        apply h
        rw [settle_eq_self (.inr hnone)]
      obtain ⟨update, hupdate, m, hroute, htarget⟩ := hrouted
      obtain ⟨hmem, hactive, hsource, htscene⟩ := route_spec hroute
      have hactiveScene : self.activeScene = some t.scene := by
        rw [hscene, ← htscene, ← htarget]
        rfl
      exact ⟨hmode, hactiveScene, ⟨attr, ht, hlive⟩, m, hmem, hactive, hsource, htarget, update,
        (List.takeWhile_sublist _).subset hupdate, route_matches hroute⟩

theorem defaultAt_step {s : RuntimeCore F} {op : RuntimeOp F} {t : Target}
    (hop : op.mayWriteDefault t = false)
    : (s.step op).defaultAt t = s.defaultAt t := by
  by_cases hadmin : op.isAdministrative = true
  . rw [defaultAt, attributeAt_step hadmin, defaultAt]
  . cases op with
    | loadScene scene =>
      simp only [RuntimeOp.mayWriteDefault, beq_eq_false_iff_ne] at hop
      simp only [step, defaultAt, attributeAt_loadScene, if_neg (Ne.symm hop)]
    | applyUpdates deviceId updates nowNs => exact s.defaultAt_applyUpdates deviceId updates nowNs t
    | resetSceneToBaseline sceneId =>
      simp only [step, resetSceneToBaseline, defaultAt, attributeAt_syncScene]
      split
      . simp [Function.comp_def, BaselineSync.reset_defaultValue]
      . rfl
    | commitSceneBaseline sceneId =>
      simp only [RuntimeOp.mayWriteDefault, beq_eq_false_iff_ne] at hop
      simp only [step, commitSceneBaseline, defaultAt, attributeAt_syncScene, if_neg (Ne.symm hop)]
    | commitObjectBaseline sceneId objectId =>
      simp only [RuntimeOp.mayWriteDefault, Bool.and_eq_false_imp, beq_iff_eq,
        beq_eq_false_iff_ne] at hop
      simp only [step, defaultAt, attributeAt_commitObjectBaseline]
      rw [if_neg]
      rintro ⟨hscene, hobject⟩
      exact hop hscene.symm hobject.symm
    | _ => exact absurd rfl hadmin

theorem currentAt_step {s : RuntimeCore F} {op : RuntimeOp F} {t : Target}
    (hop : ¬ s.MayWriteCurrent t op)
    : (s.step op).currentAt t = s.currentAt t := by
  by_cases hadmin : op.isAdministrative = true
  . rw [currentAt, attributeAt_step hadmin, currentAt]
  . cases op with
    | loadScene scene =>
      simp only [step, currentAt, attributeAt_loadScene, if_neg (Ne.symm hop)]
    | applyUpdates deviceId updates nowNs =>
      by_contra h
      exact hop (mayWriteCurrent_of_applyUpdates h)
    | resetSceneToBaseline sceneId =>
      simp only [step, resetSceneToBaseline, currentAt, attributeAt_syncScene,
        if_neg (Ne.symm hop)]
    | commitSceneBaseline sceneId =>
      simp only [step, commitSceneBaseline, currentAt, attributeAt_syncScene]
      split
      . simp [Function.comp_def, BaselineSync.commit_currentValue]
      . rfl
    | commitObjectBaseline sceneId objectId =>
      simp only [step, currentAt, attributeAt_commitObjectBaseline]
      split
      . simp [Function.comp_def, BaselineSync.commit_currentValue]
      . rfl
    | _ => exact absurd rfl hadmin

theorem step_writes (s : RuntimeCore F) (op : RuntimeOp F) (t : Target)
    : ((s.step op).defaultAt t ≠ s.defaultAt t → op.mayWriteDefault t = true)
        ∧ ((s.step op).currentAt t ≠ s.currentAt t → s.MayWriteCurrent t op)
        ∧ (op.isAdministrative = true → (s.step op).attributeAt t = s.attributeAt t) := by
  refine ⟨?_, ?_, fun hadmin => attributeAt_step hadmin t⟩
  . intro hchanged
    by_contra hop
    simp only [Bool.not_eq_true] at hop
    exact hchanged (defaultAt_step hop)
  . intro hchanged
    by_contra hop
    exact hchanged (currentAt_step hop)

/--
The relation holds between an attribute and what one write makes of it: an update, a reset or a
commit.
-/
structure Evolves (R : SceneAttribute F → SceneAttribute F → Prop) : Prop where
  refl : ∀ attr, R attr attr
  trans : ∀ {a b c}, R a b → R b c → R a c
  write : ∀ {attr value mask v}, nextValue attr value mask = .ok v
    → R attr { attr with currentValue := v }
  reset : ∀ attr, R attr (BaselineSync.reset.sync attr)
  commit : ∀ attr, R attr (BaselineSync.commit.sync attr)

namespace Evolves

variable {R : SceneAttribute F → SceneAttribute F → Prop}

theorem settle (h : Evolves R) (s : RuntimeCore F) (deviceId : Uuid) (activeScene : SceneId)
    (t : Target) (attr : SceneAttribute F) (updates : List (AttributeUpdate F))
    : R attr (s.settle deviceId activeScene t attr updates) := by
  unfold RuntimeCore.settle
  induction updates generalizing attr with
  | nil => exact h.refl attr
  | cons update updates ih =>
    apply h.trans _ (ih _)
    unfold settleOne
    split
    . exact h.refl attr
    . split
      . split
        . exact h.refl attr
        . next hnext => exact h.write hnext
      . exact h.refl attr

theorem step (h : Evolves R) {s : RuntimeCore F} {op : RuntimeOp F}
    (hop : ∀ scene, op ≠ .loadScene scene) (t : Target)
    : Option.Rel R (s.attributeAt t) ((s.step op).attributeAt t) := by
  have hsame : Option.Rel R (s.attributeAt t) (s.attributeAt t) := rel_self h.refl _
  by_cases hadmin : op.isAdministrative = true
  . rw [attributeAt_step hadmin]
    exact hsame
  . cases op with
    | loadScene scene => exact absurd rfl (hop scene)
    | applyUpdates deviceId updates nowNs =>
      have happlies := s.applies_applyUpdates deviceId updates nowNs
      simp only [RuntimeCore.step]
      generalize s.applyUpdates deviceId updates nowNs = r at happlies
      cases happlies with
      | idle => exact hsame
      | noScene => exact hsame
      | loop activeScene result self' _ _ _ _ hattr =>
        rw [hattr]
        exact rel_map (fun attr => h.settle s deviceId activeScene t attr _) _
    | resetSceneToBaseline sceneId =>
      simp only [RuntimeCore.step, resetSceneToBaseline, attributeAt_syncScene]
      split
      . exact rel_map h.reset _
      . exact hsame
    | commitSceneBaseline sceneId =>
      simp only [RuntimeCore.step, commitSceneBaseline, attributeAt_syncScene]
      split
      . exact rel_map h.commit _
      . exact hsame
    | commitObjectBaseline sceneId objectId =>
      simp only [RuntimeCore.step, attributeAt_commitObjectBaseline]
      split
      . exact rel_map h.commit _
      . exact hsame
    | _ => exact absurd rfl hadmin

end Evolves

end RuntimeCore

end MotionStage
