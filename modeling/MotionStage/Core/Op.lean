import MotionStage.Core.Runtime

/-!
This module contains the public operations of the runtime as data, and says once what each of them
can do to the mapping table and to the devices.
-/

namespace MotionStage

variable {F : Floats}

namespace MappingTable

variable (table : MappingTable)

@[simp]
theorem get?_empty (k : MappingId) : empty.get? k = none := by
  simp [get?, empty]

theorem get?_insert (m : Mapping) (k : MappingId)
    : (table.insert m).get? k = if k = m.id then some m else table.get? k := by
  simp [get?, insert, IndexMap.get?_insert]

theorem get?_shiftRemove (id k : MappingId)
    : (table.shiftRemove id).get? k = if k = id then none else table.get? k := by
  simp [get?, shiftRemove, IndexMap.get?_shiftRemove]

@[simp]
theorem get?_mapValues (f : Mapping → Mapping) (hf) (k : MappingId)
    : (table.mapValues f hf).get? k = (table.get? k).map f := by
  simp [get?, mapValues]

theorem get?_modify (id : MappingId) (f : Mapping → Mapping) (hf) (k : MappingId)
    : (table.modify id f hf).get? k = if k = id then (table.get? k).map f else table.get? k := by
  simp [get?, modify, IndexMap.get?_modify]

theorem id_of_get? {table : MappingTable} {k : MappingId} {m : Mapping} (h : table.get? k = some m)
    : m.id = k :=
  table.id_eq h

theorem mem_values {table : MappingTable} {m : Mapping}
    : m ∈ table.values ↔ ∃ k, table.get? k = some m :=
  IndexMap.mem_values

theorem find?_eq_some {table : MappingTable} {p : Mapping → Bool}
    {m : { m : Mapping // table.get? m.id = some m }} (h : table.find? p = some m)
    : p m.val = true := by
  unfold find? at h
  split at h
  . cases h
  . next hm =>
    cases h
    exact (IndexMap.findValue?_eq_some hm).2

theorem find?_eq_none {table : MappingTable} {p : Mapping → Bool}
    : table.find? p = none ↔ ∀ k m, table.get? k = some m → p m = false := by
  unfold find?
  split
  . next h => simpa [get?] using IndexMap.findValue?_eq_none.mp h
  . next m h =>
    obtain ⟨⟨k, hk⟩, hp⟩ := IndexMap.findValue?_eq_some h
    simp only [reduceCtorEq, false_iff, not_forall]
    exact ⟨k, m, hk, by simp [hp]⟩

theorem find?_val (table : MappingTable) (p : Mapping → Bool)
    : (table.find? p).map Subtype.val = table.values.find? p := by
  unfold find? values
  split
  . next h => simpa [IndexMap.findValue?] using h.symm
  . next h => simpa [IndexMap.findValue?] using h.symm

theorem values_mapValues (f : Mapping → Mapping) (hf)
    : (table.mapValues f hf).values = table.values.map f :=
  table.map.values_mapValues f

theorem mapValues_eq_self_iff {table : MappingTable} {f : Mapping → Mapping} {hf}
    : table.mapValues f hf = table ↔ ∀ m ∈ table.values, f m = m := by
  have hmap : table.mapValues f hf = table ↔ (table.mapValues f hf).map.entries = table.map.entries := by
    constructor
    . intro h
      rw [h]
    . intro h
      rcases table with ⟨⟨entries, nodup⟩, id_eq⟩
      simp only [mapValues, IndexMap.mapValues] at h ⊢
      simp only [h]
  rw [hmap]
  simp only [mapValues, IndexMap.mapValues, values, IndexMap.values, List.mem_map,
    forall_exists_index, and_imp, forall_apply_eq_imp_iff₂]
  nth_rewrite 2 [← List.map_id table.map.entries]
  rw [List.map_inj_left]
  constructor
  . intro h e he
    exact congrArg Prod.snd (h e he)
  . intro h e he
    rw [h e he]
    rfl

end MappingTable

inductive RuntimeOp (F : Floats) where
  | loadScene (scene : Scene F)
  | setActiveScene (sceneId : SceneId)
  | setMode (mode : Mode)
  | registerDeviceConnected (deviceId : Uuid)
  | registerDeviceDisconnected (deviceId : Uuid) (nowNs : Nat)
  | heartbeat (deviceId : Uuid) (nowNs : Nat)
  | createMapping (req : MappingRequest) (nowNs : Nat) (id : MappingId)
  | updateMapping (mappingId : MappingId) (req : MappingRequest) (nowNs : Nat)
  | removeMapping (mappingId : MappingId)
  | setMappingLock (mappingId : MappingId) (lock : Bool)
  | schedulerTick (nowNs : Nat)
  | applyUpdates (deviceId : Uuid) (updates : List (AttributeUpdate F)) (nowNs : Nat)
  | resetSceneToBaseline (sceneId : SceneId)
  | commitSceneBaseline (sceneId : SceneId)
  | commitObjectBaseline (sceneId : SceneId) (objectId : ObjectId)

def RuntimeOp.editsMappings : RuntimeOp F → Bool
  | .createMapping _ _ _ | .updateMapping _ _ _ | .removeMapping _ | .setMappingLock _ _ => true
  | _ => false

namespace RuntimeCore

def step (self : RuntimeCore F) : RuntimeOp F → RuntimeCore F
  | .loadScene scene => (self.loadScene scene).2
  | .setActiveScene sceneId => (self.setActiveScene sceneId).2
  | .setMode mode => (self.setMode mode).2
  | .registerDeviceConnected deviceId => self.registerDeviceConnected deviceId
  | .registerDeviceDisconnected deviceId nowNs => self.registerDeviceDisconnected deviceId nowNs
  | .heartbeat deviceId nowNs => self.heartbeat deviceId nowNs
  | .createMapping req nowNs id => (self.createMapping req nowNs id).2
  | .updateMapping mappingId req nowNs => (self.updateMapping mappingId req nowNs).2
  | .removeMapping mappingId => (self.removeMapping mappingId).2
  | .setMappingLock mappingId lock => (self.setMappingLock mappingId lock).2
  | .schedulerTick nowNs => self.schedulerTick nowNs
  | .applyUpdates deviceId updates nowNs => (self.applyUpdates deviceId updates nowNs).2
  | .resetSceneToBaseline sceneId => (self.resetSceneToBaseline sceneId).2
  | .commitSceneBaseline sceneId => (self.commitSceneBaseline sceneId).2
  | .commitObjectBaseline sceneId objectId => (self.commitObjectBaseline sceneId objectId).2

/--
The checks that `create_mapping` and `update_mapping` make before they look at the mapping table.
-/
def acceptsRequest (self : RuntimeCore F) (req : MappingRequest) : Bool :=
  self.mode ≠ .recording && (self.ensureTargetExists req.target).isOk
    && (self.validateComponentMask req.target req.componentMask).isOk

theorem findMappingForTarget_eq_none {self : RuntimeCore F} {t : Target}
    : self.findMappingForTarget t = none
        ↔
      ∀ k m, self.mappings.get? k = some m → m.state = .active → m.target ≠ t := by
  simp [findMappingForTarget, MappingTable.find?_eq_none, ownsTarget]

theorem findMappingForTarget_eq_some {self : RuntimeCore F} {t : Target}
    {m : { m : Mapping // self.mappings.get? m.id = some m }}
    (h : self.findMappingForTarget t = some m)
    : m.val.state = .active ∧ m.val.target = t := by
  have := MappingTable.find?_eq_some h
  simpa [ownsTarget] using this

theorem applyUpdate_spec {deviceId : Uuid} {activeScene : SceneId} {self self' : RuntimeCore F}
    {update : AttributeUpdate F} {applied applied' : Applied F}
    (h : applyUpdate deviceId activeScene self update applied = .ok (applied', self'))
    : ∃ m attr, self.route deviceId activeScene update.outputAttribute = some m
        ∧ self.attributeAt m.target = some attr
        ∧ ((attr.liveEnabled = false ∧ self' = self)
            ∨
          (attr.liveEnabled = true
            ∧ ∃ v, nextValue attr update.value m.componentMask = .ok v
              ∧ self' = self.writeCurrent m.target v)) := by
  unfold applyUpdate at h
  split at h
  . cases h
  . next m hroute =>
    split at h
    . cases h
    . next scene hscene =>
      split at h
      . cases h
      . next object hobject =>
        split at h
        . cases h
        . next attr hattr =>
          have hat : self.attributeAt m.target = some attr := by
            simp [attributeAt, Mapping.target, hscene, hobject, hattr]
          refine ⟨m, attr, hroute, hat, ?_⟩
          split at h
          . next hlive =>
            simp only [Except.ok.injEq, Prod.mk.injEq] at h
            exact .inl ⟨by simpa using hlive, h.2.symm⟩
          . next hlive =>
            split at h
            . cases h
            . next v hv =>
              simp only [Except.ok.injEq, Prod.mk.injEq] at h
              exact .inr ⟨by simpa using hlive, v, hv, h.2.symm⟩

theorem applyUpdate_frame {deviceId : Uuid} {activeScene : SceneId} {self self' : RuntimeCore F}
    {update : AttributeUpdate F} {applied applied' : Applied F}
    (h : applyUpdate deviceId activeScene self update applied = .ok (applied', self'))
    : self' = { self with scenes := self'.scenes } := by
  obtain ⟨m, attr, -, -, ⟨-, rfl⟩ | ⟨-, v, -, rfl⟩⟩ := applyUpdate_spec h
  . rfl
  . rfl

theorem applyUpdatesLoop_invariant {P : RuntimeCore F → Prop} {deviceId : Uuid}
    {activeScene : SceneId} (htick : ∀ s n, P s → P { s with tickCount := n })
    (hwrite : ∀ s output m v, s.route deviceId activeScene output = some m → P s
      → P (s.writeCurrent m.target v))
    {self : RuntimeCore F} (h : P self) (updates : List (AttributeUpdate F)) (applied : Applied F)
    : P (applyUpdatesLoop deviceId activeScene self updates applied).2 := by
  induction updates generalizing self applied with
  | nil => exact htick self _ h
  | cons update updates ih =>
    simp only [applyUpdatesLoop]
    split
    . exact h
    . next hstep =>
      apply ih
      obtain ⟨m, attr, hroute, -, ⟨-, rfl⟩ | ⟨-, v, -, rfl⟩⟩ := applyUpdate_spec hstep
      . exact h
      . exact hwrite self update.outputAttribute m v hroute h

theorem applyUpdates_invariant {P : RuntimeCore F → Prop} {deviceId : Uuid}
    (htick : ∀ s n, P s → P { s with tickCount := n })
    (hwrite : ∀ s activeScene output m v, s.route deviceId activeScene output = some m → P s
      → P (s.writeCurrent m.target v))
    {self : RuntimeCore F} {nowNs : Nat} (h : P (self.heartbeat deviceId nowNs))
    (updates : List (AttributeUpdate F))
    : P (self.applyUpdates deviceId updates nowNs).2 := by
  unfold applyUpdates
  dsimp only
  split
  . exact h
  . split
    . exact h
    . next activeScene _ =>
      exact applyUpdatesLoop_invariant htick (fun s => hwrite s activeScene) h updates .empty

theorem applyUpdatesLoop_frame (deviceId : Uuid) (activeScene : SceneId) (self : RuntimeCore F)
    (updates : List (AttributeUpdate F)) (applied : Applied F)
    : let self' := (applyUpdatesLoop deviceId activeScene self updates applied).2
      self' = { self with scenes := self'.scenes, tickCount := self'.tickCount } := by
  apply applyUpdatesLoop_invariant
    (P := fun s => s = { self with scenes := s.scenes, tickCount := s.tickCount })
  . intro s n h
    rw [h]
  . intro s output m v _ h
    rw [h]
    rfl
  . rfl

theorem applyUpdates_frame (self : RuntimeCore F) (deviceId : Uuid)
    (updates : List (AttributeUpdate F)) (nowNs : Nat)
    : let self' := (self.applyUpdates deviceId updates nowNs).2
      self' = { self.heartbeat deviceId nowNs with
        scenes := self'.scenes, tickCount := self'.tickCount } := by
  unfold applyUpdates
  dsimp only
  split
  . rfl
  . split
    . rfl
    . apply applyUpdatesLoop_frame

theorem mappings_registerDeviceDisconnected_iff (self : RuntimeCore F) (deviceId : Uuid)
    (nowNs : Nat)
    : (self.registerDeviceDisconnected deviceId nowNs).mappings = self.mappings
        ↔
      ∀ m ∈ self.mappings.values, m.sourceDevice = deviceId → m.state = .active →
        m.disconnectedAtNs = some nowNs := by
  simp only [registerDeviceDisconnected, MappingTable.mapValues_eq_self_iff]
  apply forall₂_congr
  intro m hm
  cases m
  simp only [Mapping.disconnect]
  split
  . next h => simp [h, eq_comm]
  . next h =>
    simp only [true_iff]
    intro hsource hactive
    exact absurd ⟨hsource, hactive⟩ h

theorem syncScene_frame (self : RuntimeCore F) (sync : BaselineSync F) (sceneId : SceneId)
    : let self' := (self.syncScene sync sceneId).2
      self' = { self with scenes := self'.scenes } := by
  unfold syncScene
  split <;> rfl

theorem commitObjectBaseline_frame (self : RuntimeCore F) (sceneId : SceneId) (objectId : ObjectId)
    : let self' := (self.commitObjectBaseline sceneId objectId).2
      self' = { self with scenes := self'.scenes } := by
  unfold commitObjectBaseline
  split
  . rfl
  . split <;> rfl

/--
The table that a successful `create_mapping` leaves behind, with the checks it has passed before.
-/
inductive CreateStep (s : RuntimeCore F) (req : MappingRequest) (nowNs : Nat) (id : MappingId)
    : MappingTable → Prop where
  | free (hreq : s.acceptsRequest req = true) (hfree : s.findMappingForTarget req.target = none)
    : CreateStep s req nowNs id (s.mappings.insert (newMapping req nowNs id))
  | evict (owner) (hreq : s.acceptsRequest req = true)
    (howner : s.findMappingForTarget req.target = some owner) (hlock : owner.val.lock = false)
    (hreclaim : s.canReclaim owner.val nowNs = true)
    : CreateStep s req nowNs id
        ((s.mappings.shiftRemove owner.val.id).insert (newMapping req nowNs id))

/--
What one operation can do to the mapping table, with the checks it has passed before.
-/
inductive TableStep (s : RuntimeCore F) : RuntimeOp F → MappingTable → Prop where
  | keep (op) : TableStep s op s.mappings
  | disconnect (deviceId nowNs)
    : TableStep s (.registerDeviceDisconnected deviceId nowNs)
        (s.mappings.mapValues (Mapping.disconnect deviceId nowNs)
          (Mapping.disconnect_id deviceId nowNs))
  | beat (op deviceId nowNs)
    (hop : op = .heartbeat deviceId nowNs ∨ ∃ updates, op = .applyUpdates deviceId updates nowNs)
    : TableStep s op
        (s.mappings.mapValues (Mapping.beat deviceId nowNs) (Mapping.beat_id deviceId nowNs))
  | expire (nowNs)
    : TableStep s (.schedulerTick nowNs)
        (s.mappings.mapValues (Mapping.expire s.connectedDevices s.lease nowNs)
          (Mapping.expire_id s.connectedDevices s.lease nowNs))
  | lock (mappingId lock)
    : TableStep s (.setMappingLock mappingId lock)
        (s.mappings.modify mappingId (Mapping.setLock lock) (Mapping.setLock_id lock))
  | remove (mappingId)
    : TableStep s (.removeMapping mappingId) (s.mappings.shiftRemove mappingId)
  | retarget (mappingId req nowNs m) (hreq : s.acceptsRequest req = true)
    (hm : s.mappings.get? mappingId = some m) (hlock : m.lock = false)
    : TableStep s (.updateMapping mappingId req nowNs)
        (s.mappings.modify mappingId (Mapping.retarget req nowNs)
          (Mapping.retarget_id req nowNs))
  | create (req nowNs id table) (hcreate : CreateStep s req nowNs id table)
    : TableStep s (.createMapping req nowNs id) table

theorem createMapping_spec (self : RuntimeCore F) (req : MappingRequest) (nowNs : Nat)
    (id : MappingId)
    : (∃ e, self.createMapping req nowNs id = (.error e, self))
        ∨
      (∃ table, CreateStep self req nowNs id table
        ∧ self.createMapping req nowNs id = (.ok id, { self with mappings := table })) := by
  unfold createMapping
  split
  . exact .inl ⟨_, rfl⟩
  . next hmode =>
    split
    . exact .inl ⟨_, rfl⟩
    . next htarget =>
      split
      . exact .inl ⟨_, rfl⟩
      . next hmask =>
        have hreq : self.acceptsRequest req = true := by
          simp [acceptsRequest, hmode, htarget, hmask, Except.isOk, Except.toBool]
        split
        . next hfree => exact .inr ⟨_, .free hreq hfree, rfl⟩
        . next owner howner =>
          split
          . exact .inl ⟨_, rfl⟩
          . next hlock =>
            split
            . exact .inl ⟨_, rfl⟩
            . next hreclaim =>
              simp only [Bool.not_eq_true] at hlock
              simp only [Bool.not_eq_true', Bool.not_eq_false] at hreclaim
              exact .inr ⟨_, .evict owner hreq howner hlock hreclaim, rfl⟩

theorem updateMapping_spec (self : RuntimeCore F) (mappingId : MappingId) (req : MappingRequest)
    (nowNs : Nat)
    : (∃ e, self.updateMapping mappingId req nowNs = (.error e, self))
        ∨
      (∃ m, self.acceptsRequest req = true ∧ self.mappings.get? mappingId = some m
        ∧ m.lock = false
        ∧ self.updateMapping mappingId req nowNs
            =
          (.ok (),
            { self with
              mappings := self.mappings.modify mappingId (Mapping.retarget req nowNs)
                (Mapping.retarget_id req nowNs) })) := by
  unfold updateMapping
  split
  . exact .inl ⟨_, rfl⟩
  . next hmode =>
    split
    . exact .inl ⟨_, rfl⟩
    . next htarget =>
      split
      . exact .inl ⟨_, rfl⟩
      . next hmask =>
        have hreq : self.acceptsRequest req = true := by
          simp [acceptsRequest, hmode, htarget, hmask, Except.isOk, Except.toBool]
        split
        . exact .inl ⟨_, rfl⟩
        . next m hm =>
          split
          . exact .inl ⟨_, rfl⟩
          . next hlock =>
            simp only [Bool.not_eq_true] at hlock
            exact .inr ⟨m, hreq, hm, hlock, rfl⟩

theorem tableStep_step (s : RuntimeCore F) (op : RuntimeOp F)
    : TableStep s op (s.step op).mappings := by
  cases op with
  | loadScene scene => exact .keep _
  | setActiveScene sceneId =>
    simp only [step, setActiveScene]
    split <;> exact .keep _
  | setMode mode =>
    simp only [step, setMode]
    split <;> exact .keep _
  | registerDeviceConnected deviceId => exact .keep _
  | registerDeviceDisconnected deviceId nowNs => exact .disconnect _ _
  | heartbeat deviceId nowNs => exact .beat _ deviceId nowNs (.inl rfl)
  | createMapping req nowNs id =>
    rcases createMapping_spec s req nowNs id with ⟨e, h⟩ | ⟨table, hcreate, h⟩
    . simpa only [step, h] using .keep _
    . simpa only [step, h] using .create _ _ _ _ hcreate
  | updateMapping mappingId req nowNs =>
    rcases updateMapping_spec s mappingId req nowNs with ⟨e, h⟩ | ⟨m, hreq, hm, hlock, h⟩
    . simpa only [step, h] using .keep _
    . simpa only [step, h] using .retarget _ _ _ m hreq hm hlock
  | removeMapping mappingId =>
    simp only [step, removeMapping]
    split
    . exact .keep _
    . split
      . exact .keep _
      . exact .remove _
  | setMappingLock mappingId lock =>
    simp only [step, setMappingLock]
    split
    . exact .keep _
    . split
      . exact .keep _
      . exact .lock _ _
  | schedulerTick nowNs => exact .expire _
  | applyUpdates deviceId updates nowNs =>
    simp only [step]
    rw [applyUpdates_frame]
    exact .beat _ deviceId nowNs (.inr ⟨updates, rfl⟩)
  | resetSceneToBaseline sceneId =>
    simp only [step, resetSceneToBaseline]
    rw [syncScene_frame]
    exact .keep _
  | commitSceneBaseline sceneId =>
    simp only [step, commitSceneBaseline]
    rw [syncScene_frame]
    exact .keep _
  | commitObjectBaseline sceneId objectId =>
    simp only [step]
    rw [commitObjectBaseline_frame]
    exact .keep _

/--
Where the mapping `m'`, which is the entry `id` of the table after an operation, comes from.
-/
inductive Origin (s : RuntimeCore F) (id : MappingId) : RuntimeOp F → Mapping → Prop where
  | keep (op m) (hm : s.mappings.get? id = some m) : Origin s id op m
  | disconnect (deviceId nowNs m) (hm : s.mappings.get? id = some m)
    : Origin s id (.registerDeviceDisconnected deviceId nowNs) (m.disconnect deviceId nowNs)
  | beat (op deviceId nowNs m)
    (hop : op = .heartbeat deviceId nowNs ∨ ∃ updates, op = .applyUpdates deviceId updates nowNs)
    (hm : s.mappings.get? id = some m)
    : Origin s id op (m.beat deviceId nowNs)
  | expire (nowNs m) (hm : s.mappings.get? id = some m)
    : Origin s id (.schedulerTick nowNs) (m.expire s.connectedDevices s.lease nowNs)
  | lock (lock m) (hm : s.mappings.get? id = some m)
    : Origin s id (.setMappingLock id lock) (m.setLock lock)
  | retarget (req nowNs m) (hreq : s.acceptsRequest req = true)
    (hm : s.mappings.get? id = some m) (hlock : m.lock = false)
    : Origin s id (.updateMapping id req nowNs) (m.retarget req nowNs)
  | create (req nowNs) (hreq : s.acceptsRequest req = true)
    : Origin s id (.createMapping req nowNs id) (newMapping req nowNs id)

theorem origin_createStep {s : RuntimeCore F} {req : MappingRequest} {nowNs : Nat}
    {fresh id : MappingId} {table : MappingTable} {m' : Mapping}
    (hcreate : CreateStep s req nowNs fresh table) (hm' : table.get? id = some m')
    : Origin s id (.createMapping req nowNs fresh) m' := by
  cases hcreate with
  | free hreq hfree =>
    rw [MappingTable.get?_insert] at hm'
    split at hm'
    . next heq =>
      cases hm'
      subst heq
      exact .create req nowNs hreq
    . exact .keep _ m' hm'
  | evict owner hreq howner hlock hreclaim =>
    rw [MappingTable.get?_insert] at hm'
    split at hm'
    . next heq =>
      cases hm'
      subst heq
      exact .create req nowNs hreq
    . rw [MappingTable.get?_shiftRemove] at hm'
      split at hm'
      . cases hm'
      . exact .keep _ m' hm'

theorem origin_step {s : RuntimeCore F} {op : RuntimeOp F} {id : MappingId} {m' : Mapping}
    (hm' : (s.step op).mappings.get? id = some m')
    : Origin s id op m' := by
  generalize htable : (s.step op).mappings = table at hm'
  have hstep := tableStep_step s op
  rw [htable] at hstep
  have hmap : ∀ {f : Mapping → Mapping} {hf},
      (s.mappings.mapValues f hf).get? id = some m' →
      ∃ m, s.mappings.get? id = some m ∧ f m = m' := by
    intro f hf h
    rw [MappingTable.get?_mapValues] at h
    exact Option.map_eq_some_iff.mp h
  cases hstep with
  | keep => exact .keep _ m' hm'
  | disconnect deviceId nowNs =>
    obtain ⟨m, hm, rfl⟩ := hmap hm'
    exact .disconnect deviceId nowNs m hm
  | beat _ deviceId nowNs hbeat =>
    obtain ⟨m, hm, rfl⟩ := hmap hm'
    exact .beat _ deviceId nowNs m hbeat hm
  | expire nowNs =>
    obtain ⟨m, hm, rfl⟩ := hmap hm'
    exact .expire nowNs m hm
  | lock mappingId lock =>
    rw [MappingTable.get?_modify] at hm'
    split at hm'
    . next heq =>
      subst heq
      obtain ⟨m, hm, rfl⟩ := Option.map_eq_some_iff.mp hm'
      exact .lock lock m hm
    . exact .keep _ m' hm'
  | remove mappingId =>
    rw [MappingTable.get?_shiftRemove] at hm'
    split at hm'
    . cases hm'
    . exact .keep _ m' hm'
  | retarget mappingId req nowNs n hreq hn hlock =>
    rw [MappingTable.get?_modify] at hm'
    split at hm'
    . next heq =>
      subst heq
      rw [hn] at hm'
      cases hm'
      exact .retarget req nowNs n hreq hn hlock
    . exact .keep _ m' hm'
  | create req nowNs fresh table hcreate => exact origin_createStep hcreate hm'

def devicesAfter (s : RuntimeCore F) : RuntimeOp F → Finset Uuid
  | .registerDeviceConnected deviceId => insert deviceId s.connectedDevices
  | .registerDeviceDisconnected deviceId _ => s.connectedDevices.erase deviceId
  | _ => s.connectedDevices

def modeAfter (s : RuntimeCore F) : RuntimeOp F → Mode
  | .setMode mode => if validModeTransition s.mode mode then mode else s.mode
  | _ => s.mode

theorem editsMappings_frame {s : RuntimeCore F} {op : RuntimeOp F} (hop : op.editsMappings = true)
    : s.step op = { s with mappings := (s.step op).mappings } := by
  cases op with
  | createMapping req nowNs id =>
    rcases createMapping_spec s req nowNs id with ⟨e, h⟩ | ⟨table, -, h⟩
    . simp only [step, h]
    . simp only [step, h]
  | updateMapping mappingId req nowNs =>
    rcases updateMapping_spec s mappingId req nowNs with ⟨e, h⟩ | ⟨m, -, -, -, h⟩
    . simp only [step, h]
    . simp only [step, h]
  | removeMapping mappingId =>
    simp only [step, removeMapping]
    split
    . rfl
    . split <;> rfl
  | setMappingLock mappingId lock =>
    simp only [step, setMappingLock]
    split
    . rfl
    . split <;> rfl
  | _ => cases hop

theorem editsMappings_of_recording {s : RuntimeCore F} {op : RuntimeOp F}
    (hop : op.editsMappings = true) (hmode : s.mode = .recording)
    : s.step op = s := by
  cases op with
  | createMapping req nowNs id => simp [step, createMapping, hmode]
  | updateMapping mappingId req nowNs => simp [step, updateMapping, hmode]
  | removeMapping mappingId => simp [step, removeMapping, hmode]
  | setMappingLock mappingId lock => simp [step, setMappingLock, hmode]
  | _ => cases hop

def activeSceneAfter (s : RuntimeCore F) : RuntimeOp F → Option SceneId
  | .loadScene scene => if s.activeScene.isNone then some scene.id else s.activeScene
  | .setActiveScene sceneId => if s.scenes.contains sceneId then some sceneId else s.activeScene
  | _ => s.activeScene

theorem step_activeScene (s : RuntimeCore F) (op : RuntimeOp F)
    : (s.step op).activeScene = s.activeSceneAfter op := by
  cases op with
  | setActiveScene sceneId =>
    simp only [step, setActiveScene, activeSceneAfter]
    cases s.scenes.contains sceneId <;> rfl
  | setMode mode =>
    simp only [step, setMode]
    split <;> rfl
  | createMapping _ _ _ | updateMapping _ _ _ | removeMapping _ | setMappingLock _ _ =>
    rw [editsMappings_frame rfl]
    rfl
  | applyUpdates deviceId updates nowNs =>
    simp only [step]
    rw [applyUpdates_frame]
    rfl
  | resetSceneToBaseline sceneId =>
    simp only [step, resetSceneToBaseline]
    rw [syncScene_frame]
    rfl
  | commitSceneBaseline sceneId =>
    simp only [step, commitSceneBaseline]
    rw [syncScene_frame]
    rfl
  | commitObjectBaseline sceneId objectId =>
    simp only [step]
    rw [commitObjectBaseline_frame]
    rfl
  | _ => rfl

theorem step_frame (s : RuntimeCore F) (op : RuntimeOp F)
    : (s.step op).lease = s.lease
        ∧ (s.step op).connectedDevices = s.devicesAfter op
        ∧ (s.step op).mode = s.modeAfter op := by
  cases op with
  | setActiveScene sceneId =>
    simp only [step, setActiveScene]
    split <;> exact ⟨rfl, rfl, rfl⟩
  | setMode mode =>
    simp only [step, setMode, modeAfter, devicesAfter]
    split
    . next h => simp_all
    . next h => simp_all
  | createMapping _ _ _ | updateMapping _ _ _ | removeMapping _ | setMappingLock _ _ =>
    rw [editsMappings_frame rfl]
    exact ⟨rfl, rfl, rfl⟩
  | applyUpdates deviceId updates nowNs =>
    simp only [step]
    rw [applyUpdates_frame]
    exact ⟨rfl, rfl, rfl⟩
  | resetSceneToBaseline sceneId =>
    simp only [step, resetSceneToBaseline]
    rw [syncScene_frame]
    exact ⟨rfl, rfl, rfl⟩
  | commitSceneBaseline sceneId =>
    simp only [step, commitSceneBaseline]
    rw [syncScene_frame]
    exact ⟨rfl, rfl, rfl⟩
  | commitObjectBaseline sceneId objectId =>
    simp only [step]
    rw [commitObjectBaseline_frame]
    exact ⟨rfl, rfl, rfl⟩
  | _ => exact ⟨rfl, rfl, rfl⟩

theorem step_connectedDevices (s : RuntimeCore F) (op : RuntimeOp F)
    : (s.step op).connectedDevices = s.devicesAfter op :=
  (s.step_frame op).2.1

theorem step_mode (s : RuntimeCore F) (op : RuntimeOp F) : (s.step op).mode = s.modeAfter op :=
  (s.step_frame op).2.2

end RuntimeCore

end MotionStage
