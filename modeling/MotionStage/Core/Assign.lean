import MotionStage.Core.Graph
import MotionStage.Core.Validity

/-!
This module contains what `create_mapping` and `update_mapping` achieve: when a mapping can be
created, what is in the table afterwards, and when an updated mapping is in effect.
-/

namespace MotionStage

variable {F : Floats}

namespace MappingTable

theorem values_insert {table : MappingTable} {m : Mapping} (h : table.get? m.id = none)
    : (table.insert m).values = table.values ++ [m] := by
  have hcontains : table.map.contains m.id = false := by
    simpa [IndexMap.contains, MappingTable.get?] using h
  simp [values, IndexMap.values, insert, IndexMap.insert, hcontains]

theorem values_shiftRemove (table : MappingTable) (id : MappingId)
    : (table.shiftRemove id).values = table.values.filter fun m => decide (m.id ≠ id) := by
  simp only [values, IndexMap.values, shiftRemove, IndexMap.shiftRemove, List.filter_map]
  congr 1
  apply List.filter_congr
  intro e he
  have hid : e.2.id = e.1 := table.id_eq (IndexMap.get?_eq_some_iff.mpr he)
  simp only [Function.comp_apply, hid]

end MappingTable

namespace RuntimeCore

open MappingTable

/--
The lease rule that applies to an owner: the reclaim grace when its device has disconnected at a
known time and is still away, the heartbeat timeout otherwise.
-/
structure Reclaimable (s : RuntimeCore F) (owner : Mapping) (nowNs : Nat) : Prop where
  grace : owner.sourceDevice ∉ s.connectedDevices
    → ∀ disconnectedAt, owner.disconnectedAtNs = some disconnectedAt
      → s.lease.reclaimGraceNs ≤ nowNs - disconnectedAt
  timeout : owner.sourceDevice ∈ s.connectedDevices ∨ owner.disconnectedAtNs = none
    → s.lease.timeoutNs ≤ nowNs - owner.lastHeartbeatNs

structure MayCreate (s : RuntimeCore F) (req : MappingRequest) (nowNs : Nat) : Prop where
  mode : s.mode ≠ .recording
  target : ∃ scene object attr, s.scenes.get? req.targetScene = some scene
    ∧ scene.objects.get? req.targetObject = some object
    ∧ object.attributes.get? req.targetAttribute = some attr
    ∧ MaskFits attr.currentValue req.componentMask
  owner : ∀ owner ∈ s.mappings.values, owner.state = .active → owner.target = req.target
    → owner.lock = false ∧ s.Reclaimable owner nowNs

theorem canReclaim_iff {self : RuntimeCore F} {owner : Mapping} {nowNs : Nat}
    : self.canReclaim owner nowNs = true ↔ self.Reclaimable owner nowNs := by
  unfold canReclaim
  by_cases hconnected : owner.sourceDevice ∈ self.connectedDevices
  . simp only [hconnected, not_true_eq_false, if_false, decide_eq_true_eq]
    constructor
    . intro h
      exact ⟨fun haway => absurd hconnected haway, fun _ => h⟩
    . intro h
      exact h.timeout (.inl hconnected)
  . simp only [hconnected, not_false_eq_true, if_true]
    cases hdisconnected : owner.disconnectedAtNs with
    | none =>
      simp only [decide_eq_true_eq]
      constructor
      . intro h
        refine ⟨?_, fun _ => h⟩
        intro _ t ht
        rw [hdisconnected] at ht
        cases ht
      . intro h
        exact h.timeout (.inr hdisconnected)
    | some disconnectedAt =>
      simp only [decide_eq_true_eq]
      constructor
      . intro h
        refine ⟨?_, ?_⟩
        . intro _ t ht
          rw [hdisconnected, Option.some.injEq] at ht
          rw [← ht]
          exact h
        . rintro (hback | hnone)
          . exact absurd hback hconnected
          . rw [hdisconnected] at hnone
            cases hnone
      . intro h
        exact h.grace hconnected disconnectedAt hdisconnected

theorem attributeAt_eq_some {self : RuntimeCore F} {t : Target} {attr : SceneAttribute F}
    : self.attributeAt t = some attr
        ↔
      ∃ scene object, self.scenes.get? t.scene = some scene
        ∧ scene.objects.get? t.object = some object
        ∧ object.attributes.get? t.attr = some attr := by
  simp [attributeAt, Option.bind_eq_some_iff]

theorem acceptsRequest_iff_fits {self : RuntimeCore F} {req : MappingRequest}
    : self.acceptsRequest req = true
        ↔
      self.mode ≠ .recording ∧ self.Fits req.target req.componentMask :=
  acceptsRequest_iff

theorem forall_findMappingForTarget {self : RuntimeCore F} {t : Target} (h : self.mappings.Exclusive)
    {P : Mapping → Prop}
    : (∀ owner ∈ self.findMappingForTarget t, P owner.val)
        ↔
      ∀ owner ∈ self.mappings.values, owner.state = .active → owner.target = t → P owner := by
  constructor
  . intro hfound m hm hactive htarget
    obtain ⟨k, hk⟩ := mem_values.mp hm
    cases hfind : self.findMappingForTarget t with
    | none => exact absurd htarget (findMappingForTarget_eq_none.mp hfind k m hk hactive)
    | some owner =>
      obtain ⟨hactive', htarget'⟩ := findMappingForTarget_eq_some hfind
      have hsame : k = owner.val.id :=
        h k owner.val.id t ⟨m, hk, hactive, htarget⟩ ⟨owner.val, owner.property, hactive', htarget'⟩
      rw [hsame, owner.property, Option.some.injEq] at hk
      rw [← hk]
      exact hfound owner hfind
  . intro hall owner hfind
    obtain ⟨hactive, htarget⟩ := findMappingForTarget_eq_some hfind
    exact hall owner.val (mem_values.mpr ⟨_, owner.property⟩) hactive htarget

theorem grants_iff_mayCreate {self : RuntimeCore F} {req : MappingRequest} {nowNs : Nat}
    (h : self.mappings.Exclusive)
    : self.grants req nowNs = true ↔ self.MayCreate req nowNs := by
  have hgrants : self.grants req nowNs = true
      ↔ (self.mode ≠ .recording ∧ self.Fits req.target req.componentMask)
          ∧ ∀ owner ∈ self.findMappingForTarget req.target,
              owner.val.lock = false ∧ self.Reclaimable owner.val nowNs := by
    unfold grants
    rw [Bool.and_eq_true, acceptsRequest_iff_fits]
    cases self.findMappingForTarget req.target with
    | none => simp
    | some owner => simp [canReclaim_iff]
  rw [hgrants, fits_iff, forall_findMappingForTarget h
    (P := fun owner => owner.lock = false ∧ self.Reclaimable owner nowNs)]
  constructor
  . rintro ⟨⟨hmode, attr, hattr, hmask⟩, hfree⟩
    obtain ⟨scene, object, hscene, hobject, hattr⟩ := attributeAt_eq_some.mp hattr
    exact ⟨hmode, ⟨scene, object, attr, hscene, hobject, hattr, hmask⟩, hfree⟩
  . rintro ⟨hmode, ⟨scene, object, attr, hscene, hobject, hattr, hmask⟩, hfree⟩
    exact ⟨⟨hmode, attr, attributeAt_eq_some.mpr ⟨scene, object, hscene, hobject, hattr⟩, hmask⟩,
      hfree⟩

theorem createMapping_isOk (self : RuntimeCore F) (req : MappingRequest) (nowNs : Nat)
    (id : MappingId)
    : (self.createMapping req nowNs id).1.isOk = self.grants req nowNs := by
  rcases createMapping_spec self req nowNs id with ⟨e, h⟩ | ⟨table, hcreate, h⟩
  . rw [h]
    cases hgrants : self.grants req nowNs with
    | false => rfl
    | true =>
      obtain ⟨table, -, hok⟩ := createMapping_of_grants id hgrants
      rw [h] at hok
      cases hok
  . rw [h, grants_of_createStep hcreate]
    rfl

theorem values_createStep {self : RuntimeCore F} {req : MappingRequest} {nowNs : Nat}
    {id : MappingId} {table : MappingTable} (h : self.mappings.Exclusive)
    (hfresh : self.mappings.get? id = none) (hcreate : CreateStep self req nowNs id table)
    : table.values
        =
      (self.mappings.values.filter fun m => !ownsTarget req.target m)
        ++ [newMapping req nowNs id] := by
  cases hcreate with
  | free hreq hfree =>
    have hall : self.mappings.values.filter (fun m => !ownsTarget req.target m)
        = self.mappings.values := by
      apply List.filter_eq_self.mpr
      intro m hm
      obtain ⟨k, hk⟩ := mem_values.mp hm
      rw [MappingTable.find?_eq_none.mp hfree k m hk]
      rfl
    rw [hall, values_insert hfresh]
  | evict owner hreq howner hlock hreclaim =>
    have hfresh' : (self.mappings.shiftRemove owner.val.id).get? id = none := by
      rw [get?_shiftRemove]
      split
      . rfl
      . exact hfresh
    rw [values_insert hfresh', values_shiftRemove]
    congr 1
    apply List.filter_congr
    intro m hm
    obtain ⟨k, hk⟩ := mem_values.mp hm
    have hid : m.id = k := id_of_get? hk
    obtain ⟨hactive, htarget⟩ := findMappingForTarget_eq_some howner
    rw [decide_not]
    congr 1
    rw [Bool.eq_iff_iff]
    simp only [ownsTarget, decide_eq_true_eq, Bool.and_eq_true, beq_iff_eq]
    constructor
    . intro hsame
      rw [← hid, hsame, owner.property, Option.some.injEq] at hk
      rw [← hk]
      exact ⟨hactive, htarget⟩
    . rintro ⟨hactive', htarget'⟩
      rw [hid]
      exact h k owner.val.id req.target ⟨m, hk, hactive', htarget'⟩
        ⟨owner.val, owner.property, hactive, htarget⟩

theorem createMapping_iff_mayCreate {self : RuntimeCore F} (h : self.mappings.Exclusive)
    (req : MappingRequest) (nowNs : Nat) {id : MappingId} (hfresh : self.mappings.get? id = none)
    : ((self.createMapping req nowNs id).1.isOk = true ↔ self.MayCreate req nowNs)
        ∧ (∀ e, (self.createMapping req nowNs id).1 = .error e
            → (self.createMapping req nowNs id).2 = self)
        ∧ ∀ created, (self.createMapping req nowNs id).1 = .ok created
            → ∃ table m, (self.createMapping req nowNs id).2 = { self with mappings := table }
                ∧ table.values
                    = (self.mappings.values.filter fun m => !ownsTarget req.target m) ++ [m]
                ∧ m.id = created ∧ m.wiring = req.wiring ∧ m.state = .active ∧ m.lock = false
                ∧ m.lastHeartbeatNs = nowNs ∧ m.disconnectedAtNs = none := by
  refine ⟨?_, ?_, ?_⟩
  . rw [createMapping_isOk, grants_iff_mayCreate h]
  . intro e he
    rcases createMapping_spec self req nowNs id with ⟨e', hspec⟩ | ⟨table, -, hspec⟩
    . rw [hspec]
    . rw [hspec] at he
      cases he
  . intro created hcreated
    rcases createMapping_spec self req nowNs id with ⟨e', hspec⟩ | ⟨table, hcreate, hspec⟩
    . rw [hspec] at hcreated
      cases hcreated
    . rw [hspec, Except.ok.injEq] at hcreated
      rw [hspec]
      exact ⟨table, newMapping req nowNs id, rfl, values_createStep h hfresh hcreate, hcreated, rfl,
        rfl, rfl, rfl, rfl⟩

theorem exclusive_switchOwned : switchOwned.mappings.Exclusive := by
  unfold switchOwned
  apply Run.run_invariant (P := fun s : RuntimeCore Floats.rational => s.mappings.Exclusive)
    (C := NoRetargetClash)
  . exact fun s op h hop => exclusive_step_of_noRetargetClash h hop
  . exact exclusive_empty
  . exact ⟨trivial, trivial, trivial, trivial⟩

/--
The connected device 7 has been silent for too long, device 8 takes the switch over.
-/
theorem createMapping_iff_mayCreate_switchOwned
    : (switchOwned.createMapping (switchRequest 8 "left") 30000000000 101).1.isOk = true
        ↔
      switchOwned.MayCreate (switchRequest 8 "left") 30000000000 :=
  (createMapping_iff_mayCreate exclusive_switchOwned (switchRequest 8 "left") 30000000000
    (show switchOwned.mappings.get? 101 = none from rfl)).1

theorem resolve_ne_mappingDenied (self : RuntimeCore F) (t : Target) (reason : String)
    : self.resolve t ≠ .error (.mappingDenied reason) := by
  unfold resolve
  intro h
  repeat' split at h
  all_goals cases h

theorem applyUpdates_unrouted_iff {self : RuntimeCore F} {deviceId : Uuid} {activeScene : SceneId}
    (hmode : self.mode ≠ .idle) (hscene : self.activeScene = some activeScene)
    (update : AttributeUpdate F) (nowNs : Nat)
    : (self.applyUpdates deviceId [update] nowNs).1
          = .error (.mappingDenied s!"no active mapping for output '{update.outputAttribute}'")
        ↔
      self.route deviceId activeScene update.outputAttribute = none := by
  rw [applyUpdates_of_activeScene hmode hscene,
    ← Option.map_eq_none_iff (f := Mapping.beat deviceId nowNs), ← route_heartbeat]
  generalize self.heartbeat deviceId nowNs = beaten
  simp only [applyUpdatesLoop, applyUpdate_eq]
  cases beaten.route deviceId activeScene update.outputAttribute with
  | none => simp
  | some m =>
    simp only [reduceCtorEq, iff_false]
    intro h
    cases hresolve : beaten.resolve m.target with
    | error e =>
      rw [hresolve] at h
      cases h
      exact resolve_ne_mappingDenied _ _ _ hresolve
    | ok found =>
      simp only [hresolve] at h
      split at h
      . next hone =>
        cases h
        split at hone
        . cases hone
        . split at hone
          . next hnext =>
            cases hone
            exact absurd (isTransform_nextValue hnext) Bool.false_ne_true
          . cases hone
      . cases h

/--
What an assignment is for: the mapping is active and connects what the request asks for, and with
its scene on stage the output of the device is routed.
-/
structure InEffect (s : RuntimeCore F) (id : MappingId) (req : MappingRequest) : Prop where
  assigned : ∃ m, s.mappings.get? id = some m ∧ m.state = .active ∧ m.wiring = req.wiring
  routed : ∀ value nowNs,
    (({ s with activeScene := some req.targetScene, mode := .live } : RuntimeCore F).applyUpdates
        req.sourceDevice [⟨req.sourceOutput, value⟩] nowNs).1
      ≠ .error (.mappingDenied s!"no active mapping for output '{req.sourceOutput}'")

theorem inEffect_of_assigned {s : RuntimeCore F} {id : MappingId} {req : MappingRequest}
    (h : ∃ m, s.mappings.get? id = some m ∧ m.state = .active ∧ m.wiring = req.wiring)
    : s.InEffect id req := by
  refine ⟨h, ?_⟩
  obtain ⟨m, hm, hactive, hwiring⟩ := h
  obtain ⟨hsource, houtput, htarget, -⟩ : m.sourceDevice = req.sourceDevice
      ∧ m.sourceOutput = req.sourceOutput ∧ m.target = req.target
      ∧ m.componentMask = req.componentMask := by
    simpa [Mapping.wiring, MappingRequest.wiring] using hwiring
  have hscene : m.targetScene = req.targetScene := congrArg Target.scene htarget
  intro value nowNs hrefused
  have hunrouted := (applyUpdates_unrouted_iff (by simp) rfl ⟨req.sourceOutput, value⟩ nowNs).mp hrefused
  rw [route_eq, List.find?_eq_none] at hunrouted
  apply hunrouted m (mem_values.mpr ⟨id, hm⟩)
  simp [hactive, hsource, houtput, hscene, sourceOutputMatches]

/--
A successful `update_mapping` takes effect exactly if the mapping was active before it: the call
writes every field of the request and renews the lease, but a released mapping stays released.
-/
theorem inEffect_updateMapping_iff {self : RuntimeCore F} {id : MappingId} {req : MappingRequest}
    {nowNs : Nat} (hok : (self.updateMapping id req nowNs).1 = .ok ())
    : (self.updateMapping id req nowNs).2.InEffect id req
        ↔
      ∃ m, self.mappings.get? id = some m ∧ m.state = .active := by
  rcases updateMapping_spec self id req nowNs with ⟨e, h⟩ | ⟨m, -, hm, -, h⟩
  . rw [h] at hok
    cases hok
  . rw [h]
    have hafter : (self.mappings.modify id (Mapping.retarget req nowNs)
        (Mapping.retarget_id req nowNs)).get? id = some (m.retarget req nowNs) := by
      rw [get?_modify, if_pos rfl, hm]
      rfl
    constructor
    . rintro ⟨⟨m', hm', hactive, -⟩, -⟩
      rw [hafter, Option.some.injEq] at hm'
      rw [← hm'] at hactive
      exact ⟨m, hm, hactive⟩
    . rintro ⟨m', hm', hactive⟩
      rw [hm, Option.some.injEq] at hm'
      rw [← hm'] at hactive
      exact inEffect_of_assigned ⟨m.retarget req nowNs, hafter, hactive, rfl⟩

theorem inEffect_updateMapping_iff_switchOwned
    : (switchOwned.updateMapping 100 (switchRequest 7 "right") 11000000000).2.InEffect 100
          (switchRequest 7 "right")
        ↔
      ∃ m, switchOwned.mappings.get? 100 = some m ∧ m.state = .active :=
  inEffect_updateMapping_iff rfl

/--
The scheduler has released the mapping of a device that went away. Moving it to the other switch
succeeds and is never heard of again.
-/
theorem inEffect_updateMapping_fails
    : ¬ ∀ (ops : List (RuntimeOp Floats.rational)) (id : MappingId) (req : MappingRequest)
        (nowNs : Nat),
        ((Run.run step (new .default) ops).updateMapping id req nowNs).1 = .ok ()
          → ((Run.run step (new .default) ops).updateMapping id req nowNs).2.InEffect id req := by
  intro h
  obtain ⟨⟨m, hm, hactive, -⟩, -⟩ := h
    [.loadScene (switchScene _), .createMapping (switchRequest 7 "left") 10 100,
      .schedulerTick 5000000000] 100 (switchRequest 7 "right") 5000000001 rfl
  let s := Run.run step (new (F := Floats.rational) .default)
    [.loadScene (switchScene _), .createMapping (switchRequest 7 "left") 10 100,
      .schedulerTick 5000000000, .updateMapping 100 (switchRequest 7 "right") 5000000001]
  have hreleased : s.mappings.get? 100
      = some { newMapping (switchRequest 7 "right") 5000000001 100 with state := .released } := rfl
  have hsame := hm.symm.trans hreleased
  rw [Option.some.injEq] at hsame
  rw [hsame] at hactive
  cases hactive

end RuntimeCore

end MotionStage
