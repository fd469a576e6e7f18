import MotionStage.Core.Lease

/-!
This module contains the lock of a mapping: which operations a locked mapping withstands, and which
ones get past the lock.
-/

namespace MotionStage

variable {F : Floats}

structure Wiring where
  sourceDevice : Uuid
  sourceOutput : String
  target : Target
  componentMask : Option (List Nat)
  deriving DecidableEq, Repr

namespace Mapping

def wiring (m : Mapping) : Wiring := ⟨m.sourceDevice, m.sourceOutput, m.target, m.componentMask⟩

theorem disconnect_wiring (deviceId : Uuid) (nowNs : Nat) (m : Mapping)
    : (m.disconnect deviceId nowNs).wiring = m.wiring
        ∧ (m.disconnect deviceId nowNs).lock = m.lock := by
  unfold disconnect
  split <;> exact ⟨rfl, rfl⟩

theorem beat_wiring (deviceId : Uuid) (nowNs : Nat) (m : Mapping)
    : (m.beat deviceId nowNs).wiring = m.wiring ∧ (m.beat deviceId nowNs).lock = m.lock := by
  unfold beat
  split <;> exact ⟨rfl, rfl⟩

theorem expire_wiring (connected : Finset Uuid) (lease : LeaseConfig) (nowNs : Nat) (m : Mapping)
    : (m.expire connected lease nowNs).wiring = m.wiring
        ∧ (m.expire connected lease nowNs).lock = m.lock := by
  unfold expire
  split
  . exact ⟨rfl, rfl⟩
  . split <;> exact ⟨rfl, rfl⟩

end Mapping

namespace RuntimeCore

open MappingTable

def grants (self : RuntimeCore F) (req : MappingRequest) (nowNs : Nat) : Bool :=
  self.acceptsRequest req
    && match self.findMappingForTarget req.target with
      | none => true
      | some owner => !owner.val.lock && self.canReclaim owner.val nowNs

theorem grants_of_createStep {s : RuntimeCore F} {req : MappingRequest} {nowNs : Nat}
    {id : MappingId} {table : MappingTable} (h : CreateStep s req nowNs id table)
    : s.grants req nowNs = true := by
  unfold grants
  cases h with
  | free hreq hfree => rw [hreq, hfree]; rfl
  | evict owner hreq howner hlock hreclaim => rw [hreq, howner]; simp [hlock, hreclaim]

theorem createMapping_of_grants {s : RuntimeCore F} {req : MappingRequest} {nowNs : Nat}
    (id : MappingId) (h : s.grants req nowNs = true)
    : ∃ table, CreateStep s req nowNs id table
        ∧ s.createMapping req nowNs id = (.ok id, { s with mappings := table }) := by
  simp only [grants, Bool.and_eq_true] at h
  obtain ⟨hreq, hrest⟩ := h
  obtain ⟨hmode, htarget, hmask⟩ := acceptsRequest_iff.mp hreq
  cases howner : s.findMappingForTarget req.target with
  | none =>
    refine ⟨_, .free hreq howner, ?_⟩
    simp [createMapping, hmode, htarget, hmask, howner]
  | some owner =>
    rw [howner] at hrest
    simp only [Bool.and_eq_true, Bool.not_eq_true'] at hrest
    obtain ⟨hlock, hreclaim⟩ := hrest
    refine ⟨_, .evict owner hreq howner hlock hreclaim, ?_⟩
    simp [createMapping, hmode, htarget, hmask, howner, hlock, hreclaim]

inductive Gains (s : RuntimeCore F) (id : MappingId) (t : Target) : RuntimeOp F → Prop where
  | retarget (req nowNs m) (hreq : s.acceptsRequest req = true)
    (hm : s.mappings.get? id = some m) (hlock : m.lock = false) (hactive : m.state = .active)
    (htarget : req.target = t)
    : Gains s id t (.updateMapping id req nowNs)
  | create (req nowNs) (hgrants : s.grants req nowNs = true) (htarget : req.target = t)
    : Gains s id t (.createMapping req nowNs id)

theorem owns_step {s : RuntimeCore F} {op : RuntimeOp F} {id : MappingId} {t : Target}
    (h : (s.step op).mappings.Owns id t)
    : s.mappings.Owns id t ∨ Gains s id t op := by
  cases hassigns : assigns op with
  | false => exact .inl (owns_of_step hassigns h)
  | true =>
    generalize htable : (s.step op).mappings = table at h
    have hstep := tableStep_step s op
    rw [htable] at hstep
    cases hstep with
    | keep => exact .inl h
    | retarget mappingId req nowNs m hreq hm hlock =>
      rcases Owns.of_modify h with ⟨rfl, m', hm', hstate, htarget⟩ | ⟨-, howns⟩
      . rw [hm, Option.some.injEq] at hm'
        subst hm'
        exact .inr (.retarget req nowNs m hreq hm hlock hstate htarget)
      . exact .inl howns
    | create req nowNs fresh table hcreate =>
      have hgrants := grants_of_createStep hcreate
      cases hcreate with
      | free hreq hfree =>
        rcases Owns.of_insert h with ⟨rfl, htarget⟩ | ⟨-, howns⟩
        . exact .inr (.create req nowNs hgrants htarget)
        . exact .inl howns
      | evict owner hreq howner hlock hreclaim =>
        rcases Owns.of_insert h with ⟨rfl, htarget⟩ | ⟨-, howns⟩
        . exact .inr (.create req nowNs hgrants htarget)
        . exact .inl howns.of_shiftRemove.2
    | beat _ deviceId nowNs hbeat => rcases hbeat with rfl | ⟨updates, rfl⟩ <;> cases hassigns
    | _ => cases hassigns

section Locked

variable (id : MappingId) (wiring : Wiring)

def Locked (s : RuntimeCore F) : Prop :=
  ∃ m, s.mappings.get? id = some m ∧ m.lock = true ∧ m.wiring = wiring

def StaysLocked (s : RuntimeCore F) : RuntimeOp F → Prop
  | .setMappingLock mappingId lock =>
    mappingId = id → lock = false → (s.setMappingLock mappingId lock).1 ≠ .ok ()
  | .createMapping _ _ fresh => s.mappings.get? fresh = none
  | _ => True

/--
What a lock promises of one operation: the mapping stays as it is, and no other one becomes an
owner of its target.
-/
def LockHolds (s : RuntimeCore F) (op : RuntimeOp F) : Prop :=
  ((s.step op).mappings.get? id).map Mapping.wiring = some wiring
    ∧ ∀ other, other ≠ id → (s.step op).mappings.Owns other wiring.target
        → s.mappings.Owns other wiring.target

/--
The operation does not get past the lock: `remove_mapping` does not look at it, `update_mapping`
looks at the lock of the mapping it moves and not at that of the owner it moves onto, and
`create_mapping` looks at the first active owner of the target only, if there is one.
-/
def HonoursLock (s : RuntimeCore F) : RuntimeOp F → Prop
  | .removeMapping mappingId => mappingId = id → s.mode = .recording
  | .updateMapping mappingId req _ =>
    mappingId ≠ id → req.target = wiring.target → s.acceptsRequest req = true
      → ∀ m ∈ s.mappings.get? mappingId, m.lock = false → m.state = .active
        → m.target = wiring.target
  | .createMapping req nowNs _ => req.target = wiring.target → s.grants req nowNs = false
  | _ => True

variable {id wiring} {s : RuntimeCore F} {op : RuntimeOp F}

theorem locked_of_setMappingLock {locked : RuntimeCore F} {m : Mapping}
    (hlock : s.setMappingLock id true = (.ok (), locked)) (hm : locked.mappings.get? id = some m)
    : locked.Locked id m.wiring := by
  refine ⟨m, hm, ?_, rfl⟩
  unfold setMappingLock at hlock
  split at hlock
  . cases hlock
  . split at hlock
    . cases hlock
    . cases hlock
      rw [get?_modify, if_pos rfl] at hm
      obtain ⟨before, -, rfl⟩ := Option.map_eq_some_iff.mp hm
      rfl

theorem locked_step (h : s.Locked id wiring) (hstays : s.StaysLocked id op)
    (hop : s.HonoursLock id wiring op)
    : (s.step op).Locked id wiring := by
  obtain ⟨m, hm, hlocked, hwiring⟩ := h
  have hid : m.id = id := id_of_get? hm
  generalize hnext : (s.step op).mappings.get? id = next
  have hfate := fate_step hm op
  rw [hnext] at hfate
  cases hfate with
  | keep => exact ⟨m, hnext, hlocked, hwiring⟩
  | disconnect deviceId nowNs =>
    obtain ⟨hsame, hlock⟩ := Mapping.disconnect_wiring deviceId nowNs m
    exact ⟨_, hnext, hlock.trans hlocked, hsame.trans hwiring⟩
  | beat _ deviceId nowNs =>
    obtain ⟨hsame, hlock⟩ := Mapping.beat_wiring deviceId nowNs m
    exact ⟨_, hnext, hlock.trans hlocked, hsame.trans hwiring⟩
  | expire nowNs =>
    obtain ⟨hsame, hlock⟩ := Mapping.expire_wiring s.connectedDevices s.lease nowNs m
    exact ⟨_, hnext, hlock.trans hlocked, hsame.trans hwiring⟩
  | lock lock =>
    cases lock with
    | true => exact ⟨_, hnext, rfl, hwiring⟩
    | false =>
      -- the request was refused, and that is because of the mode
      have hrecording : s.mode = .recording := by
        by_contra hmode
        apply hstays hid rfl
        simp [setMappingLock, hmode, hid, hm]
      rw [editsMappings_of_recording rfl hrecording]
      exact ⟨m, hm, hlocked, hwiring⟩
  | remove =>
    rw [editsMappings_of_recording rfl (hop hid), hm] at hnext
    cases hnext
  | retarget req nowNs _ hlock =>
    rw [hlocked] at hlock
    cases hlock
  | evict req nowNs fresh _ _ _ hlock =>
    rw [hlocked] at hlock
    cases hlock
  | overwrite req nowNs =>
    have hfresh : s.mappings.get? m.id = none := hstays
    rw [hid, hm] at hfresh
    cases hfresh

theorem lockHolds_of_honoursLock (h : s.Locked id wiring) (hstays : s.StaysLocked id op)
    (hop : s.HonoursLock id wiring op)
    : s.LockHolds id wiring op := by
  constructor
  . obtain ⟨m, hm, -, hwiring⟩ := locked_step h hstays hop
    rw [hm, Option.map_some, hwiring]
  . intro other hne howns
    rcases owns_step howns with hbefore | hgains
    . exact hbefore
    . cases hgains with
      | retarget req nowNs m hreq hm hlock hactive htarget =>
        exact ⟨m, hm, hactive, hop hne htarget hreq m hm hlock hactive⟩
      | create req nowNs hgrants htarget =>
        rw [hop htarget] at hgrants
        cases hgrants

theorem honoursLock_of_lockHolds (h : s.Locked id wiring) (hstays : s.StaysLocked id op)
    (hop : s.LockHolds id wiring op)
    : s.HonoursLock id wiring op := by
  obtain ⟨m, hm, -, -⟩ := h
  obtain ⟨hkept, hothers⟩ := hop
  cases op with
  | removeMapping mappingId =>
    rintro rfl
    by_contra hmode
    simp [step, removeMapping, hmode, hm, get?_shiftRemove] at hkept
  | updateMapping mappingId req nowNs =>
    intro hne htarget hreq n hn hlock hactive
    have howns : (s.step (.updateMapping mappingId req nowNs)).mappings.Owns mappingId
        wiring.target := by
      simp only [step]
      rw [updateMapping_of_accepts nowNs hreq hn hlock]
      refine ⟨n.retarget req nowNs, ?_, hactive, htarget⟩
      dsimp only
      rw [get?_modify, if_pos rfl, hn]
      rfl
    obtain ⟨n', hn', -, htarget'⟩ := hothers mappingId hne howns
    rw [hn, Option.some.injEq] at hn'
    rw [hn', htarget']
  | createMapping req nowNs fresh =>
    intro htarget
    by_contra hgrants
    simp only [Bool.not_eq_false] at hgrants
    have hfresh : s.mappings.get? fresh = none := hstays
    obtain ⟨table, hcreate, hok⟩ := createMapping_of_grants fresh hgrants
    have howns : (s.step (.createMapping req nowNs fresh)).mappings.Owns fresh wiring.target := by
      simp only [step, hok]
      refine ⟨newMapping req nowNs fresh, ?_, rfl, htarget⟩
      cases hcreate <;> exact (get?_insert _ _ _).trans (if_pos rfl)
    have hne : fresh ≠ id := by
      rintro rfl
      rw [hm] at hfresh
      cases hfresh
    obtain ⟨n, hn, -⟩ := hothers fresh hne howns
    rw [hfresh] at hn
    cases hn
  | _ => trivial

end Locked

theorem lockHolds_run_iff {self locked : RuntimeCore F} {id : MappingId} {m : Mapping}
    {ops : List (RuntimeOp F)} (hlock : self.setMappingLock id true = (.ok (), locked))
    (hm : locked.mappings.get? id = some m) (hstays : Run.AllSteps step (StaysLocked id) locked ops)
    : Run.AllSteps step (LockHolds id m.wiring) locked ops
        ↔
      Run.AllSteps step (HonoursLock id m.wiring) locked ops := by
  apply Run.allSteps_iff_of_invariant (P := Locked id m.wiring) (D := StaysLocked id)
  . intro s op h hop
    exact ⟨honoursLock_of_lockHolds h hop, lockHolds_of_honoursLock h hop⟩
  . intro s op h hop hholds
    exact locked_step h hop (honoursLock_of_lockHolds h hop hholds)
  . exact locked_of_setMappingLock hlock hm
  . exact hstays

def switchLocked : RuntimeCore Floats.rational := (switchOwned.setMappingLock 100 true).2

theorem switchLocked_get?
    : switchLocked.mappings.get? 100
        =
      some ((newMapping (switchRequest 7 "left") 10000000000 100).setLock true) :=
  rfl

theorem lockHolds_run_iff_switchLocked
    : let ops : List (RuntimeOp Floats.rational) :=
        [.registerDeviceDisconnected 7 11000000000,
          .createMapping (switchRequest 8 "left") 30000000000 101,
          .updateMapping 100 (switchRequest 7 "right") 30000000000]
      Run.AllSteps step (LockHolds 100 ⟨7, "button", ⟨1, 2, "left"⟩, none⟩) switchLocked ops
        ↔
      Run.AllSteps step (HonoursLock 100 ⟨7, "button", ⟨1, 2, "left"⟩, none⟩) switchLocked ops :=
  lockHolds_run_iff (show switchOwned.setMappingLock 100 true = (.ok (), switchLocked) from rfl)
     switchLocked_get? ⟨trivial, rfl, trivial, trivial⟩

/--
`remove_mapping` does not look at the lock.
-/
theorem lockHolds_fails
    : ¬ ∀ (s : RuntimeCore Floats.rational) (id : MappingId) (m : Mapping)
        (ops : List (RuntimeOp Floats.rational)),
        (s.setMappingLock id true).1 = .ok ()
          → (s.setMappingLock id true).2.mappings.get? id = some m
          → Run.AllSteps step (StaysLocked id) (s.setMappingLock id true).2 ops
          → Run.AllSteps step (LockHolds id m.wiring) (s.setMappingLock id true).2 ops := by
  intro h
  have hholds := h switchOwned 100 _ [.removeMapping 100] rfl switchLocked_get? ⟨trivial, trivial⟩
  have hgone : (switchLocked.step (.removeMapping 100)).mappings.get? 100 = none := rfl
  have hkept := hholds.1.1
  rw [show (switchOwned.setMappingLock 100 true).2 = switchLocked from rfl, hgone] at hkept
  cases hkept

end RuntimeCore

end MotionStage
