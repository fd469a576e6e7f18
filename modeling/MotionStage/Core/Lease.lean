import MotionStage.Core.Ownership

/-!
This module contains the lease of a mapping: what one operation can do to one mapping, and how long
a mapping survives the disconnect of its device.
-/

namespace MotionStage

variable {F : Floats}

namespace RuntimeCore

open MappingTable

/--
What one operation can do to the mapping `m` of the state `s`: `none` means that `m` has left the
table.
-/
inductive Fate (s : RuntimeCore F) (m : Mapping) : RuntimeOp F → Option Mapping → Prop where
  | keep (op) : Fate s m op (some m)
  | disconnect (deviceId nowNs)
    : Fate s m (.registerDeviceDisconnected deviceId nowNs) (some (m.disconnect deviceId nowNs))
  | beat (op deviceId nowNs)
    (hop : op = .heartbeat deviceId nowNs ∨ ∃ updates, op = .applyUpdates deviceId updates nowNs)
    : Fate s m op (some (m.beat deviceId nowNs))
  | expire (nowNs)
    : Fate s m (.schedulerTick nowNs) (some (m.expire s.connectedDevices s.lease nowNs))
  | lock (lock) : Fate s m (.setMappingLock m.id lock) (some (m.setLock lock))
  | remove : Fate s m (.removeMapping m.id) none
  | retarget (req nowNs) (hreq : s.acceptsRequest req = true) (hlock : m.lock = false)
    : Fate s m (.updateMapping m.id req nowNs) (some (m.retarget req nowNs))
  | evict (req nowNs id) (hreq : s.acceptsRequest req = true) (hactive : m.state = .active)
    (htarget : m.target = req.target) (hlock : m.lock = false)
    (hreclaim : s.canReclaim m nowNs = true)
    : Fate s m (.createMapping req nowNs id) none
  | overwrite (req nowNs)
    : Fate s m (.createMapping req nowNs m.id) (some (newMapping req nowNs m.id))

theorem fate_step {s : RuntimeCore F} {id : MappingId} {m : Mapping}
    (hm : s.mappings.get? id = some m) (op : RuntimeOp F)
    : Fate s m op ((s.step op).mappings.get? id) := by
  have hid : m.id = id := id_of_get? hm
  generalize htable : (s.step op).mappings = table
  have hstep := tableStep_step s op
  rw [htable] at hstep
  cases hstep with
  | keep => rw [hm]; exact .keep _
  | disconnect deviceId nowNs => rw [get?_mapValues, hm]; exact .disconnect _ _
  | beat _ deviceId nowNs hop => rw [get?_mapValues, hm]; exact .beat _ _ _ hop
  | expire nowNs => rw [get?_mapValues, hm]; exact .expire _
  | lock mappingId lock =>
    rw [get?_modify]
    split
    . next heq => subst heq; rw [hm, ← hid]; exact .lock _
    . rw [hm]; exact .keep _
  | remove mappingId =>
    rw [get?_shiftRemove]
    split
    . next heq => subst heq; rw [← hid]; exact .remove
    . rw [hm]; exact .keep _
  | retarget mappingId req nowNs n hreq hn hlock =>
    rw [get?_modify]
    split
    . next heq =>
      subst heq
      rw [hm, Option.some.injEq] at hn
      subst hn
      rw [hm, ← hid]
      exact .retarget req nowNs hreq hlock
    . rw [hm]; exact .keep _
  | create req nowNs fresh table hcreate =>
    cases hcreate with
    | free hreq hfree =>
      rw [get?_insert]
      split
      . next heq => subst heq; rw [← hid]; exact .overwrite req nowNs
      . rw [hm]; exact .keep _
    | evict owner hreq howner hlock hreclaim =>
      rw [get?_insert]
      split
      . next heq => subst heq; rw [← hid]; exact .overwrite req nowNs
      . rw [get?_shiftRemove]
        split
        . next heq =>
          -- the owner that the request runs into is the mapping itself
          have hsame : owner.val = m := by
            have hown := owner.property
            rw [← heq, hm, Option.some.injEq] at hown
            exact hown.symm
          obtain ⟨hactive, htarget⟩ := findMappingForTarget_eq_some howner
          rw [hsame] at hactive htarget hlock hreclaim
          exact .evict req nowNs fresh hreq hactive htarget hlock hreclaim
        . rw [hm]; exact .keep _

end RuntimeCore

namespace RuntimeOp

def nowNs? : RuntimeOp F → Option Nat
  | .registerDeviceDisconnected _ nowNs => some nowNs
  | .heartbeat _ nowNs => some nowNs
  | .createMapping _ nowNs _ => some nowNs
  | .updateMapping _ _ nowNs => some nowNs
  | .schedulerTick nowNs => some nowNs
  | .applyUpdates _ _ nowNs => some nowNs
  | _ => none

def changes (id : MappingId) : RuntimeOp F → Bool
  | .removeMapping mappingId => mappingId == id
  | .updateMapping mappingId _ _ => mappingId == id
  | _ => false

def draws (id : MappingId) : RuntimeOp F → Bool
  | .createMapping _ _ fresh => fresh == id
  | _ => false

end RuntimeOp

namespace RuntimeCore

open MappingTable

/--
An operation in the grace period after a disconnect at time `t`, that neither removes nor updates
the mapping `id`. A drawn identifier is fresh.
-/
def WithinGrace (id : MappingId) (t : Nat) (s : RuntimeCore F) (op : RuntimeOp F) : Prop :=
  (∀ nowNs ∈ op.nowNs?, t ≤ nowNs ∧ nowNs < t + s.lease.reclaimGraceNs)
    ∧ op.changes id = false ∧ op.draws id = false

instance (id : MappingId) (t : Nat) (s : RuntimeCore F) (op : RuntimeOp F)
    : Decidable (WithinGrace id t s op) :=
  inferInstanceAs (Decidable (_ ∧ _))

def heartbeatFresh (s : RuntimeCore F) (m : Mapping) (nowNs : Nat) : Bool :=
  decide (nowNs - m.lastHeartbeatNs < s.lease.timeoutNs)

/--
The condition under which the heartbeat timer does not end the lease of the mapping `id`: a tick
finds the device connected or the heartbeat fresh, and an acceptable request for the same target
finds no other owner there and the heartbeat fresh, unless the lock or the disconnect time is what
protects the mapping.
-/
def LeaseHolds (id : MappingId) (s : RuntimeCore F) : RuntimeOp F → Prop
  | .schedulerTick nowNs =>
    ∀ m ∈ s.mappings.get? id,
      m.sourceDevice ∈ s.connectedDevices ∨ s.heartbeatFresh m nowNs = true
  | .createMapping req nowNs _ =>
    s.acceptsRequest req = true → ∀ m ∈ s.mappings.get? id, req.target = m.target →
      (m.lock = true
          ∨ (m.sourceDevice ∉ s.connectedDevices ∧ m.disconnectedAtNs.isSome = true)
          ∨ s.heartbeatFresh m nowNs = true)
        ∧ ∀ n ∈ s.mappings.values, n.state = .active → n.target = m.target → n.id = id
  | _ => True

instance (id : MappingId) (s : RuntimeCore F) : DecidablePred (LeaseHolds id s)
  | .schedulerTick _ => by unfold LeaseHolds; infer_instance
  | .createMapping _ _ _ => by unfold LeaseHolds; infer_instance
  | .loadScene _ | .setActiveScene _ | .setMode _ | .registerDeviceConnected _
  | .registerDeviceDisconnected _ _ | .heartbeat _ _ | .updateMapping _ _ _ | .removeMapping _
  | .setMappingLock _ _ | .applyUpdates _ _ _ | .resetSceneToBaseline _ | .commitSceneBaseline _
  | .commitObjectBaseline _ _ => inferInstanceAs (Decidable True)

def Holds (id : MappingId) (deviceId : Uuid) (t : Target) (s : RuntimeCore F) : Prop :=
  ∃ m, s.mappings.get? id = some m ∧ m.state = .active ∧ m.sourceDevice = deviceId ∧ m.target = t

def NoTakeover (t : Target) (s : RuntimeCore F) : RuntimeOp F → Prop
  | .createMapping req nowNs id =>
    req.target = t → ∃ e, s.createMapping req nowNs id = (.error e, s)
  | _ => True

/--
What the disconnect at time `t` leaves behind and every operation in the grace period keeps: the
mapping still holds its target, and a disconnect time that is still set is not before `t`.
-/
def HoldsSince (id : MappingId) (deviceId : Uuid) (target : Target) (t : Nat) (s : RuntimeCore F)
    : Prop :=
  ∃ m, s.mappings.get? id = some m ∧ m.state = .active ∧ m.sourceDevice = deviceId
    ∧ m.target = target ∧ ∀ at' ∈ m.disconnectedAtNs, t ≤ at'

theorem canReclaim_eq_false {s : RuntimeCore F} {m : Mapping} {t nowNs : Nat}
    (hsince : ∀ at' ∈ m.disconnectedAtNs, t ≤ at')
    (hnow : t ≤ nowNs ∧ nowNs < t + s.lease.reclaimGraceNs)
    (hlease : (m.sourceDevice ∉ s.connectedDevices ∧ m.disconnectedAtNs.isSome = true)
      ∨ s.heartbeatFresh m nowNs = true)
    : s.canReclaim m nowNs = false := by
  unfold canReclaim
  dsimp only
  simp only [heartbeatFresh, decide_eq_true_eq] at hlease
  split
  . split
    . next at' hat =>
      have := hsince at' hat
      simp only [ge_iff_le, decide_eq_false_iff_not]
      omega
    . next hnone =>
      simp only [hnone, Option.isSome_none, Bool.false_eq_true, and_false, false_or] at hlease
      simpa using hlease
  . next hconn => simpa [hconn] using hlease

theorem holdsSince_step {id : MappingId} {deviceId : Uuid} {target : Target} {t : Nat}
    {s : RuntimeCore F} {op : RuntimeOp F} (h : HoldsSince id deviceId target t s)
    (hgrace : WithinGrace id t s op) (hlease : LeaseHolds id s op)
    : HoldsSince id deviceId target t (s.step op) := by
  obtain ⟨m, hm, hactive, hdevice, htarget, hsince⟩ := h
  obtain ⟨htime, hchanges, hdraws⟩ := hgrace
  have hid : m.id = id := id_of_get? hm
  generalize hnext : (s.step op).mappings.get? id = next
  have hfate := fate_step hm op
  rw [hnext] at hfate
  cases hfate with
  | keep => exact ⟨m, hnext, hactive, hdevice, htarget, hsince⟩
  | disconnect deviceId' nowNs =>
    refine ⟨_, hnext, ?_⟩
    have hnow := htime nowNs rfl
    unfold Mapping.disconnect
    split
    . refine ⟨hactive, hdevice, htarget, ?_⟩
      intro at' hat
      cases hat
      exact hnow.1
    . exact ⟨hactive, hdevice, htarget, hsince⟩
  | beat _ deviceId' nowNs =>
    refine ⟨_, hnext, ?_⟩
    unfold Mapping.beat
    split
    . exact ⟨hactive, hdevice, htarget, by simp⟩
    . exact ⟨hactive, hdevice, htarget, hsince⟩
  | expire nowNs =>
    -- a tick only releases what the heartbeat timer has given up
    have hkeep : m.expire s.connectedDevices s.lease nowNs = m := by
      have := hlease m hm
      simp only [heartbeatFresh, decide_eq_true_eq] at this
      unfold Mapping.expire
      rw [if_neg (by simp [hactive]), if_neg]
      rintro ⟨hgone, hold⟩
      rcases this with hconn | hfresh
      . exact hgone hconn
      . omega
    rw [hkeep] at hnext
    exact ⟨m, hnext, hactive, hdevice, htarget, hsince⟩
  | lock lock => exact ⟨_, hnext, hactive, hdevice, htarget, hsince⟩
  | remove => simp [RuntimeOp.changes, hid] at hchanges
  | retarget req nowNs => simp [RuntimeOp.changes, hid] at hchanges
  | evict req nowNs fresh hreq _ heq hlock hreclaim =>
    -- a competing request would have to find the mapping unlocked and reclaimable
    obtain ⟨hlocked | hm', -⟩ := hlease hreq m hm heq.symm
    . rw [hlocked] at hlock
      cases hlock
    . rw [canReclaim_eq_false hsince (htime nowNs rfl) hm'] at hreclaim
      cases hreclaim
  | overwrite req nowNs => simp [RuntimeOp.draws, hid] at hdraws

theorem noTakeover_of_leaseHolds {id : MappingId} {deviceId : Uuid} {target : Target} {t : Nat}
    {s : RuntimeCore F} {op : RuntimeOp F} (h : HoldsSince id deviceId target t s)
    (hgrace : WithinGrace id t s op) (hlease : LeaseHolds id s op)
    : NoTakeover target s op := by
  obtain ⟨m, hm, hactive, hdevice, htarget, hsince⟩ := h
  cases op with
  | createMapping req nowNs fresh =>
    intro heq
    rcases createMapping_spec s req nowNs fresh with herr | ⟨table, hcreate, -⟩
    . exact herr
    . cases hcreate with
      | free _ hfree =>
        have := findMappingForTarget_eq_none.mp hfree id m hm hactive
        exact absurd (htarget.trans heq.symm) this
      | evict owner hreq howner hlock hreclaim =>
        obtain ⟨hprotected, hunique⟩ := hlease hreq m hm (heq.trans htarget.symm)
        obtain ⟨hown, hown'⟩ := findMappingForTarget_eq_some howner
        have hmem : owner.val ∈ s.mappings.values := MappingTable.mem_values.mpr ⟨_, owner.property⟩
        have hid := hunique owner.val hmem hown (hown'.trans (heq.trans htarget.symm))
        have hsame : owner.val = m := by
          have hprop := owner.property
          rw [hid, hm, Option.some.injEq] at hprop
          exact hprop.symm
        rw [hsame] at hlock hreclaim
        rcases hprotected with hlocked | hprotected
        . rw [hlocked] at hlock
          cases hlock
        . rw [canReclaim_eq_false hsince (hgrace.1 nowNs rfl) hprotected] at hreclaim
          cases hreclaim
  | _ => trivial

theorem holds_of_withinGrace (s : RuntimeCore F) {id : MappingId} {m : Mapping} {t : Nat}
    {ops : List (RuntimeOp F)} (hm : s.mappings.get? id = some m) (hactive : m.state = .active)
    (hgrace : Run.AllSteps step (WithinGrace id t)
      (s.registerDeviceDisconnected m.sourceDevice t) ops)
    (hlease : Run.AllSteps step (LeaseHolds id)
      (s.registerDeviceDisconnected m.sourceDevice t) ops)
    : Run.AllStates step (Holds id m.sourceDevice m.target)
          (s.registerDeviceDisconnected m.sourceDevice t) ops
        ∧
      Run.AllSteps step (NoTakeover m.target)
        (s.registerDeviceDisconnected m.sourceDevice t) ops := by
  have hstart : HoldsSince id m.sourceDevice m.target t
      (s.registerDeviceDisconnected m.sourceDevice t) := by
    refine ⟨m.disconnect m.sourceDevice t, ?_, ?_⟩
    . simp [registerDeviceDisconnected, hm]
    . simp [Mapping.disconnect, hactive, Mapping.target]
  have hboth := hgrace.and _ hlease
  constructor
  . have hall := Run.allStates_of_allSteps
      (fun s op h hop => holdsSince_step h hop.1 hop.2) hstart hboth
    refine hall.imp ?_
    rintro s' ⟨m', hm', hactive', hdevice, htarget, -⟩
    exact ⟨m', hm', hactive', hdevice, htarget⟩
  . exact Run.allSteps_of_invariant (fun s op h hop => holdsSince_step h hop.1 hop.2)
      (fun s op h hop => noTakeover_of_leaseHolds h hop.1 hop.2) hstart hboth

/--
Device 7 owns a switch, has sent its last heartbeat at 10 s and is connected.
-/
def switchOwned : RuntimeCore Floats.rational :=
  Run.run step (new .default)
    [.loadScene (switchScene _), .createMapping (switchRequest 7 "left") 10000000000 100,
      .registerDeviceConnected 7]

theorem switchOwned_get?
    : switchOwned.mappings.get? 100 = some (newMapping (switchRequest 7 "left") 10000000000 100) :=
  rfl

theorem holds_of_withinGrace_switchOwned
    : (switchOwned.mappings.get? 100).isSome
        ∧
      Run.AllStates step (Holds 100 7 ⟨1, 2, "left"⟩)
        (switchOwned.registerDeviceDisconnected 7 11000000000)
        [.schedulerTick 11500000000, .createMapping (switchRequest 8 "left") 13000000000 101,
          .registerDeviceConnected 7, .heartbeat 7 14000000000, .schedulerTick 15000000000] := by
  refine ⟨rfl, ?_⟩
  exact (holds_of_withinGrace switchOwned switchOwned_get? rfl (by decide) (by decide)).1

/--
With the default lease the scheduler releases the mapping 1 s after the disconnect, although the
grace period is 5 s: its test only looks at the heartbeat.
-/
theorem holds_withinGrace_fails
    : ¬ ∀ (lease : LeaseConfig) (pre ops : List (RuntimeOp Floats.rational)) (id : MappingId)
        (m : Mapping) (t : Nat),
        (Run.run step (new lease) pre).mappings.get? id = some m → m.state = .active →
        Run.AllSteps step (WithinGrace id t)
          ((Run.run step (new lease) pre).registerDeviceDisconnected m.sourceDevice t) ops →
        Run.AllStates step (Holds id m.sourceDevice m.target)
          ((Run.run step (new lease) pre).registerDeviceDisconnected m.sourceDevice t) ops := by
  intro h
  have hall := h .default _ [.schedulerTick 12000000000] 100 _ 11000000000 switchOwned_get? rfl
    (by decide)
  obtain ⟨m, hm, hactive, -⟩ := hall.last
  have hreleased : m.state = .released := by
    cases hm
    rfl
  rw [hreleased] at hactive
  cases hactive

section LiveOwner

/--
A request or a tick that comes within the timeout after the latest heartbeat of the mapping `id`,
or any other operation that neither removes nor updates it. A drawn identifier is fresh.
-/
def InTime (id : MappingId) (s : RuntimeCore F) (op : RuntimeOp F) : Prop :=
  (match op with
    | .schedulerTick nowNs => ∀ m ∈ s.mappings.get? id, s.heartbeatFresh m nowNs = true
    | .createMapping _ nowNs _ => ∀ m ∈ s.mappings.get? id, s.heartbeatFresh m nowNs = true
    | _ => True)
    ∧ op.changes id = false ∧ op.draws id = false

def StillOwns (m : Mapping) (s : RuntimeCore F) : Prop :=
  ∃ m', s.mappings.get? m.id = some m' ∧ m'.state = .active
    ∧ m'.sourceDevice = m.sourceDevice ∧ m'.sourceOutput = m.sourceOutput
    ∧ m'.target = m.target ∧ m'.componentMask = m.componentMask

theorem canReclaim_of_connected {s : RuntimeCore F} {m : Mapping} {nowNs : Nat}
    (hconn : m.sourceDevice ∈ s.connectedDevices) (hfresh : s.heartbeatFresh m nowNs = true)
    : s.canReclaim m nowNs = false := by
  simp only [heartbeatFresh, decide_eq_true_eq] at hfresh
  simp only [canReclaim, hconn, not_true_eq_false, if_false, decide_eq_false_iff_not]
  omega

theorem stillOwns_step {m : Mapping} {s : RuntimeCore F} {op : RuntimeOp F}
    (h : StillOwns m s) (hconn : m.sourceDevice ∈ s.connectedDevices) (hop : InTime m.id s op)
    : StillOwns m (s.step op) := by
  obtain ⟨m', hm', hactive, hdevice, hrest⟩ := h
  obtain ⟨hfresh, hchanges, hdraws⟩ := hop
  have hid : m'.id = m.id := id_of_get? hm'
  generalize hnext : (s.step op).mappings.get? m.id = next
  have hfate := fate_step hm' op
  rw [hnext] at hfate
  cases hfate with
  | keep => exact ⟨m', hnext, hactive, hdevice, hrest⟩
  | disconnect deviceId nowNs =>
    refine ⟨_, hnext, ?_⟩
    unfold Mapping.disconnect
    split <;> exact ⟨hactive, hdevice, hrest⟩
  | beat _ deviceId nowNs =>
    refine ⟨_, hnext, ?_⟩
    unfold Mapping.beat
    split <;> exact ⟨hactive, hdevice, hrest⟩
  | expire nowNs =>
    -- a tick does not touch the mappings of connected devices
    have hkeep : m'.expire s.connectedDevices s.lease nowNs = m' := by
      unfold Mapping.expire
      rw [if_neg (by simp [hactive]), if_neg]
      rintro ⟨hgone, -⟩
      rw [hdevice] at hgone
      exact hgone hconn
    rw [hkeep] at hnext
    exact ⟨m', hnext, hactive, hdevice, hrest⟩
  | lock lock => exact ⟨_, hnext, hactive, hdevice, hrest⟩
  | remove => simp [RuntimeOp.changes, hid] at hchanges
  | retarget req nowNs => simp [RuntimeOp.changes, hid] at hchanges
  | evict req nowNs fresh _ _ _ _ hreclaim =>
    rw [← hdevice] at hconn
    rw [canReclaim_of_connected hconn (hfresh m' hm')] at hreclaim
    cases hreclaim
  | overwrite req nowNs => simp [RuntimeOp.draws, hid] at hdraws

theorem stillOwns_run (s : RuntimeCore F) {m : Mapping} {ops : List (RuntimeOp F)}
    (hm : s.mappings.get? m.id = some m) (hactive : m.state = .active)
    (hconn : Run.AllStates step (fun s => m.sourceDevice ∈ s.connectedDevices) s ops)
    (hops : Run.AllSteps step (InTime m.id) s ops)
    : StillOwns m (Run.run step s ops) := by
  have hstart : StillOwns m s := ⟨m, hm, hactive, rfl, rfl, rfl, rfl⟩
  have hboth := hconn.allSteps.and _ hops
  exact Run.run_invariant (fun s op h hop => stillOwns_step h hop.1 hop.2) hstart hboth

theorem stillOwns_run_switchOwned
    : Run.AllStates step (fun s => 7 ∈ s.connectedDevices) switchOwned
          [.createMapping (switchRequest 8 "left") 11000000000 101, .heartbeat 7 11500000000,
            .schedulerTick 13000000000]
        ∧
      StillOwns (newMapping (switchRequest 7 "left") 10000000000 100)
        (Run.run step switchOwned
          [.createMapping (switchRequest 8 "left") 11000000000 101, .heartbeat 7 11500000000,
            .schedulerTick 13000000000]) := by
  have hconn : Run.AllStates step (fun s => 7 ∈ s.connectedDevices) switchOwned
      [.createMapping (switchRequest 8 "left") 11000000000 101, .heartbeat 7 11500000000,
        .schedulerTick 13000000000] := by
    decide
  refine ⟨hconn, stillOwns_run switchOwned switchOwned_get? rfl hconn ?_⟩
  refine ⟨⟨?_, rfl, rfl⟩, ⟨trivial, rfl, rfl⟩, ⟨?_, rfl, rfl⟩, trivial⟩
  . decide
  . decide

end LiveOwner

end RuntimeCore

end MotionStage
