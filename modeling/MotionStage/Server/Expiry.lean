import MotionStage.Core.Lease
import MotionStage.Server.Admission

/-!
This module contains the end of a lease: when the scheduler releases the mappings of a device that
has closed its session and does not come back.
-/

namespace MotionStage

variable {F : Floats}

namespace RuntimeCore

open MappingTable

/--
The device is gone, and its active mappings have had their last heartbeat by the time `t`. Without
a timeout the heartbeats do not matter.
-/
def Lapsing (deviceId : Uuid) (t : Nat) (s : RuntimeCore F) : Prop :=
  deviceId ∉ s.connectedDevices
    ∧ ∀ id m, s.mappings.get? id = some m → m.sourceDevice = deviceId → m.state = .active →
        m.lastHeartbeatNs ≤ t ∨ s.lease.timeoutNs = 0

/--
The operations that do not bring the device back: they neither connect it nor beat for it, and give
it no mapping after the time `t`.
-/
def Bystander (deviceId : Uuid) (t : Nat) (s : RuntimeCore F) : RuntimeOp F → Prop
  | .registerDeviceConnected deviceId' => deviceId' ≠ deviceId
  | .heartbeat deviceId' _ => deviceId' ≠ deviceId
  | .applyUpdates deviceId' _ _ => deviceId' ≠ deviceId
  | .createMapping req nowNs _ =>
    s.acceptsRequest req = true → req.sourceDevice = deviceId → nowNs ≤ t
  | .updateMapping _ req nowNs =>
    s.acceptsRequest req = true → req.sourceDevice = deviceId → nowNs ≤ t
  | _ => True

section Lapsing

variable {deviceId : Uuid} {t : Nat} {s : RuntimeCore F}

theorem lapsing_step {op : RuntimeOp F} (h : s.Lapsing deviceId t) (hop : s.Bystander deviceId t op)
    : (s.step op).Lapsing deviceId t := by
  obtain ⟨hgone, hbeats⟩ := h
  constructor
  . rw [step_connectedDevices]
    cases op with
    | registerDeviceConnected deviceId' => simp [devicesAfter, hgone, Ne.symm hop]
    | registerDeviceDisconnected deviceId' nowNs => simp [devicesAfter, hgone]
    | _ => exact hgone
  . rw [(s.step_frame op).1]
    intro id m' hm'
    -- what the source writes into a new or updated mapping
    have hnew : ∀ req nowNs, s.acceptsRequest req = true →
        (s.acceptsRequest req = true → req.sourceDevice = deviceId → nowNs ≤ t) →
        req.sourceDevice = deviceId → nowNs ≤ t ∨ s.lease.timeoutNs = 0 := by
      intro req nowNs hreq hlate hdevice
      exact .inl (hlate hreq hdevice)
    cases origin_step hm' with
    | keep _ _ hm => exact hbeats id m' hm
    | disconnect deviceId' nowNs m hm =>
      unfold Mapping.disconnect
      split <;> exact hbeats id m hm
    | beat _ deviceId' nowNs m hbeat hm =>
      have hne : deviceId' ≠ deviceId := by
        rcases hbeat with rfl | ⟨updates, rfl⟩
        . exact hop
        . exact hop
      intro hsource hactive
      rw [(m.beat_keeps deviceId' nowNs).2.2] at hsource
      have hother : m.sourceDevice ≠ deviceId' := fun heq => hne (heq.symm.trans hsource)
      rw [Mapping.beat_of_ne hother] at hactive ⊢
      exact hbeats id m hm hsource hactive
    | expire nowNs m hm =>
      intro hsource hactive
      have hkeep := Mapping.expire_keeps _ _ _ _ hactive
      rw [hkeep] at hsource hactive ⊢
      exact hbeats id m hm hsource hactive
    | lock lock m hm => exact hbeats id m hm
    | retarget req nowNs m hreq hm hlock =>
      intro hsource hactive
      exact hnew req nowNs hreq hop hsource
    | create req nowNs hreq =>
      intro hsource hactive
      exact hnew req nowNs hreq hop hsource

theorem released_of_lapsing (h : s.Lapsing deviceId t) {nowNs : Nat}
    (hnow : t + s.lease.timeoutNs ≤ nowNs)
    : ∀ m ∈ (s.schedulerTick nowNs).mappings.values, m.sourceDevice = deviceId →
        m.state ≠ .active := by
  intro m' hm' hsource hactive
  obtain ⟨id, hid⟩ := mem_values.mp hm'
  simp only [schedulerTick, get?_mapValues] at hid
  obtain ⟨m, hm, rfl⟩ := Option.map_eq_some_iff.mp hid
  have hkeep := Mapping.expire_keeps _ _ _ _ hactive
  rw [hkeep] at hsource hactive
  -- a mapping that the tick keeps would have to be younger than the timeout
  have hbeat := h.2 id m hm hsource hactive
  have hdue : m.sourceDevice ∉ s.connectedDevices
      ∧ nowNs - m.lastHeartbeatNs ≥ s.lease.timeoutNs := by
    refine ⟨hsource ▸ h.1, ?_⟩
    omega
  unfold Mapping.expire at hkeep
  rw [if_neg (by simp [hactive]), if_pos hdue] at hkeep
  rw [← hkeep] at hactive
  cases hactive

end Lapsing

end RuntimeCore

namespace ServerState

def Silent (deviceId : Uuid) : ServerOp F → Prop
  | .ingestMotionSamples deviceId' _ _ => deviceId' ≠ deviceId
  | .ingestMotionDatagram datagram => datagram.deviceId ≠ deviceId
  | .activate deviceId' => deviceId' ≠ deviceId
  | _ => True

def NoLaterLease (deviceId : Uuid) (t : Nat) (self : ServerState F) : ServerOp F → Prop
  | .createMapping req nowNs _ =>
    self.runtime.acceptsRequest req = true → req.sourceDevice = deviceId → nowNs ≤ t
  | .updateMapping _ req nowNs =>
    self.runtime.acceptsRequest req = true → req.sourceDevice = deviceId → nowNs ≤ t
  | _ => True

def BeatsBy (deviceId : Uuid) (t : Nat) (self : ServerState F) : Prop :=
  ∀ m ∈ self.runtime.mappings.values, m.sourceDevice = deviceId → m.state = .active →
    m.lastHeartbeatNs ≤ t ∨ self.runtime.lease.timeoutNs = 0

/--
A tick that comes a timeout after `t` leaves no active mapping of the device behind. The loop of the
scheduler only ticks while the server is running.
-/
def ReleasesDue (deviceId : Uuid) (t : Nat) (self : ServerState F) : ServerOp F → Prop
  | .schedulerTick nowNs =>
    self.running = true → t + self.runtime.lease.timeoutNs ≤ nowNs →
      ∀ m ∈ (self.step (.schedulerTick nowNs)).runtime.mappings.values,
        m.sourceDevice = deviceId → m.state ≠ .active
  | _ => True

section Expiry

variable {deviceId : Uuid} {t : Nat} {self : ServerState F} {op : ServerOp F}

theorem bystander_runtimeOps (hsilent : Silent deviceId op) (hlate : NoLaterLease deviceId t self op)
    : Run.AllSteps RuntimeCore.step (RuntimeCore.Bystander deviceId t) self.runtime
        (self.runtimeOps op) := by
  cases op with
  | resetSceneToBaseline sceneId | commitSceneBaseline sceneId =>
    simp only [runtimeOps]
    cases self.resolveSceneForBaseline sceneId with
    | error e => trivial
    | ok sceneId => exact ⟨trivial, trivial⟩
  | commitObjectBaseline sceneId objectId =>
    simp only [runtimeOps]
    cases self.resolveSceneForBaseline sceneId with
    | error e => trivial
    | ok sceneId => exact ⟨trivial, trivial⟩
  | createMapping req nowNs id => exact ⟨hlate, trivial⟩
  | updateMapping mappingId req nowNs => exact ⟨hlate, trivial⟩
  | ingestMotionSamples deviceId' updates timestampNs => exact ⟨hsilent, trivial⟩
  | ingestMotionDatagram datagram => exact ⟨hsilent, trivial⟩
  | activate deviceId' => exact ⟨hsilent, trivial⟩
  | startRecording path nowNs recordingId =>
    simp only [runtimeOps]
    split
    . exact ⟨trivial, trivial, trivial⟩
    . exact ⟨trivial, trivial⟩
  | stopRecording nowNs written =>
    simp only [runtimeOps]
    split
    . exact ⟨trivial, trivial⟩
    . trivial
  | schedulerTick nowNs =>
    simp only [runtimeOps]
    split
    . exact ⟨trivial, trivial⟩
    . trivial
  | closeSession | loadScene | setActiveScene | setMode | removeMapping | setMappingLock =>
    exact ⟨trivial, trivial⟩
  | _ => trivial

theorem lapsing_call (h : self.runtime.Lapsing deviceId t) (hsilent : Silent deviceId op)
    (hlate : NoLaterLease deviceId t self op)
    : (self.step op).runtime.Lapsing deviceId t := by
  rw [(self.step_frame op).2.1]
  exact Run.run_invariant (fun s op h hop => RuntimeCore.lapsing_step h hop) h
    (bystander_runtimeOps hsilent hlate)

theorem releasesDue_of_lapsing (h : self.runtime.Lapsing deviceId t) (op : ServerOp F)
    : ReleasesDue deviceId t self op := by
  cases op with
  | schedulerTick nowNs =>
    intro hrunning hnow
    have htick : (self.step (.schedulerTick nowNs)).runtime = self.runtime.schedulerTick nowNs := by
      rw [(self.step_frame _).2.1]
      simp [runtimeOps, hrunning, RuntimeCore.step]
    rw [htick]
    exact RuntimeCore.released_of_lapsing h hnow
  | _ => trivial

theorem lapsing_closeSession (hbeats : BeatsBy deviceId t self)
    : (self.step (.closeSession deviceId t)).runtime.Lapsing deviceId t := by
  have hruntime : (self.step (.closeSession deviceId t)).runtime
      = self.runtime.registerDeviceDisconnected deviceId t :=
    (self.step_frame _).2.1
  rw [hruntime]
  refine ⟨by simp [RuntimeCore.registerDeviceDisconnected], ?_⟩
  intro id m' hm' hsource hactive
  simp only [RuntimeCore.registerDeviceDisconnected, MappingTable.get?_mapValues] at hm'
  obtain ⟨m, hm, rfl⟩ := Option.map_eq_some_iff.mp hm'
  have hmem : m ∈ self.runtime.mappings.values := MappingTable.mem_values.mpr ⟨id, hm⟩
  revert hsource hactive
  unfold Mapping.disconnect
  split <;> exact hbeats m hmem

theorem beatsBy_of_releasesDue
    (h : Run.AllSteps step (ReleasesDue deviceId t) (self.step (.closeSession deviceId t))
      [.setRunning true, .schedulerTick (t + self.runtime.lease.timeoutNs)])
    : BeatsBy deviceId t self := by
  intro m hm hsource hactive
  by_contra hahead
  simp only [not_or, not_le] at hahead
  obtain ⟨hbeat, htimeout⟩ := hahead
  obtain ⟨id, hid⟩ := MappingTable.mem_values.mp hm
  let closed : RuntimeCore F := self.runtime.registerDeviceDisconnected deviceId t
  have htick : (Run.run step (self.step (.closeSession deviceId t))
      [.setRunning true, .schedulerTick (t + self.runtime.lease.timeoutNs)]).runtime
        =
      closed.schedulerTick (t + self.runtime.lease.timeoutNs) := by
    have hruntime : (self.step (.closeSession deviceId t)).runtime = closed :=
      (self.step_frame _).2.1
    simp only [Run.run_cons, Run.run_nil, step, exec] at hruntime ⊢
    rw [← hruntime]
    rfl
  -- the close leaves the heartbeat alone, and the tick finds it too young
  let kept : Mapping := { m with disconnectedAtNs := some t }
  have hkept : closed.mappings.get? id = some kept := by
    simp [closed, kept, RuntimeCore.registerDeviceDisconnected, hid, Mapping.disconnect, hsource,
      hactive]
  have hyoung : kept.expire closed.connectedDevices closed.lease
      (t + self.runtime.lease.timeoutNs) = kept := by
    unfold Mapping.expire
    rw [if_neg (by simp [kept, hactive]), if_neg]
    rintro ⟨-, hold⟩
    simp only [kept, closed, RuntimeCore.registerDeviceDisconnected] at hold
    omega
  have hstill : kept ∈ (closed.schedulerTick
      (t + self.runtime.lease.timeoutNs)).mappings.values := by
    refine MappingTable.mem_values.mpr ⟨id, ?_⟩
    simp only [RuntimeCore.schedulerTick, MappingTable.get?_mapValues, hkept, Option.map_some,
      hyoung]
  have hlease : ((self.step (.closeSession deviceId t)).step (.setRunning true)).runtime.lease
      = self.runtime.lease := by
    rw [(step_frame _ _).2.1, (step_frame _ _).2.1]
    rfl
  have hdue := h.2.1 rfl (by rw [hlease]) kept
  rw [← htick] at hstill
  exact hdue hstill hsource hactive

end Expiry

theorem releasesDue_iff_beatsBy (self : ServerState F) (deviceId : Uuid) (t : Nat)
    : (∀ ops,
        Run.AllSteps step (fun _ => Silent deviceId) (self.step (.closeSession deviceId t)) ops →
        Run.AllSteps step (NoLaterLease deviceId t) (self.step (.closeSession deviceId t)) ops →
        Run.AllSteps step (ReleasesDue deviceId t) (self.step (.closeSession deviceId t)) ops)
        ↔
      BeatsBy deviceId t self := by
  constructor
  . intro h
    apply beatsBy_of_releasesDue
    exact h _ ⟨trivial, trivial, trivial⟩ ⟨trivial, trivial, trivial⟩
  . intro hbeats ops hsilent hlate
    exact Run.allSteps_of_invariant (P := fun s => s.runtime.Lapsing deviceId t)
      (fun s op h hop => lapsing_call h hop.1 hop.2) (fun s op h _ => releasesDue_of_lapsing h op)
      (lapsing_closeSession hbeats) (hsilent.and _ hlate)

/--
The panel has sent one datagram whose timestamp lies years ahead.
-/
def panelAhead : List (ServerOp Floats.rational) :=
  panelHandshake ++
    [.loadScene (RuntimeCore.switchScene _),
      .createMapping (RuntimeCore.switchRequest 7 "left") 10 100, .setMode .live 11,
      .setRunning true, .ingestMotionDatagram ⟨7, 4000000000000000000, [⟨"button", .bool true⟩]⟩]

/--
The timestamp of the datagram is taken as the time of the heartbeat, so the lease of the panel does
not end a timeout after it has closed its session.
-/
theorem releasesDue_fails
    : ¬ ∀ (pre ops : List (ServerOp Floats.rational)) (deviceId : Uuid) (t : Nat),
        Run.AllSteps step (fun _ => Silent deviceId)
          ((Run.run step (new .default) pre).step (.closeSession deviceId t)) ops →
        Run.AllSteps step (ReleasesDue deviceId t)
          ((Run.run step (new .default) pre).step (.closeSession deviceId t)) ops := by
  intro h
  have hdue := (h panelAhead [.schedulerTick 2000000020] 7 20 ⟨trivial, trivial⟩).1 rfl (by decide)
  revert hdue
  decide

end ServerState

end MotionStage
