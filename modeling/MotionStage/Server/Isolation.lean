import MotionStage.Core.Update
import MotionStage.Server.Teardown

/-!
This module contains the isolation of the devices from each other: what a motion datagram on the
connection of one device does to the mappings of another.
-/

namespace MotionStage

variable {F : Floats}

namespace Mapping

def liveness (m : Mapping) : Nat × Option Nat := (m.lastHeartbeatNs, m.disconnectedAtNs)

theorem liveness_beat {deviceId : Uuid} {nowNs : Nat} {m : Mapping}
    (h : (m.beat deviceId nowNs).liveness ≠ m.liveness)
    : m.state = .active ∧ m.sourceDevice = deviceId := by
  unfold beat at h
  split at h
  . next hbeats => exact ⟨hbeats.2, hbeats.1⟩
  . exact absurd rfl h

end Mapping

namespace RuntimeCore

/--
A change that stays with one device: the values that change are those of the targets of its mappings,
and the heartbeats and disconnect times that change are those of its mappings.
-/
structure Isolated (deviceId : Uuid) (s s' : RuntimeCore F) : Prop where
  values : ∀ t, (s'.attributeAt t).map SceneAttribute.currentValue
      ≠
    (s.attributeAt t).map SceneAttribute.currentValue →
    ∃ m ∈ s.mappings.values, m.sourceDevice = deviceId ∧ m.target = t
  mappings : ∀ id, (s'.mappings.get? id).map Mapping.liveness
      ≠
    (s.mappings.get? id).map Mapping.liveness →
    ∃ m, s.mappings.get? id = some m ∧ m.sourceDevice = deviceId

theorem mappings_applyUpdates (s : RuntimeCore F) (deviceId : Uuid)
    (updates : List (AttributeUpdate F)) (nowNs : Nat) (id : MappingId)
    : (s.applyUpdates deviceId updates nowNs).2.mappings.get? id
        =
      (s.mappings.get? id).map (Mapping.beat deviceId nowNs) := by
  rw [applyUpdates_frame]
  exact s.mappings.get?_mapValues _ (Mapping.beat_id deviceId nowNs) id

theorem isolated_applyUpdates {s : RuntimeCore F} {deviceId owner : Uuid}
    (h : ∀ m ∈ s.mappings.values, m.state = .active → m.sourceDevice = deviceId →
      m.sourceDevice = owner)
    (updates : List (AttributeUpdate F)) (nowNs : Nat)
    : Isolated owner s (s.applyUpdates deviceId updates nowNs).2 := by
  constructor
  . intro t hchanged
    by_contra hnone
    refine hchanged ?_
    rw [attributeAt_applyUpdates]
    intro m hm hactive hsource htarget
    exact hnone ⟨m, hm, h m hm hactive hsource, htarget⟩
  . intro id hchanged
    rw [mappings_applyUpdates] at hchanged
    cases hid : s.mappings.get? id with
    | none => simp [hid] at hchanged
    | some m =>
      simp only [hid, Option.map_some, ne_eq, Option.some.injEq] at hchanged
      obtain ⟨hactive, hsource⟩ := Mapping.liveness_beat hchanged
      exact ⟨m, rfl, h m (MappingTable.mem_values.mpr ⟨id, hid⟩) hactive hsource⟩

theorem sourceDevice_of_isolated {s : RuntimeCore F} {deviceId owner : Uuid} {m : Mapping}
    {updates : List (AttributeUpdate F)} {nowNs : Nat}
    (h : Isolated owner s (s.applyUpdates deviceId updates nowNs).2)
    (hm : m ∈ s.mappings.values) (hactive : m.state = .active) (hsource : m.sourceDevice = deviceId)
    (hnew : nowNs ≠ m.lastHeartbeatNs)
    : m.sourceDevice = owner := by
  obtain ⟨id, hid⟩ := MappingTable.mem_values.mp hm
  obtain ⟨m', hid', howner⟩ := h.mappings id (by
    rw [mappings_applyUpdates, hid]
    simp [Mapping.beat, Mapping.liveness, hsource, hactive, hnew])
  rw [hid, Option.some.injEq] at hid'
  rw [hid', howner]

end RuntimeCore

namespace Connection

open RuntimeCore

def ingest (c : Connection F) (datagram : ServerState.MotionDatagram F) (nowNs : Nat) (fresh : Uuid)
    (results : WebRtcResults) : Connection F :=
  Run.run react c [.datagram (.ok datagram), .run nowNs fresh results]

theorem runtime_ingest {c : Connection F} {hello : ClientHello}
    (hphase : c.peer.phase = .select hello) (datagram : ServerState.MotionDatagram F) (nowNs : Nat)
    (fresh : Uuid) (results : WebRtcResults)
    : (c.ingest datagram nowNs fresh results).server.runtime
        =
      (c.server.runtime.applyUpdates datagram.deviceId datagram.updates datagram.timestampNs).2 := by
  obtain ⟨⟨phase, sent, joined, accepted⟩, server⟩ := c
  cases hphase
  exact (server.step_frame (.ingestMotionDatagram datagram)).2.1

theorem isolated_iff {c : Connection F} {hello : ClientHello}
    (hphase : c.peer.phase = .select hello) (deviceId : Uuid) (updates : List (AttributeUpdate F))
    (nowNs : Nat) (fresh : Uuid) (results : WebRtcResults)
    : (∀ timestampNs < 2 ^ 64, c.server.runtime.Isolated hello.deviceId
          (c.ingest ⟨deviceId, timestampNs, updates⟩ nowNs fresh results).server.runtime)
        ↔
      (deviceId = hello.deviceId
        ∨ ∀ m ∈ c.server.runtime.mappings.values, m.sourceDevice = deviceId →
          m.state ≠ .active) := by
  simp only [runtime_ingest hphase]
  constructor
  . intro h
    by_cases hsame : deviceId = hello.deviceId
    . exact .inl hsame
    . right
      intro m hm hsource hactive
      -- of the two times 0 and 1 one differs from the last heartbeat
      obtain ⟨timestampNs, hlt, hnew⟩ : ∃ t, t < 2 ^ 64 ∧ t ≠ m.lastHeartbeatNs := by
        by_cases hzero : m.lastHeartbeatNs = 0
        . exact ⟨1, by decide, by omega⟩
        . exact ⟨0, by decide, by omega⟩
      have howner := RuntimeCore.sourceDevice_of_isolated (h timestampNs hlt) hm hactive hsource hnew
      exact hsame (hsource.symm.trans howner)
  . intro h timestampNs _
    apply RuntimeCore.isolated_applyUpdates
    intro m hm hactive hsource
    rcases h with hsame | hnone
    . exact hsource.trans hsame
    . exact absurd hactive (hnone m hm hsource)

/--
Panel 7 owns a switch of the live stage, and panel 8 has none. The connection is that of panel 8.
-/
def panelBeside : Connection Floats.rational :=
  let stage := Run.run ServerState.step (.new .default)
    [.loadScene (switchScene _), .createMapping (switchRequest 7 "left") 1 100, .setMode .live 2]
  Run.run react (new stage) (PeerEvent.panelGreets 8 "beside" ++ PeerEvent.panelRegisters 60)

def pressed (deviceId : Uuid) : ServerState.MotionDatagram Floats.rational :=
  ⟨deviceId, 3, [⟨"button", .bool true⟩]⟩

theorem isolated_iff_panelBeside
    : panelBeside.server.runtime.Isolated 8
        (panelBeside.ingest (pressed 8) 3 0 .unavailable).server.runtime :=
  (isolated_iff (c := panelBeside) rfl 8 [⟨"button", .bool true⟩] 3 0 .unavailable).mpr (.inl rfl) 3
    (by decide)

/--
The datagram of panel 8 moves the switch of panel 7 when it carries the identifier of panel 7.
-/
theorem isolated_fails
    : panelBeside.peer.phase = .select (ServerState.panelHello 8 "beside")
        ∧
      ¬ panelBeside.server.runtime.Isolated 8
        (panelBeside.ingest (pressed 7) 3 0 .unavailable).server.runtime := by
  refine ⟨rfl, ?_⟩
  intro h
  have hbefore : (panelBeside.server.runtime.attributeAt ⟨1, 2, "left"⟩).map
      SceneAttribute.currentValue = some (.bool false) := rfl
  have hafter : ((panelBeside.ingest (pressed 7) 3 0 .unavailable).server.runtime.attributeAt
      ⟨1, 2, "left"⟩).map SceneAttribute.currentValue = some (.bool true) := rfl
  obtain ⟨m, hm, hsource, -⟩ := h.values ⟨1, 2, "left"⟩ (by simp [hbefore, hafter])
  revert m
  decide

end Connection

end MotionStage
