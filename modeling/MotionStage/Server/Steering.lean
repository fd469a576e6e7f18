import MotionStage.Core.Lock
import MotionStage.Server.Teardown

/-!
This module contains who may steer the stage: a connection without the operator role leaves the
mode, the scenes and the mappings as they are, whatever control messages it sends.
-/

namespace MotionStage

variable {F : Floats}

namespace Mapping

/--
A mapping without its heartbeat and disconnect times.
-/
def steering (m : Mapping) : MappingId × Wiring × Bool × MappingState :=
  (m.id, m.wiring, m.lock, m.state)

theorem disconnect_steering (deviceId : Uuid) (nowNs : Nat) (m : Mapping)
    : (m.disconnect deviceId nowNs).steering = m.steering := by
  obtain ⟨hwiring, hlock⟩ := m.disconnect_wiring deviceId nowNs
  obtain ⟨hstate, -⟩ := m.disconnect_keeps deviceId nowNs
  simp only [steering, hwiring, hlock, hstate, m.disconnect_id]

end Mapping

namespace RuntimeCore

/--
What an operator steers is the same in both states. The scenes are compared whole, with the current
and default values of their attributes.
-/
structure SameStage (s s' : RuntimeCore F) : Prop where
  mode : s'.mode = s.mode
  activeScene : s'.activeScene = s.activeScene
  scenes : s'.scenes = s.scenes
  mappings : s'.mappings.values.map Mapping.steering = s.mappings.values.map Mapping.steering

namespace SameStage

theorem refl (s : RuntimeCore F) : SameStage s s := ⟨rfl, rfl, rfl, rfl⟩

theorem trans {s₁ s₂ s₃ : RuntimeCore F} (h₁ : SameStage s₁ s₂) (h₂ : SameStage s₂ s₃)
    : SameStage s₁ s₃ :=
  ⟨h₂.mode.trans h₁.mode, h₂.activeScene.trans h₁.activeScene, h₂.scenes.trans h₁.scenes,
    h₂.mappings.trans h₁.mappings⟩

theorem registerDeviceDisconnected (s : RuntimeCore F) (deviceId : Uuid) (nowNs : Nat)
    : SameStage s (s.registerDeviceDisconnected deviceId nowNs) := by
  refine ⟨rfl, rfl, rfl, ?_⟩
  simp only [RuntimeCore.registerDeviceDisconnected, MappingTable.values_mapValues, List.map_map]
  congr 1
  funext m
  exact m.disconnect_steering deviceId nowNs

end SameStage

end RuntimeCore

namespace ServerOp

def isUnprivileged : ServerOp F → Bool
  | .closeSession _ _ | .createVideoOffer _ _ | .handleVideoSignal _ _ _
  | .pushSignalingMessage _ | .drainSignalingMessages _ => true
  | _ => false

end ServerOp

theorem ServerState.sameStage_step (s : ServerState F) {op : ServerOp F}
    (hop : op.isUnprivileged = true)
    : s.runtime.SameStage (s.step op).runtime := by
  rw [(s.step_frame op).2.1]
  cases op with
  | closeSession deviceId nowNs =>
    exact RuntimeCore.SameStage.registerDeviceDisconnected s.runtime deviceId nowNs
  | createVideoOffer | handleVideoSignal | pushSignalingMessage | drainSignalingMessages =>
    exact RuntimeCore.SameStage.refl s.runtime
  | _ => cases hop

namespace PeerPhase

/--
The messages that the active loop takes from an operator only.
-/
def needsOperator : ControlMessage → Bool
  | .setMode _ | .resetSceneToBaseline _ | .commitSceneBaseline _ | .commitObjectBaseline _ _ => true
  | _ => false

/--
The phases of the active loop for a peer that is no operator, when no datagram arrives.
-/
def Confined : PeerPhase F → Prop
  | .select hello | .sendPong hello | .readMode hello | .reply hello _ | .sendError hello _ _
  | .teardown hello => .operator ∉ hello.roles
  | .serve hello message => .operator ∉ hello.roles ∧ needsOperator message = false
  | .done _ => True
  | _ => False

def isMotion : PeerEvent F → Bool
  | .datagram (.ok _) => true
  | _ => false

theorem confined_dispatch {hello : ClientHello} (h : .operator ∉ hello.roles)
    (message : ControlMessage)
    : (dispatch (F := F) hello message).Confined := by
  have hroles : hello.roles.contains .operator = false := by
    simpa [List.contains_eq_mem] using h
  cases message with
  | setMode | resetSceneToBaseline | commitSceneBaseline | commitObjectBaseline =>
    simp only [dispatch, asOperator, hroles, Bool.not_false, if_true]
    exact h
  | videoSignal signal =>
    simp only [dispatch]
    split
    . exact h
    . exact ⟨h, rfl⟩
  | createVideoOffer | drainSignals => exact ⟨h, rfl⟩
  | _ => exact h

theorem confined_answer {α : Type} {hello : ClientHello} (h : .operator ∉ hello.roles)
    {r : Except ServerError α × ServerState F} {next : α → PeerPhase F}
    (hnext : ∀ a, (next a).Confined)
    : (answer hello r next).1.Confined := by
  obtain ⟨e | a, s⟩ := r
  . exact h
  . exact hnext a

theorem confined_runServe {hello : ClientHello} (h : .operator ∉ hello.roles)
    {message : ControlMessage} (hmessage : needsOperator message = false) (s : ServerState F)
    (nowNs : Nat) (results : WebRtcResults)
    : (runServe hello s nowNs results message).1.Confined := by
  cases message with
  | setMode | resetSceneToBaseline | commitSceneBaseline | commitObjectBaseline => cases hmessage
  | createVideoOffer | drainSignals => exact confined_answer h fun _ => h
  | videoSignal signal =>
    simp only [runServe]
    split
    . apply confined_answer h
      intro sdp
      cases sdp <;> exact h
    . exact confined_answer h fun _ => h
  | _ => exact h

theorem confined_step {phase : PeerPhase F} (h : phase.Confined) {e : PeerEvent F}
    (he : isMotion e = false) (s : ServerState F)
    : (phase.step s e).1.Confined := by
  cases phase with
  | select hello =>
    cases e with
    | received message =>
      cases message with
      | error => exact h
      | ok message => exact confined_dispatch h message
    | datagram datagram =>
      cases datagram with
      | error => exact h
      | ok datagram => cases he
    | _ => exact h
  | sendPong | reply =>
    cases e with
    | transport result =>
      cases result with
      | error => trivial
      | ok => exact h
    | _ => exact h
  | sendError hello code reason =>
    cases e with
    | transport result => cases result <;> exact h
    | _ => exact h
  | readMode hello => cases e <;> exact h
  | serve hello message =>
    cases e with
    | run nowNs fresh results => exact confined_runServe h.1 h.2 s nowNs results
    | _ => exact h
  | teardown hello =>
    cases e with
    | run => trivial
    | _ => exact h
  | done result => cases e <;> trivial
  | _ => exact h.elim

theorem isUnprivileged_of_confined {phase : PeerPhase F} (h : phase.Confined) {e : PeerEvent F}
    {op : ServerOp F} (hop : phase.call? e = some op)
    : op.isUnprivileged = true := by
  cases e with
  | run nowNs fresh results =>
    cases phase with
    | serve hello message =>
      have hmessage := h.2
      simp only [call?] at hop
      cases message with
      | setMode | resetSceneToBaseline | commitSceneBaseline | commitObjectBaseline =>
        cases hmessage
      | videoSignal signal =>
        simp only [serveCall?] at hop
        split at hop <;> cases hop <;> rfl
      | createVideoOffer | drainSignals => cases hop; rfl
      | _ => cases hop
    | teardown hello => cases hop; rfl
    | select | sendPong | readMode | reply | sendError | done => cases hop
    | _ => exact h.elim
  | _ => cases phase <;> cases hop

end PeerPhase

namespace Connection

theorem sameStage_react {c : Connection F} (h : c.peer.phase.Confined) (e : PeerEvent F)
    : c.server.runtime.SameStage (c.react e).server.runtime := by
  change c.server.runtime.SameStage (c.peer.phase.step c.server e).2.runtime
  rw [PeerPhase.step_server]
  cases hop : c.peer.phase.call? e with
  | none => exact .refl _
  | some op =>
    exact c.server.sameStage_step (PeerPhase.isUnprivileged_of_confined h hop)

theorem sameStage_run {c : Connection F} {hello : ClientHello}
    (hphase : c.peer.phase = .select hello) (hroles : .operator ∉ hello.roles)
    {events : List (PeerEvent F)} (hevents : ∀ e ∈ events, PeerPhase.isMotion e = false)
    : c.server.runtime.SameStage (Run.run react c events).server.runtime := by
  have hinvariant : (Run.run react c events).peer.phase.Confined
      ∧ c.server.runtime.SameStage (Run.run react c events).server.runtime := by
    apply Run.run_invariant (C := fun _ e => PeerPhase.isMotion e = false)
      (P := fun c' : Connection F =>
        c'.peer.phase.Confined ∧ c.server.runtime.SameStage c'.server.runtime)
    . intro c' e hc' he
      exact ⟨PeerPhase.confined_step hc'.1 he c'.server, hc'.2.trans (sameStage_react hc'.1 e)⟩
    . rw [hphase]
      exact ⟨hroles, .refl _⟩
    . exact Run.allSteps_of_forall react hevents
  exact hinvariant.2

/--
A panel that asks for a mode and a reset, and is gone when the second refusal is sent.
-/
def panelSteers : List (PeerEvent Floats.rational) :=
  [.received (.ok (.setMode .recording)), .transport (.ok ()),
    .received (.ok (.resetSceneToBaseline none)), .transport (.error "reset"), .turn 9 0]

def panelOnStage : Connection Floats.rational :=
  let stage := Run.run ServerState.step (.new .default)
    [.loadScene (RuntimeCore.switchScene _),
      .createMapping (RuntimeCore.switchRequest 7 "left") 1 100, .setMode .live 2]
  Run.run react (new stage) (PeerEvent.panelGreets 7 "panel" ++ PeerEvent.panelRegisters 60)

theorem sameStage_run_panelOnStage
    : panelOnStage.server.runtime.SameStage
        (Run.run react panelOnStage panelSteers).server.runtime := by
  have hphase : panelOnStage.peer.phase = .select (ServerState.panelHello 7 "panel") := rfl
  exact sameStage_run hphase (by decide) (by decide)

end Connection

end MotionStage
