import MotionStage.Server.Teardown

/-!
This module contains a device that reconnects while its older connection still exists: two handlers
for one device interleave with each other and with everything else that calls the server.
-/

namespace MotionStage

variable {F : Floats}

structure Reconnect (F : Floats) where
  older : Peer F
  newer : Peer F
  server : ServerState F

inductive ReconnectInput (F : Floats) where
  | older (e : PeerEvent F)
  | newer (e : PeerEvent F)
  | server (op : ServerOp F)

namespace Reconnect

def step (r : Reconnect F) : ReconnectInput F → Reconnect F
  | .older e =>
    { r with older := (r.older.step r.server e).1, server := (r.older.step r.server e).2 }
  | .newer e =>
    { r with newer := (r.newer.step r.server e).1, server := (r.newer.step r.server e).2 }
  | .server op => { r with server := r.server.step op }

def NewerActive (deviceId : Uuid) (r : Reconnect F) : Prop :=
  r.newer.phase.deviceId? = some deviceId ∧ r.newer.phase.sessionState? = some .active

def NewerRegistered (deviceId : Uuid) (r : Reconnect F) : Prop :=
  r.newer.phase.deviceId? = some deviceId ∧ r.newer.phase.pastRegister = true

instance (deviceId : Uuid) (r : Reconnect F) : Decidable (r.NewerActive deviceId) :=
  inferInstanceAs (Decidable (_ ∧ _))

instance (deviceId : Uuid) (r : Reconnect F) : Decidable (r.NewerRegistered deviceId) :=
  inferInstanceAs (Decidable (_ ∧ _))

/--
The calls with which the older connection takes the session away from the newer one: it closes the
session of the active device, or it overwrites the identifier of the registered session.
-/
def TakesAway (deviceId : Uuid) (r : Reconnect F) : ServerOp F → Prop
  | .closeSession k _ => k = deviceId ∧ r.NewerActive deviceId
  | .register k req _ =>
    k = deviceId ∧ r.NewerRegistered deviceId ∧ r.server.acceptsRegister deviceId req = true
  | _ => False

/--
The older connection takes nothing away, and nothing but the two connections acts on the session.
-/
def Undisturbed (deviceId : Uuid) (r : Reconnect F) : ReconnectInput F → Prop
  | .older e => ∀ op ∈ r.older.phase.call? e, ¬ r.TakesAway deviceId op
  | .newer _ => True
  | .server op => op.sessionOf? ≠ some deviceId

instance (deviceId : Uuid) (r : Reconnect F) : DecidablePred (r.TakesAway deviceId)
  | .closeSession _ _ | .register _ _ _ => inferInstanceAs (Decidable (_ ∧ _))
  | .discovered _ _ | .transportConnected _ | .helloExchanged _ | .authenticate _
  | .sceneSynced _ | .activate _ | .loadScene _ | .setActiveScene _ | .setMode _ _
  | .resetSceneToBaseline _ | .commitSceneBaseline _ | .commitObjectBaseline _ _
  | .createMapping _ _ _ | .updateMapping _ _ _ | .removeMapping _ _ | .setMappingLock _ _ _
  | .ingestMotionSamples _ _ _ | .ingestMotionDatagram _ | .startRecording _ _ _
  | .stopRecording _ _ | .setMasterVideoDescriptor _ | .createVideoOffer _ _
  | .handleVideoSignal _ _ _ | .pushSignalingMessage _ | .drainSignalingMessages _
  | .schedulerTick _ | .setRunning _ => inferInstanceAs (Decidable False)

instance (deviceId : Uuid) (r : Reconnect F) : DecidablePred (r.Undisturbed deviceId)
  | .older _ => inferInstanceAs (Decidable (∀ op ∈ _, _))
  | .newer _ => inferInstanceAs (Decidable True)
  | .server _ => inferInstanceAs (Decidable (_ ≠ _))

/--
While the newer connection is active, the session is active under the identifier issued to it and
the device is connected.
-/
def Serves (deviceId : Uuid) (r : Reconnect F) : Prop :=
  r.NewerActive deviceId →
    ∃ accepted, r.newer.accepted = some accepted
      ∧ r.server.stateOf? deviceId = some .active
      ∧ r.server.sessionIdOf? deviceId = some accepted.sessionId
      ∧ deviceId ∈ r.server.runtime.connectedDevices

/--
What the newer connection has reached for the device and no undisturbed step takes away.
-/
structure Holds (deviceId : Uuid) (p : Peer F) (s : ServerState F) : Prop where
  issued : p.phase.pastRegister = true →
    ∃ accepted, p.accepted = some accepted ∧ s.sessionIdOf? deviceId = some accepted.sessionId
  active : p.phase.sessionState? = some .active →
    s.stateOf? deviceId = some .active ∧ deviceId ∈ s.runtime.connectedDevices

open PeerPhase

section Holds

variable {deviceId : Uuid} {p : Peer F} {s : ServerState F}

theorem Holds.of_not_pastRegister (h : p.phase.pastRegister = false) : Holds deviceId p s := by
  constructor
  . intro hpast
    rw [h] at hpast
    cases hpast
  . intro hactive
    simp [PeerPhase.pastRegister, hactive] at h

theorem Holds.call {op : ServerOp F} (h : Holds deviceId p s)
    (hdiscovered : ∀ deviceName, op ≠ .discovered deviceId deviceName)
    (hregister : p.phase.pastRegister = true → ∀ req sessionId,
      op = .register deviceId req sessionId → s.acceptsRegister deviceId req = false)
    (hclose : p.phase.sessionState? = some .active → ∀ nowNs, op ≠ .closeSession deviceId nowNs)
    : Holds deviceId p (s.step op) := by
  constructor
  . intro hpast
    rw [ServerState.sessionIdOf?_step hdiscovered (hregister hpast)]
    exact h.issued hpast
  . intro hactive
    obtain ⟨hstate, hconnected⟩ := h.active hactive
    constructor
    . exact ServerState.stateOf?_step_of_active hstate hdiscovered (hclose hactive)
    . exact ServerState.mem_connectedDevices_step hconnected (hclose hactive)

theorem Holds.call_of_ne {op : ServerOp F} (h : Holds deviceId p s)
    (hop : op.sessionOf? ≠ some deviceId)
    : Holds deviceId p (s.step op) := by
  apply h.call
  . rintro deviceName rfl
    exact hop rfl
  . rintro - req sessionId rfl
    exact absurd rfl hop
  . rintro - nowNs rfl
    exact hop rfl

theorem Holds.move {p' : Peer F} (h : Holds deviceId p s) (haccepted : p'.accepted = p.accepted)
    (hstate : p'.phase.sessionState? = p.phase.sessionState?)
    : Holds deviceId p' s := by
  constructor
  . intro hpast
    rw [haccepted]
    apply h.issued
    simpa [PeerPhase.pastRegister, hstate] using hpast
  . intro hactive
    exact h.active (hstate ▸ hactive)

theorem holds_register {hello : ClientHello} {req : RegisterRequest}
    (hphase : p.phase = .register hello req) (nowNs : Nat) (fresh : Uuid) (results : WebRtcResults)
    : Holds hello.deviceId (p.step s (.run nowNs fresh results)).1
        (p.step s (.run nowNs fresh results)).2 := by
  obtain ⟨phase, sent, joined, accepted⟩ := p
  subst hphase
  simp only [Peer.step, PeerPhase.step, PeerPhase.runCall]
  split
  . next accepted' s' h =>
    constructor
    . intro _
      -- the identifier in the reply is the one that `register` has written
      refine ⟨accepted', rfl, ?_⟩
      have hid := ServerState.register_ok (congrArg Prod.fst h)
      rw [h] at hid
      exact hid
    . intro hactive
      cases hactive
  . exact .of_not_pastRegister rfl
  . exact .of_not_pastRegister rfl

theorem Holds.activate {hello : ClientHello} (h : Holds hello.deviceId p s)
    (hphase : p.phase = .activate hello) (nowNs : Nat) (fresh : Uuid) (results : WebRtcResults)
    : Holds hello.deviceId (p.step s (.run nowNs fresh results)).1
        (p.step s (.run nowNs fresh results)).2 := by
  obtain ⟨phase, sent, joined, accepted⟩ := p
  subst hphase
  have hcall : Holds hello.deviceId _ (s.step (.activate hello.deviceId)) :=
    h.call (by simp) (by simp) (by simp)
  simp only [Peer.step, PeerPhase.step, PeerPhase.runCall, PeerPhase.proceed]
  split
  . next u s' hok =>
    have hs' : s.step (.activate hello.deviceId) = s' := congrArg Prod.snd hok
    have hsucceeds : s.succeeds (.activate hello.deviceId) = true := by
      simp only [ServerState.succeeds, ServerState.exec, hok]
      rfl
    rw [← hs']
    constructor
    . intro _
      exact hcall.issued rfl
    . intro _
      refine ⟨ServerState.stateOf?_step_of_succeeds rfl rfl hsucceeds, ?_⟩
      rw [ServerState.step_connectedDevices]
      exact Finset.mem_insert_self _ _
  . exact .of_not_pastRegister rfl

theorem Holds.syncScene {hello : ClientHello} (h : Holds hello.deviceId p s)
    (hphase : p.phase = .syncScene hello) (nowNs : Nat) (fresh : Uuid) (results : WebRtcResults)
    : Holds hello.deviceId (p.step s (.run nowNs fresh results)).1
        (p.step s (.run nowNs fresh results)).2 := by
  obtain ⟨phase, sent, joined, accepted⟩ := p
  subst hphase
  have hcall : Holds hello.deviceId _ (s.step (.sceneSynced hello.deviceId)) :=
    h.call (by simp) (by simp) (by simp)
  simp only [Peer.step, PeerPhase.step, PeerPhase.runCall, PeerPhase.proceed]
  split
  . next u s' hok =>
    have hs' : s.step (.sceneSynced hello.deviceId) = s' := congrArg Prod.snd hok
    rw [← hs']
    constructor
    . intro _
      exact hcall.issued rfl
    . intro hactive
      cases hactive
  . exact .of_not_pastRegister rfl

theorem Holds.run {hello : ClientHello} {state : SessionState} (h : Holds hello.deviceId p s)
    (hhello : p.phase.hello? = some hello) (hstate : p.phase.sessionState? = some state)
    (nowNs : Nat) (fresh : Uuid) (results : WebRtcResults)
    : Holds hello.deviceId (p.step s (.run nowNs fresh results)).1
        (p.step s (.run nowNs fresh results)).2 := by
  have hserver := p.phase.step_server s (.run nowNs fresh results)
  obtain ⟨phase, sent, joined, accepted⟩ := p
  cases phase with
  | register hello' req =>
    cases hhello
    exact holds_register rfl nowNs fresh results
  | syncScene hello' =>
    cases hhello
    exact h.syncScene rfl nowNs fresh results
  | activate hello' =>
    cases hhello
    exact h.activate rfl nowNs fresh results
  | serve hello' message =>
    cases hhello
    have hmove : Holds hello.deviceId
        (Peer.step ⟨.serve hello message, sent, joined, accepted⟩ s (.run nowNs fresh results)).1 s :=
      h.move rfl (runServe_stays hello s nowNs results message).2
    simp only [Peer.step] at hmove ⊢
    rw [hserver]
    cases hcall : PeerPhase.call? (.serve hello message) (.run nowNs fresh results) with
    | none => exact hmove
    | some op => exact hmove.call_of_ne (by simp [serveCall?_sessionOf? hcall])
  | ingest hello' datagram =>
    cases hhello
    have hmove : Holds hello.deviceId
        (Peer.step ⟨.ingest hello datagram, sent, joined, accepted⟩ s (.run nowNs fresh results)).1 s :=
      h.move rfl rfl
    simp only [Peer.step] at hmove ⊢
    rw [hserver]
    exact hmove.call_of_ne (by simp [ServerOp.sessionOf?])
  | transportConnect => exact .of_not_pastRegister (pastRegister_proceed rfl)
  | exchangeHello => exact .of_not_pastRegister (pastRegister_proceed rfl)
  | authenticate => exact .of_not_pastRegister (pastRegister_proceed rfl)
  | refuse => exact .of_not_pastRegister rfl
  | teardown => exact .of_not_pastRegister rfl
  | openControl => cases hhello
  | readServerHello => cases hhello
  | sendServerHello => cases hhello
  | recvClientHello => cases hhello
  | done => cases hhello
  | discover => cases hstate
  | _ => exact h.move rfl rfl

theorem Holds.step (h : p.phase.deviceId? = some deviceId → Holds deviceId p s) (e : PeerEvent F)
    (hdevice : (p.step s e).1.phase.deviceId? = some deviceId)
    : Holds deviceId (p.step s e).1 (p.step s e).2 := by
  cases hbefore : p.phase.beforeDiscovered with
  | true => exact .of_not_pastRegister (pastRegister_step_of_before hbefore s e)
  | false =>
    rcases done_or_session hbefore with ⟨result, hdone⟩ | ⟨hello, state, hhello, hstate⟩
    . have hphase : (p.step s e).1.phase = .done result := by
        simp only [Peer.step, hdone]
        cases e <;> rfl
      rw [hphase] at hdevice
      cases hdevice
    . rcases step_keeps_session hhello hstate s e with ⟨result, hdone⟩ | ⟨hhello', -⟩
      . simp only [Peer.step, hdone] at hdevice
        cases hdevice
      . have hsame : hello.deviceId = deviceId := by
          simpa [Peer.step, deviceId?, hhello'] using hdevice
        subst hsame
        have hholds := h (by simp [deviceId?, hhello])
        rcases e.run_or_waits with ⟨nowNs, fresh, results, rfl⟩ | hwait
        . exact hholds.run hhello hstate nowNs fresh results
        . rw [show (p.step s e).2 = s from step_server_of_waits p.phase s hwait]
          rcases step_stays hhello hstate hwait with
            ⟨-, -, hstate'⟩ | ⟨-, result, hdone⟩
          . have hsame : (p.step s e).1.phase.sessionState? = p.phase.sessionState? :=
              hstate'.trans hstate.symm
            exact hholds.move (Peer.acceptedAt_of_sessionState? hsame _) hsame
          . simp only [Peer.step, hdone] at hdevice
            cases hdevice

end Holds

structure Guarded (deviceId : Uuid) (r : Reconnect F) : Prop where
  older : r.older.phase.beforeDiscovered = false
  newer : r.newer.phase.deviceId? = some deviceId → Holds deviceId r.newer r.server

theorem guarded_older {deviceId : Uuid} {r : Reconnect F} (h : r.Guarded deviceId)
    {e : PeerEvent F} (hkeeps : ∀ op ∈ r.older.phase.call? e, ¬ r.TakesAway deviceId op)
    : (r.step (.older e)).Guarded deviceId := by
  refine ⟨beforeDiscovered_step h.older r.server e, fun hdevice => ?_⟩
  simp only [step, Peer.step, step_server]
  cases hcall : r.older.phase.call? e with
  | none => exact h.newer hdevice
  | some op =>
    have hkeeps : ¬ r.TakesAway deviceId op := hkeeps op hcall
    -- of the calls of the older connection only `register` and `close_session` could take something away
    apply (h.newer hdevice).call
    . exact fun deviceName => call?_ne_discovered h.older hcall deviceId deviceName
    . rintro hpast req sessionId rfl
      cases haccepts : r.server.acceptsRegister deviceId req with
      | false => rfl
      | true => exact absurd ⟨rfl, ⟨hdevice, hpast⟩, haccepts⟩ hkeeps
    . rintro hactive nowNs rfl
      exact hkeeps ⟨rfl, hdevice, hactive⟩

theorem guarded_step {deviceId : Uuid} {r : Reconnect F} {i : ReconnectInput F}
    (h : r.Guarded deviceId) (hi : r.Undisturbed deviceId i)
    : (r.step i).Guarded deviceId := by
  cases i with
  | older e => exact guarded_older h hi
  | newer e => exact ⟨h.older, Holds.step h.newer e⟩
  | server op => exact ⟨h.older, fun hdevice => (h.newer hdevice).call_of_ne hi⟩

theorem serves_of_guarded {deviceId : Uuid} {r : Reconnect F} (h : r.Guarded deviceId)
    : r.Serves deviceId := by
  rintro ⟨hdevice, hactive⟩
  have hholds := h.newer hdevice
  obtain ⟨accepted, haccepted, hissued⟩ := hholds.issued (by simp [pastRegister, hactive])
  obtain ⟨hstate, hconnected⟩ := hholds.active hactive
  exact ⟨accepted, haccepted, hstate, hissued, hconnected⟩

theorem serves_of_undisturbed (deviceId : Uuid) (r : Reconnect F)
    (inputs : List (ReconnectInput F)) (holder : r.older.phase.beforeDiscovered = false)
    (hnewer : r.newer.phase.beforeDiscovered = true)
    (hinputs : Run.AllSteps step (Undisturbed deviceId) r inputs)
    : Run.AllStates step (Serves deviceId) r inputs := by
  have hstart : r.Guarded deviceId := by
    refine ⟨holder, fun _ => .of_not_pastRegister ?_⟩
    cases hphase : r.newer.phase <;> rw [hphase] at hnewer <;> first | rfl | cases hnewer
  have hall := Run.allStates_of_allSteps (fun r i h hi => guarded_step h hi) hstart hinputs
  exact hall.imp fun r h => serves_of_guarded h

theorem not_serves_of_close {deviceId : Uuid} {r : Reconnect F} {e : PeerEvent F} {nowNs : Nat}
    (hactive : r.NewerActive deviceId)
    (hclose : r.older.phase.call? e = some (.closeSession deviceId nowNs))
    : ¬ (r.step (.older e)).Serves deviceId := by
  intro hserves
  obtain ⟨accepted, -, -, -, hconnected⟩ := hserves hactive
  simp only [step, Peer.step, step_server, hclose, Option.map_some, Option.getD_some,
    ServerState.step_connectedDevices, ServerState.devicesAfter] at hconnected
  exact absurd hconnected (Finset.notMem_erase _ _)

/--
Panel 7 is active under the session 60, and it is about to connect once more.
-/
def panelReconnects : Reconnect Floats.rational :=
  let first := Run.run Connection.step (.new (.new .default))
    ((PeerEvent.panelGreets 7 "panel" ++ PeerEvent.panelRegisters 60).map .peer)
  ⟨first.peer, .new, first.server⟩

def panelReturns : List (ReconnectInput Floats.rational) :=
  (PeerEvent.panelGreets 7 "panel" ++ PeerEvent.panelRegisters 61).map .newer

theorem serves_of_undisturbed_panelReturns
    : (Run.run step panelReconnects panelReturns).NewerActive 7
        ∧
      Run.AllStates step (Serves 7) panelReconnects panelReturns := by
  refine ⟨by decide, serves_of_undisturbed 7 panelReconnects panelReturns rfl rfl ?_⟩
  decide

/--
The first connection ends after the second one is active: the session of the panel is closed.
-/
theorem serves_fails
    : ¬ (Run.run step panelReconnects
          (panelReturns ++ [.older (.received (.error "closed")), .older (.turn 5 0)])).Serves 7 := by
  intro hserves
  obtain ⟨accepted, -, hstate, -⟩ := hserves (by decide)
  exact absurd hstate (by decide)

end Reconnect

end MotionStage
