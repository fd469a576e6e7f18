import MotionStage.Server.Teardown

/-!
This module contains the connections that are not admitted: what a handler whose `register` call
never succeeds changes for the devices that are.
-/

namespace MotionStage

variable {F : Floats}

/--
Disconnecting a device changes neither the connected devices nor a disconnect time exactly if the
device is not connected and its active mappings carry that time already.
-/
theorem RuntimeCore.registerDeviceDisconnected_unnoticed (s : RuntimeCore F) (deviceId : Uuid)
    (nowNs : Nat)
    : ((s.registerDeviceDisconnected deviceId nowNs).connectedDevices = s.connectedDevices
        ∧ ∀ id, ((s.registerDeviceDisconnected deviceId nowNs).mappings.get? id).map
              Mapping.disconnectedAtNs
            =
          (s.mappings.get? id).map Mapping.disconnectedAtNs)
        ↔
      (deviceId ∉ s.connectedDevices
        ∧ ∀ m ∈ s.mappings.values, m.sourceDevice = deviceId → m.state = .active →
          m.disconnectedAtNs = some nowNs) := by
  refine and_congr ?_ ?_
  . exact Finset.erase_eq_self
  . constructor
    . intro h m hm hsource hactive
      obtain ⟨id, hid⟩ := MappingTable.mem_values.mp hm
      have hm' := h id
      simp only [registerDeviceDisconnected, MappingTable.get?_mapValues, hid] at hm'
      simpa [Mapping.disconnect, hsource, hactive, eq_comm] using hm'
    . intro h id
      rw [(s.mappings_registerDeviceDisconnected_iff deviceId nowNs).mpr h]

namespace ServerState

/--
What a connection that is not admitted may not touch: the records of the active sessions, the
connected devices, and the times at which the devices of the mappings were disconnected.
-/
structure Unchanged (s s' : ServerState F) : Prop where
  sessions : ∀ k session, s.sessions.get? k = some session → session.state = .active →
    s'.sessions.get? k = some session
  connected : s'.runtime.connectedDevices = s.runtime.connectedDevices
  disconnected : ∀ id, (s'.runtime.mappings.get? id).map Mapping.disconnectedAtNs
    =
    (s.runtime.mappings.get? id).map Mapping.disconnectedAtNs

theorem Unchanged.refl (s : ServerState F) : Unchanged s s :=
  ⟨fun _ _ h _ => h, rfl, fun _ => rfl⟩

structure SameBut (deviceId : Uuid) (s s' : ServerState F) : Prop where
  sessions : ∀ k, k ≠ deviceId → s'.sessions.get? k = s.sessions.get? k
  runtime : s'.runtime = s.runtime

theorem SameBut.call {deviceId : Uuid} {s s' : ServerState F} (h : SameBut deviceId s s')
    (op : ServerOp F) (hop : op.sessionOf? = some deviceId) (hruntime : s'.runtimeOps op = [])
    : SameBut deviceId s (s'.step op) := by
  constructor
  . intro k hk
    rw [get?_step_of_ne, h.sessions k hk]
    rw [hop]
    exact fun heq => hk (Option.some.inj heq).symm
  . rw [(s'.step_frame op).2.1, hruntime]
    exact h.runtime

theorem Unchanged.of_sameBut {deviceId : Uuid} {s s' : ServerState F}
    (h : SameBut deviceId s s') (hinactive : s.stateOf? deviceId ≠ some .active)
    : Unchanged s s' := by
  constructor
  . intro k session hsession hactive
    rw [h.sessions k, hsession]
    rintro rfl
    simp [stateOf?, hsession, hactive] at hinactive
  . rw [h.runtime]
  . intro id
    rw [h.runtime]

/--
The calls that harm nobody: `discovered` for a device that has no active session, and
`close_session` for a device that is not connected and whose active mappings carry the time of that
very call already.
-/
def HarmlessCall (self : ServerState F) : ServerOp F → Prop
  | .discovered deviceId _ => self.stateOf? deviceId ≠ some .active
  | .closeSession deviceId nowNs =>
    deviceId ∉ self.runtime.connectedDevices
      ∧ ∀ m ∈ self.runtime.mappings.values, m.sourceDevice = deviceId → m.state = .active →
        m.disconnectedAtNs = some nowNs
  | _ => True

instance (self : ServerState F) : DecidablePred self.HarmlessCall
  | .discovered _ _ => inferInstanceAs (Decidable (_ ≠ _))
  | .closeSession _ _ => inferInstanceAs (Decidable (_ ∧ _))
  | .transportConnected _ | .helloExchanged _ | .authenticate _ | .register _ _ _
  | .sceneSynced _ | .activate _ | .loadScene _ | .setActiveScene _ | .setMode _ _
  | .resetSceneToBaseline _ | .commitSceneBaseline _ | .commitObjectBaseline _ _
  | .createMapping _ _ _ | .updateMapping _ _ _ | .removeMapping _ _ | .setMappingLock _ _ _
  | .ingestMotionSamples _ _ _ | .ingestMotionDatagram _ | .startRecording _ _ _
  | .stopRecording _ _ | .setMasterVideoDescriptor _ | .createVideoOffer _ _
  | .handleVideoSignal _ _ _ | .pushSignalingMessage _ | .drainSignalingMessages _
  | .schedulerTick _ | .setRunning _ => inferInstanceAs (Decidable True)

theorem stateOf?_step_ne_active {s : ServerState F} {op : ServerOp F} {k : Uuid}
    (h : s.stateOf? k ≠ some .active) (hop : op ≠ .activate k)
    : (s.step op).stateOf? k ≠ some .active := by
  unfold stateOf? at *
  rw [get?_step]
  split
  . next hcall =>
    rcases ServerOp.session_cases hcall.1 with ⟨deviceName, rfl⟩ | ⟨next, hnext, hafter⟩
    . simp [ServerOp.sessionAfter, SessionInfo.fresh]
    . rw [hafter]
      cases hsession : s.sessions.get? k with
      | none => simp
      | some session =>
        rw [hsession] at h
        simp only [Option.map_some, SessionInfo.advance_state, SessionInfo.write_state] at h ⊢
        split
        . cases op with
          | activate => cases hcall.1; exact absurd rfl hop
          | _ => cases hnext <;> decide
        . exact h
  . exact h

end ServerState

namespace Peer

theorem pastRegister_or_accepted {p : Peer F} (h : p.phase.pastRegister = false)
    (s : ServerState F) (e : PeerEvent F)
    : (p.step s e).1.phase.pastRegister = false ∨ (p.step s e).1.accepted.isSome = true := by
  cases hbefore : p.phase.beforeDiscovered with
  | true => exact .inl (PeerPhase.pastRegister_step_of_before hbefore s e)
  | false =>
    rcases PeerPhase.done_or_session hbefore with ⟨result, hdone⟩ | ⟨hello, state, hhello, hstate⟩
    . left
      simp only [step, hdone]
      cases e <;> rfl
    . rcases e.run_or_waits with ⟨nowNs, fresh, results, rfl⟩ | hwait
      . obtain ⟨phase, sent, joined, accepted⟩ := p
        cases phase with
        | transportConnect => exact .inl (PeerPhase.pastRegister_proceed rfl)
        | exchangeHello => exact .inl (PeerPhase.pastRegister_proceed rfl)
        | authenticate => exact .inl (PeerPhase.pastRegister_proceed rfl)
        | recvRegister => exact .inl rfl
        | register hello' req =>
          simp only [step, PeerPhase.step, PeerPhase.runCall]
          split
          . exact .inr rfl
          . exact .inl rfl
          . exact .inl rfl
        | sendRejected => exact .inl rfl
        | refuse => exact .inl rfl
        | _ => first | (cases h; done) | cases hstate
      . left
        rcases PeerPhase.step_stays (s := s) hhello hstate hwait with
          ⟨-, -, hstate'⟩ | ⟨-, result, hdone⟩
        . rw [← h]
          simp only [PeerPhase.pastRegister, step, hstate', hstate]
        . simp only [step, hdone]
          rfl

theorem accepted_step {p : Peer F} (h : p.accepted.isSome = true) (s : ServerState F)
    (e : PeerEvent F)
    : (p.step s e).1.accepted.isSome = true := by
  simp only [step, acceptedAt]
  split
  . rfl
  . exact h

end Peer

namespace Connection

def Harmless (c : Connection F) (e : PeerEvent F) : Prop :=
  ∀ op ∈ c.peer.phase.call? e, c.server.HarmlessCall op

instance (c : Connection F) (e : PeerEvent F) : Decidable (c.Harmless e) :=
  inferInstanceAs (Decidable (∀ op ∈ _, _))

theorem harmless_iff {c : Connection F} {e : PeerEvent F} (op : ServerOp F)
    (h : c.peer.phase.call? e = some op)
    : c.Harmless e ↔ c.server.HarmlessCall op := by
  simp [Harmless, h]

theorem harmless_of_call?_eq_none {c : Connection F} {e : PeerEvent F}
    (h : c.peer.phase.call? e = none)
    : c.Harmless e := by
  simp [Harmless, h]

/--
How far a handler that has harmed nobody has come, seen from the server state it started in.
-/
inductive Unadmitted (s : ServerState F) : Connection F → Prop where
  | before (c) (hphase : c.peer.phase.beforeDiscovered = true) (hserver : c.server = s)
    : Unadmitted s c
  | during (c hello state) (hhello : c.peer.phase.hello? = some hello)
    (hstate : c.peer.phase.sessionState? = some state) (hpast : c.peer.phase.pastRegister = false)
    (hinactive : s.stateOf? hello.deviceId ≠ some .active)
    (hsame : s.SameBut hello.deviceId c.server)
    : Unadmitted s c
  | admitted (c) (haccepted : c.peer.accepted.isSome = true) : Unadmitted s c
  | returned (c result) (hphase : c.peer.phase = .done result) (h : s.Unchanged c.server)
    : Unadmitted s c

/--
A handler that has taken an active session away or has disconnected a device.
-/
inductive Harmful (s : ServerState F) : Connection F → Prop where
  | reset (c deviceId) (hbefore : c.peer.phase.beforeDiscovered = false)
    (hpast : c.peer.phase.pastRegister = false) (hactive : s.stateOf? deviceId = some .active)
    (hinactive : c.server.stateOf? deviceId ≠ some .active)
    : Harmful s c
  | admitted (c) (haccepted : c.peer.accepted.isSome = true) : Harmful s c
  | returned (c result) (hphase : c.peer.phase = .done result) (h : ¬ s.Unchanged c.server)
    : Harmful s c

theorem harmful_step {s : ServerState F} {c : Connection F} (h : Harmful s c) (e : PeerEvent F)
    : Harmful s (c.react e) := by
  cases h with
  | admitted haccepted => exact .admitted _ (Peer.accepted_step haccepted c.server e)
  | returned result hphase h =>
    have hstep : c.peer.phase.step c.server e = (.done result, c.server) := by
      rw [hphase]
      cases e <;> rfl
    refine .returned _ result ?_ ?_
    . simp [react, step, Peer.step, hstep]
    . simpa [react, step, Peer.step, hstep] using h
  | reset deviceId hbefore hpast hactive hinactive =>
    rcases Peer.pastRegister_or_accepted hpast c.server e with hpast' | haccepted
    . refine .reset _ deviceId (PeerPhase.beforeDiscovered_step hbefore c.server e) hpast' hactive ?_
      simp only [react, step, Peer.step, PeerPhase.step_server]
      cases hcall : c.peer.phase.call? e with
      | none => exact hinactive
      | some op =>
        refine ServerState.stateOf?_step_ne_active hinactive ?_
        rintro rfl
        simp [PeerPhase.pastRegister_of_activate hcall] at hpast
    . exact .admitted _ haccepted

theorem unadmitted_discover (s : ServerState F) (hello : ClientHello) (nowNs : Nat) (fresh : Uuid)
    (results : WebRtcResults) (sent : List ControlMessage) (joined : Option Uuid)
    (accepted : Option RegisterAccepted)
    : let c : Connection F := ⟨⟨.discover hello, sent, joined, accepted⟩, s⟩
      (c.Harmless (.run nowNs fresh results) ∧ Unadmitted s (c.react (.run nowNs fresh results)))
        ∨
      (¬ c.Harmless (.run nowNs fresh results)
        ∧ Harmful s (c.react (.run nowNs fresh results))) := by
  intro c
  have hserver : (c.react (.run nowNs fresh results)).server
      = (s.discovered hello.deviceId hello.deviceName).2 := PeerPhase.proceed_server _ _
  have hphase : (c.react (.run nowNs fresh results)).peer.phase
      = (PeerPhase.proceed (s.discovered hello.deviceId hello.deviceName)
          fun _ => .transportConnect hello).1 := rfl
  have hharmless : c.Harmless (.run nowNs fresh results) ↔ s.stateOf? hello.deviceId ≠ some .active :=
    harmless_iff (.discovered hello.deviceId hello.deviceName) rfl
  rw [hharmless]
  rcases s.discovered_spec hello.deviceId hello.deviceName with ⟨hpasses, e, h⟩ | ⟨-, h⟩
  . rw [h] at hserver hphase
    refine .inl ⟨?_, .returned _ _ hphase (hserver ▸ .refl s)⟩
    -- the server is full, so the device has no session at all
    intro hactive
    simp only [ServerState.passes, Bool.or_eq_false_iff, IndexMap.contains,
      Option.isSome_eq_false_iff, Option.isNone_iff_eq_none] at hpasses
    simp [ServerState.stateOf?, hpasses.1] at hactive
  . rw [h] at hserver hphase
    by_cases hactive : s.stateOf? hello.deviceId = some .active
    . refine .inr ⟨not_not.mpr hactive, ?_⟩
      refine .reset _ hello.deviceId ?_ ?_ hactive ?_
      . rw [hphase]; rfl
      . rw [hphase]; rfl
      . simp [hserver, ServerState.stateOf?, SessionInfo.fresh]
    . refine .inl ⟨hactive, .during _ hello .discovered ?_ ?_ ?_ hactive ?_⟩
      . rw [hphase]; rfl
      . rw [hphase]; rfl
      . rw [hphase]; rfl
      . rw [hserver]
        exact ⟨fun k hk => IndexMap.get?_insert_of_ne _ _ hk, rfl⟩

theorem unadmitted_step_before {s : ServerState F} {c : Connection F}
    (hphase : c.peer.phase.beforeDiscovered = true) (hserver : c.server = s) (e : PeerEvent F)
    : (c.Harmless e ∧ Unadmitted s (c.react e)) ∨ (¬ c.Harmless e ∧ Harmful s (c.react e)) := by
  obtain ⟨⟨phase, sent, joined, accepted⟩, server⟩ := c
  subst hserver
  cases phase with
  | openControl =>
    refine .inl ⟨harmless_of_call?_eq_none rfl, ?_⟩
    cases e with
    | transport result =>
      cases result with
      | ok => exact .before _ rfl rfl
      | error => exact .returned _ _ rfl (.refl server)
    | _ => exact .before _ rfl rfl
  | readServerHello =>
    refine .inl ⟨harmless_of_call?_eq_none rfl, ?_⟩
    cases e <;> exact .before _ rfl rfl
  | sendServerHello hello =>
    refine .inl ⟨harmless_of_call?_eq_none rfl, ?_⟩
    cases e with
    | transport result =>
      cases result with
      | ok => exact .before _ rfl rfl
      | error => exact .returned _ _ rfl (.refl server)
    | _ => exact .before _ rfl rfl
  | recvClientHello =>
    refine .inl ⟨harmless_of_call?_eq_none rfl, ?_⟩
    cases e with
    | received message =>
      cases message with
      | error => exact .returned _ _ rfl (.refl server)
      | ok message =>
        cases message with
        | clientHello => exact .before _ rfl rfl
        | _ => exact .returned _ _ rfl (.refl server)
    | _ => exact .before _ rfl rfl
  | discover hello =>
    cases e with
    | run nowNs fresh results => exact unadmitted_discover server hello nowNs fresh results sent joined accepted
    | _ => exact .inl ⟨harmless_of_call?_eq_none rfl, .before _ rfl rfl⟩
  | _ => cases hphase

theorem unadmitted_proceed {s : ServerState F} {c c' : Connection F} {hello : ClientHello}
    {state : SessionState} {r : Except ServerError Unit × ServerState F} {next : PeerPhase F}
    (op : ServerOp F) (hinactive : s.stateOf? hello.deviceId ≠ some .active)
    (hsame : s.SameBut hello.deviceId c.server) (hop : op.sessionOf? = some hello.deviceId)
    (hruntime : c.server.runtimeOps op = []) (hserver : c'.server = c.server.step op)
    (hphase : c'.peer.phase = (PeerPhase.proceed r fun _ => next).1)
    (hhello : next.hello? = some hello) (hstate : next.sessionState? = some state)
    (hpast : next.pastRegister = false)
    : Unadmitted s c' := by
  have hsame' : s.SameBut hello.deviceId c'.server := hserver ▸ hsame.call op hop hruntime
  rcases PeerPhase.proceed_cases r fun _ => next with ⟨result, hdone⟩ | ⟨-, hnext⟩
  . exact .returned _ result (hphase.trans hdone) (.of_sameBut hsame' hinactive)
  . rw [hnext] at hphase
    refine .during _ hello state ?_ ?_ ?_ hinactive hsame'
    . rw [hphase, hhello]
    . rw [hphase, hstate]
    . rw [hphase, hpast]

theorem unchanged_closeSession_iff {s s' : ServerState F} {deviceId : Uuid}
    (hinactive : s.stateOf? deviceId ≠ some .active) (hsame : s.SameBut deviceId s') (nowNs : Nat)
    : s.Unchanged (s'.step (.closeSession deviceId nowNs))
        ↔
      s'.HarmlessCall (.closeSession deviceId nowNs) := by
  simp only [ServerState.HarmlessCall]
  have hruntime : (s'.step (.closeSession deviceId nowNs)).runtime
      = s'.runtime.registerDeviceDisconnected deviceId nowNs :=
    (s'.step_frame _).2.1
  rw [← s'.runtime.registerDeviceDisconnected_unnoticed deviceId nowNs, ← hruntime, hsame.runtime]
  constructor
  . exact fun h => ⟨h.connected, h.disconnected⟩
  . rintro ⟨hconnected, hdisconnected⟩
    refine ⟨?_, hconnected, hdisconnected⟩
    intro k session hsession hactive
    have hk : k ≠ deviceId := by
      rintro rfl
      simp [ServerState.stateOf?, hsession, hactive] at hinactive
    rw [ServerState.get?_step_of_ne, hsame.sessions k hk, hsession]
    exact fun h => hk (Option.some.inj h).symm

theorem unadmitted_step_during {s : ServerState F} {c : Connection F} {hello : ClientHello}
    {state : SessionState} (hhello : c.peer.phase.hello? = some hello)
    (hstate : c.peer.phase.sessionState? = some state) (hpast : c.peer.phase.pastRegister = false)
    (hinactive : s.stateOf? hello.deviceId ≠ some .active)
    (hsame : s.SameBut hello.deviceId c.server) (e : PeerEvent F)
    : (c.Harmless e ∧ Unadmitted s (c.react e)) ∨ (¬ c.Harmless e ∧ Harmful s (c.react e)) := by
  obtain ⟨⟨phase, sent, joined, accepted⟩, server⟩ := c
  rcases e.run_or_waits with ⟨nowNs, fresh, results, rfl⟩ | hwait
  . cases phase with
    | transportConnect =>
      cases hhello
      refine .inl ⟨(harmless_iff (.transportConnected hello.deviceId) rfl).mpr trivial, ?_⟩
      exact unadmitted_proceed (.transportConnected hello.deviceId) hinactive hsame rfl rfl (PeerPhase.proceed_server _ _) rfl rfl
        rfl rfl
    | exchangeHello =>
      cases hhello
      refine .inl ⟨(harmless_iff (.helloExchanged hello) rfl).mpr trivial, ?_⟩
      exact unadmitted_proceed (.helloExchanged hello) hinactive hsame rfl rfl (PeerPhase.proceed_server _ _) rfl rfl
        rfl rfl
    | authenticate =>
      cases hhello
      refine .inl ⟨(harmless_iff (.authenticate hello.deviceId) rfl).mpr trivial, ?_⟩
      exact unadmitted_proceed (.authenticate hello.deviceId) hinactive hsame rfl rfl (PeerPhase.proceed_server _ _) rfl rfl
        rfl rfl
    | recvRegister =>
      cases hhello
      exact .inl ⟨harmless_of_call?_eq_none rfl, .during _ hello _ rfl rfl rfl hinactive hsame⟩
    | sendRejected =>
      cases hhello
      exact .inl ⟨harmless_of_call?_eq_none rfl, .during _ hello _ rfl rfl rfl hinactive hsame⟩
    | register hello' req =>
      cases hhello
      refine .inl ⟨(harmless_iff (.register hello.deviceId req fresh) rfl).mpr trivial, ?_⟩
      have hsame' : s.SameBut hello.deviceId (server.register hello.deviceId req fresh).2 :=
        hsame.call (.register hello.deviceId req fresh) rfl rfl
      simp only [react, step, Peer.step, PeerPhase.step, PeerPhase.runCall]
      split
      . exact .admitted _ rfl
      . next h =>
        rw [h] at hsame'
        exact .during _ hello _ rfl rfl rfl hinactive hsame'
      . next h =>
        rw [h] at hsame'
        exact .during _ hello _ rfl rfl rfl hinactive hsame'
    | refuse hello' result =>
      cases hhello
      have hiff := unchanged_closeSession_iff hinactive hsame nowNs
      rw [harmless_iff (.closeSession hello.deviceId nowNs) rfl]
      by_cases hharmless : server.HarmlessCall (.closeSession hello.deviceId nowNs)
      . exact .inl ⟨hharmless, .returned _ result rfl (hiff.mpr hharmless)⟩
      . exact .inr ⟨hharmless, .returned _ result rfl fun h => hharmless (hiff.mp h)⟩
    | _ => first | (cases hpast; done) | cases hstate
  . left
    have hsame' : s.SameBut hello.deviceId (phase.step server e).2 :=
      (PeerPhase.step_server_of_waits phase server hwait).symm ▸ hsame
    constructor
    . apply harmless_of_call?_eq_none
      cases e with
      | run nowNs fresh results => exact absurd rfl (hwait nowNs fresh results)
      | _ => cases phase <;> rfl
    . rcases PeerPhase.step_stays (s := server) hhello hstate hwait with
        ⟨-, hhello', hstate'⟩ | ⟨-, result, hdone⟩
      . refine .during _ hello state hhello' hstate' ?_ hinactive hsame'
        rw [← hpast]
        simp only [PeerPhase.pastRegister, react, step, Peer.step, hstate', hstate]
      . exact .returned _ result hdone (.of_sameBut hsame' hinactive)

theorem unadmitted_step {s : ServerState F} {c : Connection F} (h : Unadmitted s c)
    (e : PeerEvent F)
    : (c.Harmless e ∧ Unadmitted s (c.react e)) ∨ (¬ c.Harmless e ∧ Harmful s (c.react e)) := by
  cases h with
  | before hphase hserver => exact unadmitted_step_before hphase hserver e
  | during hello state hhello hstate hpast hinactive hsame =>
    exact unadmitted_step_during hhello hstate hpast hinactive hsame e
  | admitted haccepted =>
    have haccepted' := Peer.accepted_step haccepted c.server e
    by_cases hharmless : c.Harmless e
    . exact .inl ⟨hharmless, .admitted _ haccepted'⟩
    . exact .inr ⟨hharmless, .admitted _ haccepted'⟩
  | returned result hphase h =>
    obtain ⟨⟨phase, sent, joined, accepted⟩, server⟩ := c
    cases hphase
    cases e <;> exact .inl ⟨harmless_of_call?_eq_none rfl, .returned _ result rfl h⟩

theorem unchanged_iff_harmless (s : ServerState F) (events : List (PeerEvent F))
    {result : Except ServerError Unit}
    (hdone : (Run.run react (new s) events).peer.phase = .done result)
    (hrefused : (Run.run react (new s) events).peer.accepted = none)
    : s.Unchanged (Run.run react (new s) events).server
        ↔
      Run.AllSteps react Harmless (new s) events := by
  have hinit : Unadmitted s (new s) := .before _ rfl rfl
  have hstep (c : Connection F) (e : PeerEvent F) (h : Unadmitted s c) (_ : True)
      : (c.Harmless e ∧ Unadmitted s (c.react e)) ∨ (¬ c.Harmless e ∧ Harmful s (c.react e)) :=
    unadmitted_step h e
  rcases Run.invariant_or_trapped hstep (fun c e h _ => harmful_step h e) hinit
      (Run.allSteps_true react events) with ⟨hharmless, h⟩ | ⟨hnot, h⟩
  . simp only [hharmless, iff_true]
    cases h with
    | before hphase => simp [hdone, PeerPhase.beforeDiscovered] at hphase
    | during hello state hhello => simp [hdone, PeerPhase.hello?] at hhello
    | admitted haccepted => simp [hrefused] at haccepted
    | returned _ _ h => exact h
  . simp only [hnot, iff_false]
    cases h with
    -- the record of the session that was taken away is not the one it was
    | reset deviceId _ _ hactive hinactive =>
      intro hunchanged
      obtain ⟨session, hsession, hstate⟩ := Option.map_eq_some_iff.mp hactive
      refine hinactive ?_
      rw [ServerState.stateOf?, hunchanged.sessions deviceId session hsession hstate,
        Option.map_some, hstate]
    | admitted haccepted => simp [hrefused] at haccepted
    | returned _ _ h => exact h

/--
A server that asks for a pairing token, with the panel 7 active on it.
-/
def pairedServer : ServerState Floats.rational :=
  (Run.run react
    (new (.new { ServerConfig.default with
      securityMode := .pairingRequired, pairingToken := some "1234" }))
    (PeerEvent.panelGreets 7 "panel"
      ++ [.received (.ok (.registerRequest ⟨some "1234", none⟩)), .turn 0 60, .transport (.ok ()),
        .turn 0 0, .turn 0 0])).server

def refusedVisit (deviceId : Uuid) : List (PeerEvent Floats.rational) :=
  PeerEvent.panelGreets deviceId "visitor"
    ++ [.received (.ok (.registerRequest ⟨none, none⟩)), .turn 0 61, .transport (.ok ()), .turn 5 0]

theorem unchanged_iff_harmless_refusedVisit
    : Run.AllSteps react Harmless (new pairedServer) (refusedVisit 8)
        ∧
      (pairedServer.Unchanged (Run.run react (new pairedServer) (refusedVisit 8)).server
          ↔
        Run.AllSteps react Harmless (new pairedServer) (refusedVisit 8)) :=
  ⟨by decide, unchanged_iff_harmless pairedServer (refusedVisit 8) rfl rfl⟩

/--
A visitor that claims to be the panel has no token, and yet it ends the session of the panel.
-/
theorem unchanged_fails
    : let last := Run.run react (new pairedServer) (refusedVisit 7)
      last.peer.phase = .done (.ok ())
        ∧ last.peer.accepted = none
        ∧ pairedServer.stateOf? 7 = some .active
        ∧ ¬ pairedServer.Unchanged last.server := by
  refine ⟨rfl, rfl, rfl, ?_⟩
  intro h
  exact absurd h.connected (by decide)

end Connection

end MotionStage
