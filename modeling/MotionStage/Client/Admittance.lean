import MotionStage.Client.Connecting

/-!
This module contains what the handshake comes to: while nobody else calls for a session, the client
is connected in the end exactly if the state that the server was in at the start admits it.
-/

namespace MotionStage

variable {F : Floats}

namespace ServerState

def admits (s : ServerState F) (hello : ClientHello) (req : RegisterRequest) : Bool :=
  (s.sessions.contains hello.deviceId || s.enforceCapacity.isOk)
    && (s.ensureAuth req).isOk
    && !(Text.trim hello.deviceName).isEmpty
    && !((s.sessions.shiftRemove hello.deviceId).values.any fun session =>
      session.deviceId ≠ hello.deviceId && session.state ≠ .closed && session.sessionId.isSome
        && session.deviceName == Text.trim hello.deviceName)
    && hello.features.any fun feature => s.config.supportedFeatures.contains feature

end ServerState

namespace ConnectingClient

def sessionAt (me : ConnectingClient) (sessionId : Option Uuid) (state : SessionState)
    : SessionInfo :=
  match state with
  | .discovered | .transportConnected =>
    { SessionInfo.fresh me.hello.deviceId me.hello.deviceName with state := state }
  | _ =>
    { deviceId := me.hello.deviceId
      deviceName := me.hello.deviceName
      sessionId := sessionId
      roles := me.hello.roles
      features := me.hello.features
      advertisedAttributes := me.hello.advertisedAttributes
      state := state }

theorem checkHello_isOk (me : ConnectingClient)
    : (ServerState.checkHello me.hello).isOk = true := by
  cases me <;> rfl

theorem sessionAt_deviceId (me : ConnectingClient) (sessionId : Option Uuid) (state : SessionState)
    : (me.sessionAt sessionId state).deviceId = me.hello.deviceId := by
  cases state <;> rfl

end ConnectingClient

namespace PeerPhase

/--
The handler turns the client away, or it has returned.
-/
def refusing : PeerPhase F → Bool
  | .sendRejected _ _ | .refuse _ _ | .done _ => true
  | _ => false

end PeerPhase

namespace Handshake

/--
The server `s` of a handler that was at its start with the server `s₀`.
-/
structure Stands (me : ConnectingClient) (s₀ s : ServerState F) (phase : PeerPhase F)
    (accepted : Option RegisterAccepted) : Prop where
  config : s.config = s₀.config
  before : phase.beforeDiscovered = true → s.sessions = s₀.sessions
  others : ∀ k, k ≠ me.hello.deviceId → s.sessions.get? k = s₀.sessions.get? k
  room : phase.beforeDiscovered = false → phase.refusing = false →
    (s₀.sessions.contains me.hello.deviceId || s₀.enforceCapacity.isOk) = true
  session : ∀ state, phase.sessionState? = some state → phase.refusing = false →
    s.sessions.get? me.hello.deviceId
      = some (me.sessionAt (accepted.map RegisterAccepted.sessionId) state)
  granted : accepted.isSome = true → s₀.admits me.hello me.request = true
    ∧ phase.refusing = false
  refused : accepted = none → phase.refusing = true → s₀.admits me.hello me.request = false
  connected : phase.sessionState? = some .active → me.hello.deviceId ∈ s.runtime.connectedDevices

section Steps

variable {me : ConnectingClient} {s₀ s : ServerState F} {phase next : PeerPhase F}
  {accepted : Option RegisterAccepted}

theorem stands_start : Stands me s₀ s₀ .openControl none where
  config := rfl
  before _ := rfl
  others _ _ := rfl
  room h := by cases h
  session state h := by cases h
  granted h := by cases h
  refused _ h := by cases h
  connected h := by cases h

theorem Stands.moveOn (h : Stands me s₀ s phase accepted)
    (hbefore : next.beforeDiscovered = phase.beforeDiscovered)
    (hrefusing : next.refusing = phase.refusing)
    (hstate : next.sessionState? = phase.sessionState?)
    : Stands me s₀ s next accepted where
  config := h.config
  before := hbefore ▸ h.before
  others := h.others
  room := hbefore ▸ hrefusing ▸ h.room
  session := hstate ▸ hrefusing ▸ h.session
  granted := hrefusing ▸ h.granted
  refused := hrefusing ▸ h.refused
  connected := hstate ▸ h.connected

theorem Stands.server (h : Stands me s₀ s phase accepted) {op : ServerOp F}
    (hop : op.sessionOf? = none)
    : Stands me s₀ (s.step op) phase accepted := by
  have heffect : ServerState.Effect s _ _ _ := ServerState.effect_step hop
  have hdevices {k : Uuid} (hk : k ∈ s.runtime.connectedDevices)
      : k ∈ (s.step op).runtime.connectedDevices :=
    (ServerState.mem_connectedDevices_step_of_ne (by rw [hop]; simp)).mpr hk
  obtain ⟨hconfig, hbefore, hothers, hroom, hsession, hgranted, hrefused, hconnected⟩ := h
  refine ⟨heffect.config.trans hconfig, ?_, ?_, hroom, ?_, hgranted, hrefused, ?_⟩
  . exact fun hphase => heffect.sessions.trans (hbefore hphase)
  . rw [heffect.sessions]
    exact hothers
  . rw [heffect.sessions]
    exact hsession
  . exact fun hphase => hdevices (hconnected hphase)

theorem Stands.call (h : Stands me s₀ s phase accepted) (op : ServerOp F) (next : PeerPhase F)
    {state nextState : SessionState} (hop : op.sessionOf? = some me.hello.deviceId)
    (hnext : op.nextState? = some nextState) (hpasses : s.passes op = true)
    (hphase : phase.sessionState? = some state) (hopen : phase.refusing = false)
    (hcan : state.canTransitionTo nextState = true)
    (hafter : ((me.sessionAt (accepted.map RegisterAccepted.sessionId) state).write op).advance
        nextState
      = me.sessionAt (accepted.map RegisterAccepted.sessionId) nextState)
    (hstate : next.sessionState? = some nextState) (hnextOpen : next.refusing = false)
    (hactive : nextState = .active → op = .activate me.hello.deviceId)
    : PeerPhase.proceed (s.exec op) (fun _ => next) = (next, s.step op)
        ∧ Stands me s₀ (s.step op) next accepted := by
  have hsession := h.session state hphase hopen
  have hbefore : phase.beforeDiscovered = false :=
    PeerPhase.beforeDiscovered_of_sessionState? hphase
  have hstateOf : s.stateOf? me.hello.deviceId = some state := by
    rw [ServerState.stateOf?, hsession, Option.map_some]
    cases state <;> rfl
  obtain ⟨hok, -⟩ := ServerState.succeeds_of_canTransitionTo hop hnext hpasses hstateOf hcan
  constructor
  . unfold ServerState.succeeds at hok
    unfold PeerPhase.proceed ServerState.step
    split
    . next hexec => rw [hexec]
    . next hexec => rw [hexec] at hok; cases hok
  . refine ⟨(s.step_frame op).1.trans h.config, ?_, ?_, ?_, ?_, ?_, ?_, ?_⟩
    . intro hcontra
      rw [PeerPhase.beforeDiscovered_of_sessionState? hstate] at hcontra
      cases hcontra
    . intro k hk
      rw [ServerState.get?_step_of_ne (by rw [hop]; simpa using Ne.symm hk)]
      exact h.others k hk
    . exact fun _ _ => h.room hbefore hopen
    . intro state' hstate' _
      rw [hstate, Option.some.injEq] at hstate'
      subst hstate'
      rw [ServerState.get?_step, if_pos ⟨hop, hpasses⟩, hsession]
      rcases ServerOp.session_cases hop with ⟨deviceName, rfl⟩ | ⟨next', hnext', hmap⟩
      . cases hnext
      . rw [hnext, Option.some.injEq] at hnext'
        subst hnext'
        rw [hmap, Option.map_some, hafter]
    . exact fun hsome => ⟨(h.granted hsome).1, hnextOpen⟩
    . intro _ hcontra
      rw [hnextOpen] at hcontra
      cases hcontra
    . intro hcontra
      rw [hstate, Option.some.injEq] at hcontra
      rw [hactive hcontra, ServerState.step_connectedDevices]
      exact Finset.mem_insert_self _ _

/--
The names are compared with those of the other devices only, since the session of the device itself
carries its identifier.
-/
theorem Stands.any_values (h : Stands me s₀ s phase accepted) {state : SessionState}
    (hphase : phase.sessionState? = some state) (hopen : phase.refusing = false)
    (p : SessionInfo → Bool) (hp : ∀ session, p session = true → session.deviceId ≠ me.hello.deviceId)
    : s.sessions.values.any p = (s₀.sessions.shiftRemove me.hello.deviceId).values.any p := by
  rw [Bool.eq_iff_iff, List.any_eq_true, List.any_eq_true]
  have hown := h.session state hphase hopen
  constructor
  . rintro ⟨session, hmem, hsession⟩
    obtain ⟨k, hk⟩ := IndexMap.mem_values.mp hmem
    have hne : k ≠ me.hello.deviceId := by
      rintro rfl
      rw [hown, Option.some.injEq] at hk
      apply hp session hsession
      rw [← hk, ConnectingClient.sessionAt_deviceId]
    refine ⟨session, IndexMap.mem_values.mpr ⟨k, ?_⟩, hsession⟩
    rw [IndexMap.get?_shiftRemove, if_neg hne, ← h.others k hne, hk]
  . rintro ⟨session, hmem, hsession⟩
    obtain ⟨k, hk⟩ := IndexMap.mem_values.mp hmem
    rw [IndexMap.get?_shiftRemove] at hk
    split at hk
    . cases hk
    . next hne => exact ⟨session, IndexMap.mem_values.mpr ⟨k, (h.others k hne).trans hk⟩, hsession⟩

theorem Stands.acceptsRegister_eq (h : Stands me s₀ s (.register me.hello me.request) none)
    : s.acceptsRegister me.hello.deviceId me.request = s₀.admits me.hello me.request := by
  have hsession := h.session .authenticated rfl rfl
  have hauth : s.ensureAuth me.request = s₀.ensureAuth me.request := by
    simp only [ServerState.ensureAuth, h.config]
  have hname : (s.enforceUniqueDeviceName me.hello.deviceId me.hello.deviceName).isOk
      = (!(Text.trim me.hello.deviceName).isEmpty
        && !((s₀.sessions.shiftRemove me.hello.deviceId).values.any fun session =>
          session.deviceId ≠ me.hello.deviceId && session.state ≠ .closed
            && session.sessionId.isSome
            && session.deviceName == Text.trim me.hello.deviceName)) := by
    rw [← h.any_values rfl rfl _ (by simp +contextual)]
    unfold ServerState.enforceUniqueDeviceName
    dsimp only
    split
    . next hempty => rw [hempty]; rfl
    . next hempty =>
      rw [Bool.not_eq_true] at hempty
      rw [hempty]
      split
      . next hany => rw [hany]; rfl
      . next hany =>
        rw [Bool.not_eq_true] at hany
        rw [hany]
        rfl
  have hfeatures : (!(s.negotiatedFeatures (me.sessionAt none .authenticated)).isEmpty)
      = me.hello.features.any fun feature => s₀.config.supportedFeatures.contains feature := by
    rw [← h.config, Bool.eq_iff_iff]
    simp [ServerState.negotiatedFeatures, ConnectingClient.sessionAt]
  unfold ServerState.acceptsRegister ServerState.admits
  rw [hsession, hauth]
  simp only [Option.map_none, Option.any_some, hfeatures, h.room rfl rfl, Bool.true_and]
  rw [show (me.sessionAt none .authenticated).deviceName = me.hello.deviceName from rfl, hname]
  simp only [Bool.and_assoc]

theorem stands_register (h : Stands me s₀ s (.register me.hello me.request) none) (nowNs : Nat)
    (fresh : Uuid) (results : WebRtcResults)
    : Stands me s₀
        ((PeerPhase.register me.hello me.request).step s (.run nowNs fresh results)).2
        ((PeerPhase.register me.hello me.request).step s (.run nowNs fresh results)).1
        (Peer.acceptedAt none (.register me.hello me.request)
          ((PeerPhase.register me.hello me.request).step s (.run nowNs fresh results)).1) := by
  have hsession := h.session .authenticated rfl rfl
  have hconfig : (s.register me.hello.deviceId me.request fresh).2.config = s₀.config :=
    (s.step_frame (.register me.hello.deviceId me.request fresh)).1.trans h.config
  have hget (k : Uuid) := s.register_get? me.hello.deviceId k me.request fresh
  have hok : (s.register me.hello.deviceId me.request fresh).1.isOk
      = s₀.admits me.hello me.request := by
    rw [ServerState.register_isOk, h.acceptsRegister_eq, hsession]
    exact Bool.and_true _
  have hid {granted : RegisterAccepted}
      (hgranted : (s.register me.hello.deviceId me.request fresh).1 = .ok granted)
      : (s.register me.hello.deviceId me.request fresh).2.sessionIdOf? me.hello.deviceId
        = some granted.sessionId :=
    ServerState.register_ok hgranted
  simp only [PeerPhase.step, PeerPhase.runCall]
  generalize s.register me.hello.deviceId me.request fresh = r at hconfig hget hok hid ⊢
  obtain ⟨result, after⟩ := r
  have hothers (k : Uuid) (hk : k ≠ me.hello.deviceId)
      : after.sessions.get? k = s₀.sessions.get? k := by
    rw [hget k, if_neg fun hcontra => hk hcontra.1.symm]
    exact h.others k hk
  have hrefuse {next : PeerPhase F} {e : ServerError} (hresult : result = .error e)
      (hbefore : next.beforeDiscovered = false) (hrefusing : next.refusing = true)
      (hactive : next.sessionState? ≠ some .active)
      : Stands me s₀ after next none := by
    refine ⟨hconfig, ?_, hothers, ?_, ?_, by simp, ?_, fun hcontra => absurd hcontra hactive⟩
    . intro hcontra
      rw [hbefore] at hcontra
      cases hcontra
    . intro _ hcontra
      rw [hrefusing] at hcontra
      cases hcontra
    . intro state _ hcontra
      rw [hrefusing] at hcontra
      cases hcontra
    . intro _ _
      rw [← hok, hresult]
      rfl
  cases result with
  | error e =>
    cases e with
    | registerRejected rejected => exact hrefuse rfl rfl rfl (by simp [PeerPhase.sessionState?])
    | _ => exact hrefuse rfl rfl rfl (by simp [PeerPhase.sessionState?])
  | ok granted =>
    refine ⟨hconfig, ?_, hothers, ?_, ?_, ?_, ?_, ?_⟩
    . intro hcontra
      cases hcontra
    . exact fun _ _ => h.room rfl rfl
    . intro state hstate _
      cases hstate
      have hown : after.sessions.get? me.hello.deviceId
          = some (me.sessionAt (some fresh) .registered) := by
        rw [hget, if_pos ⟨rfl, h.acceptsRegister_eq.trans hok.symm⟩, hsession]
        rfl
      have hsame : some fresh = some granted.sessionId := by
        have := hid rfl
        rwa [ServerState.sessionIdOf?, hown] at this
      rw [hown, hsame]
      rfl
    . exact fun _ => ⟨hok.symm, rfl⟩
    . intro hcontra
      cases hcontra
    . intro hcontra
      cases hcontra

theorem stands_discover (h : Stands me s₀ s (.discover me.hello) none) (nowNs : Nat)
    (fresh : Uuid) (results : WebRtcResults)
    : Stands me s₀ ((PeerPhase.discover me.hello).step s (.run nowNs fresh results)).2
        ((PeerPhase.discover me.hello).step s (.run nowNs fresh results)).1 none := by
  have hsessions : s.sessions = s₀.sessions := h.before rfl
  have hroom : s.passes (.discovered me.hello.deviceId me.hello.deviceName)
      = (s₀.sessions.contains me.hello.deviceId || s₀.enforceCapacity.isOk) := by
    simp only [ServerState.passes, ServerState.enforceCapacity, hsessions, h.config]
  simp only [PeerPhase.step, PeerPhase.runCall]
  rcases s.discovered_spec me.hello.deviceId me.hello.deviceName with
    ⟨hno, e, hspec⟩ | ⟨hyes, hspec⟩
  . rw [hspec]
    refine ⟨h.config, ?_, h.others, ?_, ?_, by simp, ?_, ?_⟩
    . intro hcontra
      cases hcontra
    . intro _ hcontra
      cases hcontra
    . intro state hcontra
      cases hcontra
    . intro _ _
      rw [ServerState.admits, ← hroom, hno]
      rfl
    . intro hcontra
      cases hcontra
  . rw [hspec]
    refine ⟨h.config, ?_, ?_, ?_, ?_, by simp, ?_, ?_⟩
    . intro hcontra
      cases hcontra
    . intro k hk
      rw [← h.others k hk]
      exact IndexMap.get?_insert_of_ne _ _ hk
    . exact fun _ _ => hroom.symm.trans hyes
    . intro state hstate _
      cases hstate
      exact IndexMap.get?_insert_self _ _ _
    . intro _ hcontra
      cases hcontra
    . intro hcontra
      cases hcontra

theorem stands_run {p : Peer F} {taken : Nat} (hhandler : Handles me p.phase taken p.sent p.accepted)
    (h : Stands me s₀ s p.phase p.accepted) (nowNs : Nat) (fresh : Uuid) (results : WebRtcResults)
    : Stands me s₀ (p.step s (.run nowNs fresh results)).2
        (p.step s (.run nowNs fresh results)).1.phase
        (p.step s (.run nowNs fresh results)).1.accepted := by
  obtain ⟨phase, sent, joined, accepted⟩ := p
  simp only [Peer.step] at hhandler h ⊢
  have hrefuse {result : Except ServerError Unit} (hrefused : s₀.admits me.hello me.request = false)
      : Stands me s₀ (s.step (.closeSession me.hello.deviceId nowNs)) (.done result) none := by
    refine ⟨(s.step_frame _).1.trans h.config, ?_, ?_, ?_, ?_, by simp, fun _ _ => hrefused, ?_⟩
    . intro hcontra
      cases hcontra
    . intro k hk
      rw [ServerState.get?_step_of_ne (by simpa [ServerOp.sessionOf?] using Ne.symm hk)]
      exact h.others k hk
    . intro _ hcontra
      cases hcontra
    . intro state hcontra
      cases hcontra
    . intro hcontra
      cases hcontra
  cases hhandler with
  | openControl => exact h
  | readServerHello => exact h.moveOn rfl rfl rfl
  | sendServerHello hello => exact h
  | recvClientHello hello => exact h
  | discover hello => exact stands_discover h nowNs fresh results
  | transportConnect hello =>
    obtain ⟨hproceed, hnext⟩ := h.call (.transportConnected me.hello.deviceId)
      (.exchangeHello me.hello) rfl rfl rfl rfl rfl rfl rfl rfl rfl (by simp)
    simp only [ServerState.exec] at hproceed
    simp only [PeerPhase.step, PeerPhase.runCall, hproceed]
    exact hnext
  | exchangeHello hello =>
    obtain ⟨hproceed, hnext⟩ := h.call (.helloExchanged me.hello)
      (.authenticate me.hello) rfl rfl me.checkHello_isOk rfl rfl rfl rfl rfl rfl (by simp)
    simp only [ServerState.exec] at hproceed
    simp only [PeerPhase.step, PeerPhase.runCall, hproceed]
    exact hnext
  | authenticate hello =>
    obtain ⟨hproceed, hnext⟩ := h.call (.authenticate me.hello.deviceId)
      (.recvRegister me.hello) rfl rfl rfl rfl rfl rfl rfl rfl rfl (by simp)
    simp only [ServerState.exec] at hproceed
    simp only [PeerPhase.step, PeerPhase.runCall, hproceed]
    exact hnext
  | recvRegister hello => exact h
  | register hello => exact stands_register h nowNs fresh results
  | sendAccepted hello granted => exact h
  | sendRejected hello rejected => exact h
  | refuse hello e => exact hrefuse (h.refused rfl rfl)
  | refused hello rejected => exact hrefuse (h.refused rfl rfl)
  | syncScene hello granted =>
    obtain ⟨hproceed, hnext⟩ := h.call (.sceneSynced me.hello.deviceId)
      (.activate me.hello) rfl rfl rfl rfl rfl rfl rfl rfl rfl (by simp)
    simp only [ServerState.exec] at hproceed
    simp only [PeerPhase.step, PeerPhase.runCall, hproceed]
    exact hnext
  | activate hello granted =>
    obtain ⟨hproceed, hnext⟩ := h.call (.activate me.hello.deviceId)
      (.select me.hello) rfl rfl rfl rfl rfl rfl rfl rfl rfl (by simp)
    simp only [ServerState.exec] at hproceed
    simp only [PeerPhase.step, PeerPhase.runCall, hproceed]
    exact hnext
  | select hello granted => exact h
  | done result _ _ _ htaken hconversation => exact h

theorem stands_sent {p : Peer F} {taken : Nat}
    (hhandler : Handles me p.phase taken p.sent p.accepted) (h : Stands me s₀ s p.phase p.accepted)
    : Stands me s₀ s (p.step s (.transport (.ok ()))).1.phase
        (p.step s (.transport (.ok ()))).1.accepted := by
  obtain ⟨phase, sent, joined, accepted⟩ := p
  simp only [Peer.step] at hhandler h ⊢
  cases hhandler with
  | done result _ _ _ htaken hconversation => exact h
  | _ => exact h.moveOn rfl rfl rfl

theorem stands_received {p : Peer F} {taken : Nat}
    (hhandler : Handles me p.phase taken p.sent p.accepted) (h : Stands me s₀ s p.phase p.accepted)
    (hlistening : p.phase.listening = true) {message : ControlMessage}
    (hmessage : me.script[taken]? = some message)
    : Stands me s₀ s (p.step s (.received (.ok message))).1.phase
        (p.step s (.received (.ok message))).1.accepted := by
  obtain ⟨phase, sent, joined, accepted⟩ := p
  simp only [Peer.step] at hhandler h ⊢
  cases hhandler with
  | recvClientHello hello => cases hmessage; exact h.moveOn rfl rfl rfl
  | recvRegister hello => cases hmessage; exact h.moveOn rfl rfl rfl
  | _ => cases hlistening

end Steps

def Unrivalled (l : Handshake F) : HandshakeEvent F → Prop
  | .server op => op.sessionOf? = none
  | e => l.Reliable e

instance (l : Handshake F) : DecidablePred l.Unrivalled
  | .server op => decidable_of_iff (op.sessionOf?.isNone = true) Option.isNone_iff_eq_none
  | .transport result => inferInstanceAs (Decidable (l.Reliable (.transport result)))
  | .receive => inferInstanceAs (Decidable (l.Reliable .receive))
  | .lose e => inferInstanceAs (Decidable (l.Reliable (.lose e)))
  | .run nowNs fresh results => inferInstanceAs (Decidable (l.Reliable (.run nowNs fresh results)))
  | .advance => inferInstanceAs (Decidable (l.Reliable .advance))
  | .giveUp e => inferInstanceAs (Decidable (l.Reliable (.giveUp e)))

theorem reliable_of_unrivalled {l : Handshake F} {e : HandshakeEvent F} (h : l.Unrivalled e)
    : l.Reliable e := by
  cases e with
  | server op => trivial
  | _ => exact h

theorem stands_step {me : ConnectingClient} {s₀ : ServerState F} {l : Handshake F}
    (hkept : l.Kept me) (h : Stands me s₀ l.connection.server l.phase l.accepted)
    {e : HandshakeEvent F} (he : l.Unrivalled e)
    : Stands me s₀ (l.step me e).connection.server (l.step me e).phase (l.step me e).accepted := by
  obtain ⟨taken, posted, read, hsound⟩ := hkept.sound
  cases e with
  | transport result =>
    cases result with
    | ok u => exact stands_sent hsound.handler h
    | error reason => cases he
  | receive =>
    simp only [step]
    split
    . next message toServer hlistening hqueue =>
      exact stands_received hsound.handler h hlistening (hsound.script_of_cons hqueue).2
    . exact h
  | lose e => cases he
  | run nowNs fresh results => exact stands_run hsound.handler h nowNs fresh results
  | advance =>
    have hconnection : (l.advance me).connection = l.connection := by
      unfold advance
      split <;> rfl
    simp only [step, phase, accepted, hconnection]
    exact h
  | giveUp e => exact h
  | server op => exact h.server he

theorem connected_iff_admits (me : ConnectingClient) (s : ServerState F)
    (es : List (HandshakeEvent F)) (h : Run.AllSteps (step me) Unrivalled (start s) es)
    (hsettled : (Run.run (step me) (start s) es).Settled)
    : ((∃ sessionId, (Run.run (step me) (start s) es).client = .done (.ok sessionId))
          ↔ s.admits me.hello me.request = true)
        ∧
      ∀ sessionId, (Run.run (step me) (start s) es).client = .done (.ok sessionId) →
        let server := (Run.run (step me) (start s) es).connection.server
        server.stateOf? me.hello.deviceId = some .active
          ∧ server.sessionIdOf? me.hello.deviceId = some sessionId
          ∧ me.hello.deviceId ∈ server.runtime.connectedDevices := by
  obtain ⟨hkept, hstands⟩ := Run.run_invariant
    (P := fun l => l.Kept me ∧ Stands me s l.connection.server l.phase l.accepted)
    (fun l e hl he =>
      ⟨kept_step hl.1 (reliable_of_unrivalled he), stands_step hl.1 hl.2 he⟩)
    ⟨kept_start s, stands_start⟩ h
  generalize Run.run (step me) (start s) es = l at hkept hstands hsettled ⊢
  have hiff := connected_iff_of_settled hkept hsettled
  have hphase : l.phase.rank = 0 := by
    unfold Settled remaining at hsettled
    omega
  have hthrough : l.phase.refusing = true ∧ l.phase.sessionState? = none
      ∨ l.phase.refusing = false ∧ l.phase.sessionState? = some .active := by
    obtain ⟨taken, posted, read, hsound⟩ := hkept.sound
    have hhandler := hsound.handler
    generalize l.phase = phase at hhandler hphase
    generalize l.sent = sent at hhandler
    generalize l.accepted = accepted at hhandler
    cases hhandler <;> first | exact .inl ⟨rfl, rfl⟩ | exact .inr ⟨rfl, rfl⟩ | cases hphase
  have haccepted : l.accepted.isSome = true ↔ s.admits me.hello me.request = true := by
    constructor
    . exact fun hsome => (hstands.granted hsome).1
    . intro hadmits
      cases hcase : l.accepted with
      | some granted => rfl
      | none =>
        rcases hthrough with ⟨hrefusing, -⟩ | ⟨-, hactive⟩
        . rw [hstands.refused hcase hrefusing] at hadmits
          cases hadmits
        . obtain ⟨taken, posted, read, hsound⟩ := hkept.sound
          have hhandler := hsound.handler
          rw [hcase] at hhandler
          generalize l.phase = phase at hhandler hactive
          generalize l.sent = sent at hhandler
          cases hhandler <;> cases hactive
  constructor
  . rw [← haccepted, Option.isSome_iff_exists]
    constructor
    . rintro ⟨sessionId, hconnected⟩
      obtain ⟨granted, hgranted, -⟩ := Option.map_eq_some_iff.mp ((hiff sessionId).mp hconnected)
      exact ⟨granted, hgranted⟩
    . rintro ⟨granted, hgranted⟩
      exact ⟨granted.sessionId, (hiff _).mpr (by rw [hgranted]; rfl)⟩
  . intro sessionId hconnected
    have hid := (hiff sessionId).mp hconnected
    obtain ⟨granted, hgranted, -⟩ := Option.map_eq_some_iff.mp hid
    have hopen := (hstands.granted (by rw [hgranted]; rfl)).2
    rcases hthrough with ⟨hrefusing, -⟩ | ⟨-, hactive⟩
    . rw [hopen] at hrefusing
      cases hrefusing
    . have hsession := hstands.session .active hactive hopen
      rw [hid] at hsession
      refine ⟨?_, ?_, hstands.connected hactive⟩
      . rw [ServerState.stateOf?, hsession]
        rfl
      . rw [ServerState.sessionIdOf?, hsession]
        rfl

theorem connected_iff_admits_demo
    : (Run.run (step demoClient) (start (.new .default)) demoHandshake).client = .done (.ok 60)
        ∧
      ((∃ sessionId, (Run.run (step demoClient) (start (.new .default)) demoHandshake).client
            = .done (.ok sessionId))
          ↔ (ServerState.new (F := Floats.rational) .default).admits demoClient.hello
            demoClient.request = true) :=
  ⟨by decide, (connected_iff_admits demoClient (.new .default) demoHandshake (by decide)
    (by decide)).1⟩

end Handshake

end MotionStage
