import MotionStage.Server.SessionStep

/-!
This module contains the feature negotiation over whole runs: what `register` has returned for the
session of a device is kept beside the server, and compared with the features that the gate of the
video calls reads.
-/

namespace MotionStage

variable {F : Floats}

namespace SessionState

def isRegistered : SessionState → Bool
  | .registered | .sceneSynced | .active => true
  | _ => false

theorem isRegistered_of_next {state next : SessionState} (hnext : next ≠ .registered)
    (h : (if state.canTransitionTo next then next else state).isRegistered = true)
    : state.isRegistered = true := by
  cases state <;> cases next <;> simp_all [canTransitionTo, isRegistered]

end SessionState

@[simp]
theorem SessionInfo.advance_features (next : SessionState) (session : SessionInfo)
    : (session.advance next).features = session.features := by
  unfold advance
  split <;> rfl

namespace ServerState

theorem ensureVideoSessionReady_spec {self : ServerState F} {deviceId : Uuid}
    (h : self.ensureVideoSessionReady deviceId = .ok ())
    : ∃ session, self.sessions.get? deviceId = some session ∧ session.state = .active
        ∧ .video ∈ session.features := by
  unfold ensureVideoSessionReady at h
  split at h
  . cases h
  . next session hsession =>
    refine ⟨session, hsession, ?_⟩
    split at h
    . cases h
    . next hactive =>
      split at h
      . cases h
      . next hvideo =>
        simp only [ne_eq, not_not] at hactive
        simp only [Bool.not_eq_true', Bool.not_eq_false, List.contains_iff_mem] at hvideo
        exact ⟨hactive, hvideo⟩

theorem register_accepted {self : ServerState F} {deviceId : Uuid} {session : SessionInfo}
    (hsession : self.sessions.get? deviceId = some session) (req : RegisterRequest)
    (sessionId : Uuid)
    : (self.register deviceId req sessionId).1.toOption
        =
      if self.acceptsRegister deviceId req && session.state.canTransitionTo .registered then
        some ⟨sessionId, self.negotiatedFeatures session⟩
      else
        none := by
  rcases self.register_spec deviceId req sessionId with
    ⟨hno, e, metrics, h⟩ | ⟨session', hyes, hsession', metrics, h⟩
  . rw [h]
    simp [hno, Except.toOption]
  . rw [hsession, Option.some.injEq] at hsession'
    subst hsession'
    have hchange := changeSessionState_isOk
      { self with
        sessions := self.sessions.modify deviceId fun session =>
          { session with sessionId := some sessionId } } deviceId .registered
    simp only [IndexMap.get?_modify_self, hsession, Option.map_some, Option.any_some] at hchange
    rw [h, hyes, Bool.true_and, ← hchange]
    cases (changeSessionState _ deviceId .registered).1 <;> rfl

end ServerState

/--
The server, and for every device what `register` has returned since the device was discovered.
-/
structure Registry (F : Floats) where
  server : ServerState F
  accepted : Uuid → Option RegisterAccepted

namespace Registry

def start (config : ServerConfig) : Registry F := ⟨.new config, fun _ => none⟩

def acceptedAfter (r : Registry F) : ServerOp F → Uuid → Option RegisterAccepted
  | .discovered deviceId deviceName =>
    if r.server.passes (.discovered deviceId deviceName) then
      Function.update r.accepted deviceId none
    else
      r.accepted
  | .register deviceId req sessionId =>
    match (r.server.register deviceId req sessionId).1 with
    | .error _ => r.accepted
    | .ok accepted => Function.update r.accepted deviceId (some accepted)
  | _ => r.accepted

def step (r : Registry F) (op : ServerOp F) : Registry F :=
  ⟨r.server.step op, r.acceptedAfter op⟩

def NegotiatedVideo (r : Registry F) (deviceId : Uuid) : Prop :=
  ∃ accepted, r.accepted deviceId = some accepted ∧ .video ∈ accepted.negotiatedFeatures

def VideoGated (r : Registry F) : Prop :=
  ∀ deviceId, r.server.ensureVideoSessionReady deviceId = .ok ()
    → r.server.stateOf? deviceId = some .active ∧ r.NegotiatedVideo deviceId

/--
What the gate reads for a registered session is what was negotiated for it.
-/
def Agrees (r : Registry F) (deviceId : Uuid) : Prop :=
  ∀ session, r.server.sessions.get? deviceId = some session → session.state.isRegistered = true
    → .video ∈ session.features → r.NegotiatedVideo deviceId

/--
A session that is registered with the video feature finds it among the supported ones, and no
`hello_exchanged` names the video feature for a registered session that has not negotiated it.
-/
def KeepsNegotiated (r : Registry F) : ServerOp F → Prop
  | .register deviceId req sessionId =>
    r.server.succeeds (.register deviceId req sessionId) = true
      → ∀ session, r.server.sessions.get? deviceId = some session → .video ∈ session.features
      → .video ∈ r.server.config.supportedFeatures
  | .helloExchanged hello =>
    (ServerState.checkHello hello).isOk = true
      → ∀ session, r.server.sessions.get? hello.deviceId = some session
      → session.state.isRegistered = true → .video ∈ hello.features
      → r.NegotiatedVideo hello.deviceId
  | _ => True

theorem videoGated_of_agrees {r : Registry F} (h : ∀ deviceId, r.Agrees deviceId)
    : r.VideoGated := by
  intro deviceId hready
  obtain ⟨session, hsession, hactive, hvideo⟩ :=
    ServerState.ensureVideoSessionReady_spec hready
  refine ⟨by simp [ServerState.stateOf?, hsession, hactive], ?_⟩
  exact h deviceId session hsession (by rw [hactive]; rfl) hvideo

theorem acceptedAfter_of_ne {r : Registry F} {op : ServerOp F} {k : Uuid}
    (h : op.sessionOf? ≠ some k)
    : r.acceptedAfter op k = r.accepted k := by
  cases op with
  | discovered deviceId deviceName =>
    have hne : k ≠ deviceId := fun heq => h (congrArg some heq.symm)
    simp only [acceptedAfter]
    split
    . exact Function.update_of_ne hne _ _
    . rfl
  | register deviceId req sessionId =>
    have hne : k ≠ deviceId := fun heq => h (congrArg some heq.symm)
    simp only [acceptedAfter]
    cases (r.server.register deviceId req sessionId).1 with
    | error e => rfl
    | ok accepted => exact Function.update_of_ne hne _ _
  | _ => rfl

theorem agrees_step_of_ne {r : Registry F} {op : ServerOp F} {k : Uuid}
    (h : op.sessionOf? ≠ some k)
    : (r.step op).Agrees k ↔ r.Agrees k := by
  simp only [Agrees, NegotiatedVideo, step, acceptedAfter_of_ne h, ServerState.get?_step_of_ne h]

theorem agrees_advance {r : Registry F} {op : ServerOp F} {k : Uuid} {next : SessionState}
    (h : r.Agrees k) (hop : op.sessionOf? = some k) (hnext : op.nextState? = some next)
    (hregister : next ≠ .registered) (hwrite : ∀ session : SessionInfo, session.write op = session)
    (haccepted : r.acceptedAfter op = r.accepted)
    : (r.step op).Agrees k := by
  intro after hafter hstate hvideo
  have haccepted : (r.step op).NegotiatedVideo k ↔ r.NegotiatedVideo k := by
    simp only [NegotiatedVideo, step, haccepted]
  rw [haccepted]
  simp only [step] at hafter
  rw [ServerState.get?_step] at hafter
  split at hafter
  . rcases ServerOp.session_cases hop with ⟨deviceName, rfl⟩ | ⟨next', hnext', hsession⟩
    . cases hnext
    . rw [hnext, Option.some.injEq] at hnext'
      subst hnext'
      rw [hsession, Option.map_eq_some_iff] at hafter
      obtain ⟨session, hbefore, rfl⟩ := hafter
      rw [hwrite] at hstate hvideo
      rw [SessionInfo.advance_state] at hstate
      rw [SessionInfo.advance_features] at hvideo
      exact h session hbefore (SessionState.isRegistered_of_next hregister hstate) hvideo
  . exact h after hafter hstate hvideo

theorem agrees_register_iff {r : Registry F} {deviceId : Uuid} (h : r.Agrees deviceId)
    (req : RegisterRequest) (sessionId : Uuid)
    : (r.step (.register deviceId req sessionId)).Agrees deviceId
        ↔
      r.KeepsNegotiated (.register deviceId req sessionId) := by
  simp only [Agrees, KeepsNegotiated, NegotiatedVideo, step, acceptedAfter]
  rw [ServerState.get?_step, ServerState.succeeds_eq rfl]
  cases hsession : r.server.sessions.get? deviceId with
  | none => simp [ServerOp.sessionOf?, ServerOp.sessionAfter, ServerOp.nextState?]
  | some session =>
    have hreturned := ServerState.register_accepted hsession req sessionId
    have hold : session.state.isRegistered = true → .video ∈ session.features
        → ∃ accepted, r.accepted deviceId = some accepted ∧ .video ∈ accepted.negotiatedFeatures :=
      h session hsession
    simp only [ServerOp.sessionOf?, ServerState.passes, ServerOp.admittedBy, ServerOp.nextState?,
      ServerOp.sessionAfter, Option.any_some, Option.map_some, true_and]
    cases hpasses : r.server.acceptsRegister deviceId req with
    | false =>
      cases hresult : (r.server.register deviceId req sessionId).1 with
      | error e => simpa [hpasses] using hold
      | ok accepted => simp [hresult, hpasses, Except.toOption] at hreturned
    | true =>
      cases hcan : session.state.canTransitionTo .registered with
      | false =>
        cases hresult : (r.server.register deviceId req sessionId).1 with
        | error e => simpa [SessionInfo.advance_state, hcan, SessionInfo.write] using hold
        | ok accepted => simp [hresult, hpasses, hcan, Except.toOption] at hreturned
      | true =>
        cases hresult : (r.server.register deviceId req sessionId).1 with
        | error e => simp [hresult, hpasses, hcan, Except.toOption] at hreturned
        | ok accepted =>
          -- the call returns the supported ones of the features that the session has
          simp only [hresult, hpasses, hcan, Except.toOption, Bool.and_self, if_true,
            Option.some.injEq] at hreturned
          subst hreturned
          simp +contextual [SessionInfo.advance_state, hcan, SessionInfo.write,
            SessionState.isRegistered, ServerState.negotiatedFeatures]

theorem agrees_hello_iff {r : Registry F} {hello : ClientHello} (h : r.Agrees hello.deviceId)
    : (r.step (.helloExchanged hello)).Agrees hello.deviceId
        ↔
      r.KeepsNegotiated (.helloExchanged hello) := by
  have hstate : ∀ state : SessionState,
      (if state.canTransitionTo .helloExchanged then .helloExchanged else state).isRegistered
        = state.isRegistered := by
    intro state
    cases state <;> rfl
  change (∀ after, (r.server.step (.helloExchanged hello)).sessions.get? hello.deviceId = some after
    → _ → _ → r.NegotiatedVideo hello.deviceId) ↔ _
  simp only [KeepsNegotiated]
  rw [ServerState.get?_step]
  cases hpasses : (ServerState.checkHello hello).isOk with
  | false =>
    simp only [ServerState.passes, hpasses, Bool.false_eq_true, and_false, if_false,
      false_imp_iff, iff_true]
    exact h
  | true =>
    cases r.server.sessions.get? hello.deviceId with
    | none =>
      simp [ServerState.passes, hpasses, ServerOp.sessionOf?, ServerOp.sessionAfter,
        ServerOp.nextState?]
    | some session =>
      simp [ServerState.passes, hpasses, ServerOp.sessionOf?, ServerOp.sessionAfter,
        ServerOp.nextState?, SessionInfo.advance_state, hstate, SessionInfo.write]

theorem agrees_discovered {r : Registry F} {deviceId : Uuid} (h : r.Agrees deviceId)
    (deviceName : String)
    : (r.step (.discovered deviceId deviceName)).Agrees deviceId := by
  intro after hafter hstate hvideo
  simp only [step] at hafter
  rw [ServerState.get?_step] at hafter
  split at hafter
  . cases hafter
    cases hstate
  . next hno =>
    simp only [ServerOp.sessionOf?, true_and] at hno
    simpa [NegotiatedVideo, step, acceptedAfter, hno] using h after hafter hstate hvideo

theorem agrees_step_iff {r : Registry F} (h : ∀ deviceId, r.Agrees deviceId) (op : ServerOp F)
    : (∀ deviceId, (r.step op).Agrees deviceId) ↔ r.KeepsNegotiated op := by
  have hone : ∀ k, op.sessionOf? = some k →
      ((∀ deviceId, (r.step op).Agrees deviceId) ↔ (r.step op).Agrees k) := by
    intro k hop
    refine ⟨fun hall => hall k, fun hk deviceId => ?_⟩
    by_cases heq : deviceId = k
    . exact heq ▸ hk
    . apply (agrees_step_of_ne _).mpr (h deviceId)
      rw [hop]
      exact fun hsome => heq (Option.some.inj hsome).symm
  cases op with
  | register deviceId req sessionId =>
    rw [hone deviceId rfl]
    exact agrees_register_iff (h deviceId) req sessionId
  | helloExchanged hello =>
    rw [hone hello.deviceId rfl]
    exact agrees_hello_iff (h hello.deviceId)
  | discovered deviceId deviceName =>
    rw [hone deviceId rfl]
    exact iff_of_true (agrees_discovered (h deviceId) deviceName) trivial
  | transportConnected | authenticate | sceneSynced | activate | closeSession =>
    rw [hone _ rfl]
    refine iff_of_true ?_ trivial
    exact agrees_advance (h _) rfl rfl (by decide) (fun _ => rfl) rfl
  | _ =>
    refine iff_of_true ?_ trivial
    intro deviceId
    exact (agrees_step_of_ne (by simp [ServerOp.sessionOf?])).mpr (h deviceId)

theorem videoGated_run (config : ServerConfig) (ops : List (ServerOp F))
    (hops : Run.AllSteps step KeepsNegotiated (start config) ops)
    : Run.AllStates step VideoGated (start config) ops := by
  have hagrees : Run.AllStates step (fun r => ∀ deviceId, r.Agrees deviceId)
      (start config : Registry F) ops := by
    apply (Run.allStates_iff_allSteps _ _).mpr hops
    . intro r op h
      exact agrees_step_iff h op
    . intro deviceId session h
      cases h
  exact hagrees.imp fun r => videoGated_of_agrees

/--
The handshake of a device that offers video, on a server with a stream to show.
-/
def videoHandshake : List (ServerOp Floats.rational) :=
  [.setMasterVideoDescriptor ⟨1920, 1080, 60, .sdr, .bt709, .srgb, 8⟩, .discovered 7 "panel",
    .transportConnected 7,
    .helloExchanged { ServerState.panelHello 7 "panel" with features := [.motion, .video] },
    .authenticate 7, .register 7 ⟨none, none⟩ 60, .sceneSynced 7, .activate 7]

theorem videoGated_run_handshake
    : Run.AllStates step VideoGated (start .default) videoHandshake := by
  apply videoGated_run
  refine ⟨trivial, trivial, trivial, ?_, trivial, ?_, trivial, trivial, trivial⟩
  . intro _ session hsession hregistered
    cases hsession
    cases hregistered
  . intro _ session _ _
    decide

/--
The gate reads the features of the hello: a server without the video feature still opens its video
calls to a device that names it.
-/
theorem videoGated_fails
    : ¬ (Run.run step (start { ServerConfig.default with supportedFeatures := [.motion] })
          videoHandshake).VideoGated := by
  intro h
  obtain ⟨-, accepted, haccepted, hvideo⟩ := h 7 rfl
  cases haccepted
  revert hvideo
  decide

end Registry

end MotionStage
