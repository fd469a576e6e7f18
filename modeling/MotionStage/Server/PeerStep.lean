import MotionStage.Server.Peer

/-!
This module says once what a step of a handler does: which call it makes on the server, and how far
the handler has come afterwards.
-/

namespace MotionStage

variable {F : Floats}

theorem PeerEvent.run_or_waits (e : PeerEvent F)
    : (∃ nowNs fresh results, e = .run nowNs fresh results)
        ∨
      (∀ nowNs fresh results, e ≠ .run nowNs fresh results) := by
  cases e with
  | run nowNs fresh results => exact .inl ⟨nowNs, fresh, results, rfl⟩
  | _ => exact .inr (by simp)

namespace PeerPhase

def serveCall? (hello : ClientHello) (nowNs : Nat) (results : WebRtcResults)
    : ControlMessage → Option (ServerOp F)
  | .setMode mode => some (.setMode mode nowNs)
  | .resetSceneToBaseline sceneId => some (.resetSceneToBaseline sceneId)
  | .commitSceneBaseline sceneId => some (.commitSceneBaseline sceneId)
  | .commitObjectBaseline sceneId objectId => some (.commitObjectBaseline sceneId objectId)
  | .createVideoOffer _ _ => some (.createVideoOffer hello.deviceId results)
  | .videoSignal signal =>
    if signal.toDevice = hello.deviceId then
      some (.handleVideoSignal hello.deviceId signal.payload results)
    else
      some (.pushSignalingMessage signal)
  | .drainSignals => some (.drainSignalingMessages hello.deviceId)
  | _ => none

def call? : PeerPhase F → PeerEvent F → Option (ServerOp F)
  | .discover hello, .run _ _ _ => some (.discovered hello.deviceId hello.deviceName)
  | .transportConnect hello, .run _ _ _ => some (.transportConnected hello.deviceId)
  | .exchangeHello hello, .run _ _ _ => some (.helloExchanged hello)
  | .authenticate hello, .run _ _ _ => some (.authenticate hello.deviceId)
  | .register hello req, .run _ fresh _ => some (.register hello.deviceId req fresh)
  | .refuse hello _, .run nowNs _ _ => some (.closeSession hello.deviceId nowNs)
  | .syncScene hello, .run _ _ _ => some (.sceneSynced hello.deviceId)
  | .activate hello, .run _ _ _ => some (.activate hello.deviceId)
  | .serve hello message, .run nowNs _ results => serveCall? hello nowNs results message
  | .ingest _ datagram, .run _ _ _ => some (.ingestMotionDatagram datagram)
  | .teardown hello, .run nowNs _ _ => some (.closeSession hello.deviceId nowNs)
  | _, _ => none

theorem proceed_server {α : Type} (r : Except ServerError α × ServerState F)
    (next : α → PeerPhase F)
    : (proceed r next).2 = r.2 := by
  obtain ⟨_ | _, _⟩ := r <;> rfl

theorem answer_server {α : Type} (hello : ClientHello) (r : Except ServerError α × ServerState F)
    (next : α → PeerPhase F)
    : (answer hello r next).2 = r.2 := by
  obtain ⟨_ | _, _⟩ := r <;> rfl

theorem runServe_server (hello : ClientHello) (s : ServerState F) (nowNs : Nat)
    (results : WebRtcResults) (message : ControlMessage)
    : (runServe hello s nowNs results message).2
        =
      ((serveCall? hello nowNs results message).map s.step).getD s := by
  cases message with
  | videoSignal signal =>
    simp only [runServe, serveCall?]
    split <;> exact answer_server hello _ _
  | setMode => exact answer_server hello _ _
  | resetSceneToBaseline => exact answer_server hello _ _
  | commitSceneBaseline => exact answer_server hello _ _
  | commitObjectBaseline => exact answer_server hello _ _
  | createVideoOffer => exact answer_server hello _ _
  | drainSignals => exact answer_server hello _ _
  | _ => rfl

theorem step_server (phase : PeerPhase F) (s : ServerState F) (e : PeerEvent F)
    : (phase.step s e).2 = ((phase.call? e).map s.step).getD s := by
  cases e with
  | run nowNs fresh results =>
    cases phase with
    | discover => exact proceed_server _ _
    | transportConnect => exact proceed_server _ _
    | exchangeHello => exact proceed_server _ _
    | authenticate => exact proceed_server _ _
    | register hello req =>
      simp only [step, runCall, call?, Option.map_some, Option.getD_some, ServerState.step,
        ServerState.exec, ServerState.void]
      split
      -- the handler goes three ways on, all of them with the state that `register` returned
      . next h => rw [h]
      . next h => rw [h]
      . next h => rw [h]
    | syncScene => exact proceed_server _ _
    | activate => exact proceed_server _ _
    | serve hello message => exact runServe_server hello s nowNs results message
    | _ => rfl
  | _ => cases phase <;> rfl

theorem step_server_of_waits (phase : PeerPhase F) (s : ServerState F) {e : PeerEvent F}
    (hwait : ∀ nowNs fresh results, e ≠ .run nowNs fresh results)
    : (phase.step s e).2 = s := by
  cases e with
  | run nowNs fresh results => exact absurd rfl (hwait nowNs fresh results)
  | _ => rfl

def sessionState? : PeerPhase F → Option SessionState
  | .openControl | .readServerHello | .sendServerHello _ | .recvClientHello | .discover _
  | .done _ => none
  | .transportConnect _ => some .discovered
  | .exchangeHello _ => some .transportConnected
  | .authenticate _ => some .helloExchanged
  | .recvRegister _ | .register _ _ | .sendRejected _ _ | .refuse _ _ => some .authenticated
  | .sendAccepted _ _ | .syncScene _ => some .registered
  | .activate _ => some .sceneSynced
  | .select _ | .sendPong _ | .readMode _ | .serve _ _ | .reply _ _ | .sendError _ _ _
  | .ingest _ _ | .teardown _ => some .active

theorem dispatch_stays (hello : ClientHello) (message : ControlMessage)
    : (dispatch (F := F) hello message).hello? = some hello
        ∧ (dispatch (F := F) hello message).sessionState? = some .active := by
  cases message with
  | videoSignal signal =>
    simp only [dispatch]
    split <;> exact ⟨rfl, rfl⟩
  | setMode =>
    simp only [dispatch, asOperator]
    split <;> exact ⟨rfl, rfl⟩
  | resetSceneToBaseline =>
    simp only [dispatch, asOperator]
    split <;> exact ⟨rfl, rfl⟩
  | commitSceneBaseline =>
    simp only [dispatch, asOperator]
    split <;> exact ⟨rfl, rfl⟩
  | commitObjectBaseline =>
    simp only [dispatch, asOperator]
    split <;> exact ⟨rfl, rfl⟩
  | _ => exact ⟨rfl, rfl⟩

theorem answer_stays {α : Type} {hello : ClientHello} {r : Except ServerError α × ServerState F}
    {next : α → PeerPhase F}
    (hnext : ∀ a, (next a).hello? = some hello ∧ (next a).sessionState? = some .active)
    : (answer hello r next).1.hello? = some hello
        ∧ (answer hello r next).1.sessionState? = some .active := by
  obtain ⟨_ | a, _⟩ := r
  . exact ⟨rfl, rfl⟩
  . exact hnext a

theorem runServe_stays (hello : ClientHello) (s : ServerState F) (nowNs : Nat)
    (results : WebRtcResults) (message : ControlMessage)
    : (runServe hello s nowNs results message).1.hello? = some hello
        ∧ (runServe hello s nowNs results message).1.sessionState? = some .active := by
  cases message with
  | videoSignal signal =>
    simp only [runServe]
    split
    . apply answer_stays
      intro sdp
      cases sdp <;> exact ⟨rfl, rfl⟩
    . exact answer_stays fun _ => ⟨rfl, rfl⟩
  | setMode => exact answer_stays fun _ => ⟨rfl, rfl⟩
  | resetSceneToBaseline => exact answer_stays fun _ => ⟨rfl, rfl⟩
  | commitSceneBaseline => exact answer_stays fun _ => ⟨rfl, rfl⟩
  | commitObjectBaseline => exact answer_stays fun _ => ⟨rfl, rfl⟩
  | createVideoOffer => exact answer_stays fun _ => ⟨rfl, rfl⟩
  | drainSignals => exact answer_stays fun _ => ⟨rfl, rfl⟩
  | _ => exact ⟨rfl, rfl⟩

theorem serveCall?_sessionOf? {hello : ClientHello} {nowNs : Nat} {results : WebRtcResults}
    {message : ControlMessage} {op : ServerOp F}
    (h : serveCall? hello nowNs results message = some op)
    : op.sessionOf? = none := by
  cases message with
  | videoSignal signal =>
    simp only [serveCall?] at h
    split at h <;> cases h <;> rfl
  | _ =>
    simp only [serveCall?, Option.some.injEq, reduceCtorEq] at h
    try subst h; rfl

def deviceId? (phase : PeerPhase F) : Option Uuid := phase.hello?.map ClientHello.deviceId

def beforeDiscovered : PeerPhase F → Bool
  | .openControl | .readServerHello | .sendServerHello _ | .recvClientHello | .discover _ => true
  | _ => false

def pastRegister (phase : PeerPhase F) : Bool :=
  phase.sessionState? = some .registered || phase.sessionState? = some .sceneSynced
    || phase.sessionState? = some .active

/--
The steps of a handler that do not leave it by a `?` after `discovered`: the greeting is one that
`hello_exchanged` takes, a registration follows it, and the replies that are sent with a `?` go out.
-/
def Orderly : PeerPhase F → PeerEvent F → Prop
  | .exchangeHello hello, .run _ _ _ => (ServerState.checkHello hello).isOk = true
  | .recvRegister _, .received (.ok (.registerRequest _)) => True
  | .recvRegister _, .received _ => False
  | .sendAccepted _ _, .transport result => result.isOk = true
  | .sendRejected _ _, .transport result => result.isOk = true
  | .sendPong _, .transport result => result.isOk = true
  | .reply _ _, .transport result => result.isOk = true
  | _, _ => True

instance (phase : PeerPhase F) (e : PeerEvent F) : Decidable (phase.Orderly e) := by
  unfold Orderly
  split <;> infer_instance

theorem ne_closed_of_sessionState? {phase : PeerPhase F} {state : SessionState}
    (h : phase.sessionState? = some state)
    : state ≠ .closed := by
  rintro rfl
  cases phase <;> cases h

theorem step_stays {phase : PeerPhase F} {s : ServerState F} {e : PeerEvent F} {hello : ClientHello}
    {state : SessionState} (hhello : phase.hello? = some hello)
    (hstate : phase.sessionState? = some state) (hcall : ∀ nowNs fresh results, e ≠ .run nowNs fresh results)
    : (Orderly phase e
        ∧ (phase.step s e).1.hello? = some hello ∧ (phase.step s e).1.sessionState? = some state)
        ∨
      (¬ Orderly phase e ∧ ∃ result, (phase.step s e).1 = .done result) := by
  cases e with
  | run nowNs fresh results => exact absurd rfl (hcall nowNs fresh results)
  | transport result =>
    cases phase <;> cases result <;>
      simp_all [step, afterTransport, Orderly, hello?, sessionState?, Except.isOk, Except.toBool]
  | received message =>
    cases phase with
    | select hello' =>
      cases hhello
      cases hstate
      cases message with
      | error => exact .inl ⟨trivial, rfl, rfl⟩
      | ok message => exact .inl ⟨trivial, dispatch_stays hello message⟩
    | recvRegister hello' =>
      cases hhello
      cases hstate
      cases message with
      | error => exact .inr ⟨id, _, rfl⟩
      | ok message =>
        cases message with
        | registerRequest req => exact .inl ⟨trivial, rfl, rfl⟩
        | _ => exact .inr ⟨id, _, rfl⟩
    | recvClientHello => cases hhello
    | _ => exact .inl ⟨trivial, hhello, hstate⟩
  | datagram datagram =>
    cases phase with
    | select hello' =>
      cases hhello
      cases hstate
      cases datagram <;> exact .inl ⟨trivial, rfl, rfl⟩
    | _ => exact .inl ⟨trivial, hhello, hstate⟩

theorem proceed_cases {α : Type} (r : Except ServerError α × ServerState F)
    (next : α → PeerPhase F)
    : (∃ result, (proceed r next).1 = .done result) ∨ (∃ a, (proceed r next).1 = next a) := by
  obtain ⟨e | a, _⟩ := r
  . exact .inl ⟨_, rfl⟩
  . exact .inr ⟨a, rfl⟩

theorem pastRegister_proceed {α : Type} {r : Except ServerError α × ServerState F}
    {next : PeerPhase F} (h : next.pastRegister = false)
    : (proceed r fun _ => next).1.pastRegister = false := by
  rcases proceed_cases r fun _ => next with ⟨result, hdone⟩ | ⟨-, hnext⟩
  . rw [hdone]
    rfl
  . rw [hnext, h]

theorem step_keeps_session {phase : PeerPhase F} {hello : ClientHello} {state : SessionState}
    (hhello : phase.hello? = some hello) (hstate : phase.sessionState? = some state)
    (s : ServerState F) (e : PeerEvent F)
    : (∃ result, (phase.step s e).1 = .done result)
        ∨
      ((phase.step s e).1.hello? = some hello
        ∧ ∃ state', (phase.step s e).1.sessionState? = some state') := by
  rcases e.run_or_waits with ⟨nowNs, fresh, results, rfl⟩ | hwait
  . have hproceed {next : PeerPhase F} {state' : SessionState}
        {r : Except ServerError Unit × ServerState F} (hnext : next.hello? = some hello)
        (hstate' : next.sessionState? = some state')
        : (∃ result, (proceed r fun _ => next).1 = .done result)
            ∨
          ((proceed r fun _ => next).1.hello? = some hello
            ∧ ∃ state', (proceed r fun _ => next).1.sessionState? = some state') := by
      rcases proceed_cases r fun _ => next with hdone | ⟨-, h⟩
      . exact .inl hdone
      . rw [h]
        exact .inr ⟨hnext, state', hstate'⟩
    cases phase with
    | discover => cases hstate
    | transportConnect => cases hhello; exact hproceed rfl rfl
    | exchangeHello => cases hhello; exact hproceed rfl rfl
    | authenticate => cases hhello; exact hproceed rfl rfl
    | syncScene => cases hhello; exact hproceed rfl rfl
    | activate => cases hhello; exact hproceed rfl rfl
    | refuse => exact .inl ⟨_, rfl⟩
    | teardown => exact .inl ⟨_, rfl⟩
    | register hello' req =>
      cases hhello
      simp only [step, runCall]
      split <;> exact .inr ⟨rfl, _, rfl⟩
    | serve hello' message =>
      cases hhello
      obtain ⟨hhello', hstate'⟩ := runServe_stays hello s nowNs results message
      exact .inr ⟨hhello', _, hstate'⟩
    | _ => exact .inr ⟨hhello, _, hstate⟩
  . rcases step_stays hhello hstate hwait with
      ⟨-, hhello', hstate'⟩ | ⟨-, hdone⟩
    . exact .inr ⟨hhello', state, hstate'⟩
    . exact .inl hdone

theorem beforeDiscovered_of_sessionState? {phase : PeerPhase F} {state : SessionState}
    (h : phase.sessionState? = some state)
    : phase.beforeDiscovered = false := by
  cases phase <;> first | rfl | cases h

theorem done_or_session {phase : PeerPhase F} (h : phase.beforeDiscovered = false)
    : (∃ result, phase = .done result)
        ∨
      (∃ hello state, phase.hello? = some hello ∧ phase.sessionState? = some state) := by
  cases phase <;> first | exact .inl ⟨_, rfl⟩ | exact .inr ⟨_, _, rfl, rfl⟩ | cases h

theorem beforeDiscovered_step {phase : PeerPhase F} (h : phase.beforeDiscovered = false)
    (s : ServerState F) (e : PeerEvent F)
    : (phase.step s e).1.beforeDiscovered = false := by
  rcases done_or_session h with ⟨result, rfl⟩ | ⟨hello, state, hhello, hstate⟩
  . cases e <;> rfl
  . rcases step_keeps_session hhello hstate s e with ⟨result, hdone⟩ | ⟨-, state', hstate'⟩
    . rw [hdone]
      rfl
    . exact beforeDiscovered_of_sessionState? hstate'

theorem call?_ne_discovered {phase : PeerPhase F} {e : PeerEvent F} {op : ServerOp F}
    (h : phase.beforeDiscovered = false) (hop : phase.call? e = some op) (deviceId : Uuid)
    (deviceName : String)
    : op ≠ .discovered deviceId deviceName := by
  rintro rfl
  cases e with
  | run nowNs fresh results =>
    cases phase with
    | discover => cases h
    | serve hello message => cases serveCall?_sessionOf? hop
    | _ => cases hop
  | _ => cases phase <;> cases hop

theorem pastRegister_of_activate {phase : PeerPhase F} {e : PeerEvent F} {deviceId : Uuid}
    (h : phase.call? e = some (.activate deviceId))
    : phase.pastRegister = true := by
  cases e with
  | run nowNs fresh results =>
    cases phase with
    | activate => rfl
    | serve hello message => cases serveCall?_sessionOf? h
    | _ => cases h
  | _ => cases phase <;> cases h

theorem pastRegister_step_of_before {phase : PeerPhase F} (h : phase.beforeDiscovered = true)
    (s : ServerState F) (e : PeerEvent F)
    : (phase.step s e).1.pastRegister = false := by
  cases phase with
  | openControl =>
    cases e with
    | transport result => cases result <;> rfl
    | _ => rfl
  | readServerHello => cases e <;> rfl
  | sendServerHello =>
    cases e with
    | transport result => cases result <;> rfl
    | _ => rfl
  | recvClientHello =>
    cases e with
    | received message =>
      cases message with
      | error => rfl
      | ok message => cases message <;> rfl
    | _ => rfl
  | discover =>
    cases e with
    | run => exact pastRegister_proceed rfl
    | _ => rfl
  | _ => cases h

end PeerPhase

namespace Peer

theorem joinedAt_of_sessionState? {phase : PeerPhase F} {state : SessionState}
    (h : phase.sessionState? = some state) (joined : Option Uuid) (next : PeerPhase F)
    : joinedAt joined phase next = joined := by
  cases phase with
  | discover => cases h
  | _ => rfl

theorem acceptedAt_of_sessionState? {phase next : PeerPhase F}
    (h : next.sessionState? = phase.sessionState?) (accepted : Option RegisterAccepted)
    : acceptedAt accepted phase next = accepted := by
  unfold acceptedAt
  split
  . cases h
  . rfl

end Peer

end MotionStage
