import MotionStage.Server.SessionStep

/-!
This module contains `handle_quic_peer`, the task that serves one connection, as a machine. A phase
is a point of the handler at which it waits, for the transport or for the lock on the server state,
and an event is what it waits for. Several handlers share one server, so their steps interleave.
-/

namespace MotionStage

variable {F : Floats}

def ServerState.serverHello (self : ServerState F) : ServerHello where
  protocolMajor := protocolMajor
  protocolMinor := protocolMinor
  features := self.config.supportedFeatures
  securityMode := self.config.securityMode.asStr

def mapServerErrorToReject : ServerError → RejectCode
  | .protocol _ => .versionMismatch
  | .sessionNotFound _ => .roleDenied
  | .registerRejected rejected => rejected.code
  | .video _ | .signaling _ => .roleDenied
  | .core _ | .recording _ | .webRtc _ => .serverBusy
  | .discovery _ | .runtime _ => .serverBusy

/--
Where a handler is. From `discover` on it holds the `ClientHello` of its peer.
-/
inductive PeerPhase (F : Floats) where
  | openControl
  | readServerHello
  | sendServerHello (hello : ServerHello)
  | recvClientHello
  | discover (hello : ClientHello)
  | transportConnect (hello : ClientHello)
  | exchangeHello (hello : ClientHello)
  | authenticate (hello : ClientHello)
  | recvRegister (hello : ClientHello)
  | register (hello : ClientHello) (req : RegisterRequest)
  | sendAccepted (hello : ClientHello) (accepted : RegisterAccepted)
  | sendRejected (hello : ClientHello) (rejected : RegisterRejected)
  /-- close the session, then return the result -/
  | refuse (hello : ClientHello) (result : Except ServerError Unit)
  | syncScene (hello : ClientHello)
  | activate (hello : ClientHello)
  /-- the `select!` of the active loop -/
  | select (hello : ClientHello)
  | sendPong (hello : ClientHello)
  | readMode (hello : ClientHello)
  /-- the server call that a control message asks for -/
  | serve (hello : ClientHello) (message : ControlMessage)
  /-- a reply whose failure ends the handler at once -/
  | reply (hello : ClientHello) (message : ControlMessage)
  /-- `send_protocol_error` -/
  | sendError (hello : ClientHello) (code : RejectCode) (reason : String)
  | ingest (hello : ClientHello) (datagram : ServerState.MotionDatagram F)
  /-- close the session, then break out of the active loop -/
  | teardown (hello : ClientHello)
  | done (result : Except ServerError Unit)

/--
What a handler waits for. `run` is the turn of the handler on the server state, with the time, the
identifier and the WebRTC results that the call draws.
-/
inductive PeerEvent (F : Floats) where
  | transport (result : Except String Unit)
  | received (message : Except String ControlMessage)
  | datagram (datagram : Except String (ServerState.MotionDatagram F))
  | run (nowNs : Nat) (fresh : Uuid) (results : WebRtcResults)

namespace PeerPhase

def hello? : PeerPhase F → Option ClientHello
  | .openControl | .readServerHello | .sendServerHello _ | .recvClientHello | .done _ => none
  | .discover hello | .transportConnect hello | .exchangeHello hello | .authenticate hello
  | .recvRegister hello | .register hello _ | .sendAccepted hello _ | .sendRejected hello _
  | .refuse hello _ | .syncScene hello | .activate hello | .select hello | .sendPong hello
  | .readMode hello | .serve hello _ | .reply hello _ | .sendError hello _ _ | .ingest hello _
  | .teardown hello => some hello

def sending? : PeerPhase F → Option ControlMessage
  | .sendServerHello hello => some (.serverHello hello)
  | .sendAccepted _ accepted => some (.registerAccepted accepted)
  | .sendRejected _ rejected => some (.registerRejected rejected)
  | .sendPong _ => some .pong
  | .reply _ message => some message
  | .sendError _ code reason => some (.error code reason)
  | _ => none

def afterTransport : PeerPhase F → Except String Unit → PeerPhase F
  | .openControl, .ok () => .readServerHello
  | .openControl, .error e => .done (.error (.runtime e))
  | .sendServerHello _, .ok () => .recvClientHello
  | .sendServerHello _, .error e => .done (.error (.runtime e))
  | .sendAccepted hello _, .ok () => .syncScene hello
  | .sendAccepted _ _, .error e => .done (.error (.runtime e))
  | .sendRejected hello _, .ok () => .refuse hello (.ok ())
  | .sendRejected _ _, .error e => .done (.error (.runtime e))
  | .sendPong hello, .ok () => .readMode hello
  | .sendPong _, .error e => .done (.error (.runtime e))
  | .reply hello _, .ok () => .select hello
  | .reply _ _, .error e => .done (.error (.runtime e))
  | .sendError hello _ _, .ok () => .select hello
  | .sendError hello _ _, .error _ => .teardown hello
  | phase, _ => phase

def asOperator (hello : ClientHello) (reason : String) (message : ControlMessage) : PeerPhase F :=
  if !hello.roles.contains .operator then
    .sendError hello .roleDenied reason
  else
    .serve hello message

def dispatch (hello : ClientHello) : ControlMessage → PeerPhase F
  | .ping => .sendPong hello
  | .pong => .select hello
  | .setMode mode => asOperator hello "operator role is required to change mode" (.setMode mode)
  | .resetSceneToBaseline sceneId =>
    asOperator hello "operator role is required to reset baseline" (.resetSceneToBaseline sceneId)
  | .commitSceneBaseline sceneId =>
    asOperator hello "operator role is required to commit scene baseline"
      (.commitSceneBaseline sceneId)
  | .commitObjectBaseline sceneId objectId =>
    asOperator hello "operator role is required to commit object baseline"
      (.commitObjectBaseline sceneId objectId)
  | .createVideoOffer streamId trackId => .serve hello (.createVideoOffer streamId trackId)
  | .videoSignal signal =>
    if signal.fromDevice ≠ hello.deviceId then
      .sendError hello .roleDenied "signal from_device does not match active session"
    else
      .serve hello (.videoSignal signal)
  | .drainSignals => .serve hello .drainSignals
  | .signalsBatch _ | .videoOffer _ | .modeState _ | .baselineActionApplied _ _ | .error _ _
  | .serverHello _ | .clientHello _ | .registerRequest _ | .registerAccepted _
  | .registerRejected _ =>
    .sendError hello .roleDenied "unsupported control message in active loop"

def afterReceived : PeerPhase F → Except String ControlMessage → PeerPhase F
  | .recvClientHello, .ok (.clientHello hello) => .discover hello
  | .recvClientHello, .ok _ =>
    .done (.error (.runtime "expected ClientHello as first control message"))
  | .recvClientHello, .error e => .done (.error (.runtime e))
  | .recvRegister hello, .ok (.registerRequest req) => .register hello req
  | .recvRegister _, .ok _ =>
    .done (.error (.runtime "expected RegisterRequest after ClientHello"))
  | .recvRegister _, .error e => .done (.error (.runtime e))
  | .select hello, .ok message => dispatch hello message
  | .select hello, .error _ => .teardown hello
  | phase, _ => phase

def afterDatagram : PeerPhase F → Except String (ServerState.MotionDatagram F) → PeerPhase F
  | .select hello, .ok datagram => .ingest hello datagram
  | .select hello, .error _ => .teardown hello
  | phase, _ => phase

def proceed {α : Type} (r : Except ServerError α × ServerState F) (next : α → PeerPhase F)
    : PeerPhase F × ServerState F :=
  match r with
  | (.ok a, s) => (next a, s)
  | (.error e, s) => (.done (.error e), s)

def answer {α : Type} (hello : ClientHello) (r : Except ServerError α × ServerState F)
    (next : α → PeerPhase F) : PeerPhase F × ServerState F :=
  match r with
  | (.ok a, s) => (next a, s)
  | (.error e, s) => (.sendError hello (mapServerErrorToReject e) e.display, s)

def runServe (hello : ClientHello) (s : ServerState F) (nowNs : Nat) (results : WebRtcResults)
    : ControlMessage → PeerPhase F × ServerState F
  | .setMode mode => answer hello (s.setMode mode nowNs) fun _ => .readMode hello
  | .resetSceneToBaseline sceneId =>
    answer hello (s.resetSceneToBaseline sceneId) fun changed =>
      .reply hello (.baselineActionApplied .resetScene changed)
  | .commitSceneBaseline sceneId =>
    answer hello (s.commitSceneBaseline sceneId) fun changed =>
      .reply hello (.baselineActionApplied .commitScene changed)
  | .commitObjectBaseline sceneId objectId =>
    answer hello (s.commitObjectBaseline sceneId objectId) fun changed =>
      .reply hello (.baselineActionApplied .commitObject changed)
  | .createVideoOffer _ _ =>
    answer hello (s.createVideoOffer hello.deviceId results) fun offer =>
      .reply hello (.videoOffer offer)
  | .videoSignal signal =>
    if signal.toDevice = hello.deviceId then
      answer hello (s.handleVideoSignal hello.deviceId signal.payload results) fun
        | some sdp => .reply hello (.videoOffer sdp)
        | none => .select hello
    else
      answer hello (s.pushSignalingMessage signal) fun _ => .select hello
  | .drainSignals =>
    answer hello (s.drainSignalingMessages hello.deviceId) fun messages =>
      .reply hello (.signalsBatch messages)
  | _ => (.select hello, s)

def runCall (s : ServerState F) (nowNs : Nat) (fresh : Uuid) (results : WebRtcResults)
    : PeerPhase F → PeerPhase F × ServerState F
  | .readServerHello => (.sendServerHello s.serverHello, s)
  | .discover hello =>
    proceed (s.discovered hello.deviceId hello.deviceName) fun _ => .transportConnect hello
  | .transportConnect hello =>
    proceed (s.transportConnected hello.deviceId) fun _ => .exchangeHello hello
  | .exchangeHello hello => proceed (s.helloExchanged hello) fun _ => .authenticate hello
  | .authenticate hello => proceed (s.authenticate hello.deviceId) fun _ => .recvRegister hello
  | .register hello req =>
    match s.register hello.deviceId req fresh with
    | (.ok accepted, s) => (.sendAccepted hello accepted, s)
    | (.error (.registerRejected rejected), s) => (.sendRejected hello rejected, s)
    | (.error e, s) => (.refuse hello (.error e), s)
  | .refuse hello result => (.done result, (s.closeSession hello.deviceId nowNs).2)
  | .syncScene hello => proceed (s.sceneSynced hello.deviceId) fun _ => .activate hello
  | .activate hello => proceed (s.activate hello.deviceId) fun _ => .select hello
  | .readMode hello => (.reply hello (.modeState s.runtime.mode), s)
  | .serve hello message => runServe hello s nowNs results message
  | .ingest hello datagram => (.select hello, (s.ingestMotionDatagram datagram).2)
  | .teardown hello => (.done (.ok ()), (s.closeSession hello.deviceId nowNs).2)
  | phase => (phase, s)

/--
One step of the handler. An event that the handler does not wait for leaves everything as it is.
-/
def step (phase : PeerPhase F) (s : ServerState F) : PeerEvent F → PeerPhase F × ServerState F
  | .transport result => (phase.afterTransport result, s)
  | .received message => (phase.afterReceived message, s)
  | .datagram datagram => (phase.afterDatagram datagram, s)
  | .run nowNs fresh results => runCall s nowNs fresh results phase

end PeerPhase

/--
A handler with its history: the messages it has sent, the device whose `discovered` call returned
`Ok`, and what its `register` call returned.
-/
structure Peer (F : Floats) where
  phase : PeerPhase F
  sent : List ControlMessage
  joined : Option Uuid
  accepted : Option RegisterAccepted

namespace Peer

def new : Peer F := ⟨.openControl, [], none, none⟩

def joinedAt (joined : Option Uuid) : PeerPhase F → PeerPhase F → Option Uuid
  | .discover _, .transportConnect hello => some hello.deviceId
  | _, _ => joined

def acceptedAt (accepted : Option RegisterAccepted)
    : PeerPhase F → PeerPhase F → Option RegisterAccepted
  | .register _ _, .sendAccepted _ accepted => some accepted
  | _, _ => accepted

def step (p : Peer F) (s : ServerState F) (e : PeerEvent F) : Peer F × ServerState F :=
  let next := p.phase.step s e
  ({ phase := next.1
     sent :=
      match e with
      | .transport (.ok ()) => p.sent ++ p.phase.sending?.toList
      | _ => p.sent
     joined := joinedAt p.joined p.phase next.1
     accepted := acceptedAt p.accepted p.phase next.1 },
    next.2)

end Peer

def WebRtcResults.unavailable : WebRtcResults :=
  ⟨.error "no WebRTC", .error "no WebRTC", .error "no WebRTC", .error "no WebRTC"⟩

namespace PeerEvent

def turn (nowNs : Nat) (fresh : Uuid) : PeerEvent F := .run nowNs fresh .unavailable

def panelGreets (deviceId : Uuid) (deviceName : String) : List (PeerEvent F) :=
  [.transport (.ok ()), .turn 0 0, .transport (.ok ()),
    .received (.ok (.clientHello (ServerState.panelHello deviceId deviceName))),
    .turn 0 0, .turn 0 0, .turn 0 0, .turn 0 0]

def panelRegisters (sessionId : Uuid) : List (PeerEvent F) :=
  [.received (.ok (.registerRequest ⟨none, none⟩)), .turn 0 sessionId, .transport (.ok ()),
    .turn 0 0, .turn 0 0]

end PeerEvent

end MotionStage
