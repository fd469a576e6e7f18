import MotionStage.Data.Progress
import MotionStage.Server.ControlLoop

/-!
This module contains the handshake with both of its parties: a client that connects, the handler of
its connection, and the control stream between the two as a queue of messages in each direction.
The simulator and the Swift SDK connect in the same way, they differ in what they send.
-/

namespace MotionStage

variable {F : Floats}

/--
What `connect_simulated_client` sends.
-/
def Simulate.clientHello (sourceDevice : Uuid) (outputAttribute : String) : ClientHello where
  protocolMajor := protocolMajor
  protocolMinor := protocolMinor
  deviceId := sourceDevice
  deviceName := "simulated-motion-device"
  roles := [.motionSource, .operator]
  features := [.motion, .mapping, .recording]
  advertisedAttributes := [outputAttribute]

def Simulate.registerRequest : RegisterRequest := ⟨none, none⟩

/--
What `connect` of the Swift SDK sends.
-/
def SwiftSdk.clientHello (deviceId : Uuid) (deviceName sourceOutput : String) : ClientHello where
  protocolMajor := protocolMajor
  protocolMinor := protocolMinor
  deviceId := deviceId
  deviceName := deviceName
  roles := [.motionSource, .operator]
  features := [.motion, .mapping, .recording]
  advertisedAttributes := [sourceOutput]

def SwiftSdk.registerRequest (pairingToken apiKey : Option String) : RegisterRequest :=
  ⟨pairingToken, apiKey⟩

inductive ConnectingClient where
  | simulated (sourceDevice : Uuid) (outputAttribute : String)
  | swift (deviceId : Uuid) (deviceName sourceOutput : String) (pairingToken apiKey : Option String)
  deriving DecidableEq, Repr

namespace ConnectingClient

def hello : ConnectingClient → ClientHello
  | simulated sourceDevice outputAttribute => Simulate.clientHello sourceDevice outputAttribute
  | swift deviceId deviceName sourceOutput _ _ =>
    SwiftSdk.clientHello deviceId deviceName sourceOutput

def request : ConnectingClient → RegisterRequest
  | simulated _ _ => Simulate.registerRequest
  | swift _ _ _ pairingToken apiKey => SwiftSdk.registerRequest pairingToken apiKey

def script (me : ConnectingClient) : List ControlMessage :=
  [.clientHello me.hello, .registerRequest me.request]

end ConnectingClient

inductive ConnectError where
  /-- the connection has failed, or the client has waited for too long -/
  | control (e : String)
  | expectedServerHello (other : ControlMessage)
  | rejected (rejected : RegisterRejected)
  | expectedRegistration (other : ControlMessage)
  deriving DecidableEq, Repr

/--
Where the client is. A connection that has been made yields the identifier of its session.
-/
inductive ConnectPhase where
  | acceptControl
  | recvServerHello
  | sendClientHello
  | sendRegisterRequest
  | recvRegistration
  | done (result : Except ConnectError Uuid)
  deriving DecidableEq

namespace ConnectPhase

def isDone : ConnectPhase → Bool
  | .done _ => true
  | _ => false

/--
The two matches of the client on what it receives.
-/
def afterMessage : ConnectPhase → ControlMessage → ConnectPhase
  | .recvServerHello, .serverHello _ => .sendClientHello
  | .recvServerHello, other => .done (.error (.expectedServerHello other))
  | .recvRegistration, .registerAccepted accepted => .done (.ok accepted.sessionId)
  | .recvRegistration, .registerRejected rejected => .done (.error (.rejected rejected))
  | .recvRegistration, other => .done (.error (.expectedRegistration other))
  | phase, _ => phase

def afterFailure : ConnectPhase → String → ConnectPhase
  | .done result, _ => .done result
  | _, e => .done (.error (.control e))

def rank : ConnectPhase → Nat
  | .acceptControl => 5
  | .recvServerHello => 4
  | .sendClientHello => 3
  | .sendRegisterRequest => 2
  | .recvRegistration => 1
  | .done _ => 0

end ConnectPhase

namespace PeerPhase

def listening : PeerPhase F → Bool
  | .recvClientHello | .recvRegister _ => true
  | _ => false

def rank : PeerPhase F → Nat
  | .openControl => 13
  | .readServerHello => 12
  | .sendServerHello _ => 11
  | .recvClientHello => 10
  | .discover _ => 9
  | .transportConnect _ => 8
  | .exchangeHello _ => 7
  | .authenticate _ => 6
  | .recvRegister _ => 5
  | .register _ _ => 4
  | .sendAccepted _ _ => 3
  | .sendRejected _ _ => 2
  | .refuse _ _ => 1
  | .syncScene _ => 2
  | .activate _ => 1
  | _ => 0

end PeerPhase

structure Handshake (F : Floats) where
  connection : Connection F
  client : ConnectPhase
  toServer : List ControlMessage
  toClient : List ControlMessage

inductive HandshakeEvent (F : Floats) where
  /-- the handler has opened the stream or sent a message, or it has failed to -/
  | transport (result : Except String Unit)
  /-- the handler reads the next message -/
  | receive
  /-- the read of the handler fails -/
  | lose (e : String)
  | run (nowNs : Nat) (fresh : Uuid) (results : WebRtcResults)
  /-- the client goes on -/
  | advance
  /-- the client stops to wait -/
  | giveUp (e : String)
  /-- something else calls the server -/
  | server (op : ServerOp F)

namespace Handshake

def start (s : ServerState F) : Handshake F := ⟨.new s, .acceptControl, [], []⟩

def phase (l : Handshake F) : PeerPhase F := l.connection.peer.phase

def sent (l : Handshake F) : List ControlMessage := l.connection.peer.sent

def accepted (l : Handshake F) : Option RegisterAccepted := l.connection.peer.accepted

def react (l : Handshake F) (e : PeerEvent F) : Handshake F :=
  { l with connection := l.connection.react e }

/--
The client sees the control stream as soon as something has been sent on it.
-/
def advance (me : ConnectingClient) (l : Handshake F) : Handshake F :=
  match l.client, l.toClient with
  | .acceptControl, _ :: _ => { l with client := .recvServerHello }
  | .recvServerHello, message :: toClient =>
    { l with client := ConnectPhase.recvServerHello.afterMessage message, toClient := toClient }
  | .sendClientHello, _ =>
    { l with
      client := .sendRegisterRequest
      toServer := l.toServer ++ [.clientHello me.hello] }
  | .sendRegisterRequest, _ =>
    { l with
      client := .recvRegistration
      toServer := l.toServer ++ [.registerRequest me.request] }
  | .recvRegistration, message :: toClient =>
    { l with client := ConnectPhase.recvRegistration.afterMessage message, toClient := toClient }
  | _, _ => l

def step (me : ConnectingClient) (l : Handshake F) : HandshakeEvent F → Handshake F
  | .transport (.ok ()) =>
    { l.react (.transport (.ok ())) with toClient := l.toClient ++ l.phase.sending?.toList }
  | .transport (.error e) => l.react (.transport (.error e))
  | .receive =>
    match l.phase.listening, l.toServer with
    | true, message :: toServer => { l.react (.received (.ok message)) with toServer := toServer }
    | _, _ => l
  | .lose e => if l.phase.listening then l.react (.received (.error e)) else l
  | .run nowNs fresh results => l.react (.run nowNs fresh results)
  | .advance => l.advance me
  | .giveUp e => { l with client := l.client.afterFailure e }
  | .server op => { l with connection := l.connection.step (.server op) }

/--
The messages that a handler sends in a handshake, next to the registration that it has granted.
-/
inductive Conversation : List ControlMessage → Option RegisterAccepted → Prop where
  | silent : Conversation [] none
  | greeted (hello) : Conversation [.serverHello hello] none
  | granted (hello accepted) : Conversation [.serverHello hello] (some accepted)
  | accepted (hello accepted)
    : Conversation [.serverHello hello, .registerAccepted accepted] (some accepted)
  | rejected (hello rejected)
    : Conversation [.serverHello hello, .registerRejected rejected] none

/--
Where the handler is once it has taken `taken` messages, with what it has sent and granted.
-/
inductive Handles (me : ConnectingClient)
    : PeerPhase F → Nat → List ControlMessage → Option RegisterAccepted → Prop where
  | openControl : Handles me .openControl 0 [] none
  | readServerHello : Handles me .readServerHello 0 [] none
  | sendServerHello (hello) : Handles me (.sendServerHello hello) 0 [] none
  | recvClientHello (hello) : Handles me .recvClientHello 0 [.serverHello hello] none
  | discover (hello) : Handles me (.discover me.hello) 1 [.serverHello hello] none
  | transportConnect (hello) : Handles me (.transportConnect me.hello) 1 [.serverHello hello] none
  | exchangeHello (hello) : Handles me (.exchangeHello me.hello) 1 [.serverHello hello] none
  | authenticate (hello) : Handles me (.authenticate me.hello) 1 [.serverHello hello] none
  | recvRegister (hello) : Handles me (.recvRegister me.hello) 1 [.serverHello hello] none
  | register (hello) : Handles me (.register me.hello me.request) 2 [.serverHello hello] none
  | sendAccepted (hello accepted)
    : Handles me (.sendAccepted me.hello accepted) 2 [.serverHello hello] (some accepted)
  | sendRejected (hello rejected)
    : Handles me (.sendRejected me.hello rejected) 2 [.serverHello hello] none
  | refuse (hello e) : Handles me (.refuse me.hello (.error e)) 2 [.serverHello hello] none
  | refused (hello rejected)
    : Handles me (.refuse me.hello (.ok ())) 2 [.serverHello hello, .registerRejected rejected] none
  | syncScene (hello accepted)
    : Handles me (.syncScene me.hello) 2 [.serverHello hello, .registerAccepted accepted]
        (some accepted)
  | activate (hello accepted)
    : Handles me (.activate me.hello) 2 [.serverHello hello, .registerAccepted accepted]
        (some accepted)
  | select (hello accepted)
    : Handles me (.select me.hello) 2 [.serverHello hello, .registerAccepted accepted]
        (some accepted)
  | done (result taken sent accepted) (htaken : taken ≤ 2) (h : Conversation sent accepted)
    : Handles me (.done result) taken sent accepted

/--
Where the client is once it has sent `posted` messages and read `read` of those in `sent`.
-/
inductive Follows (sent : List ControlMessage) : ConnectPhase → Nat → Nat → Prop where
  | acceptControl : Follows sent .acceptControl 0 0
  | recvServerHello : Follows sent .recvServerHello 0 0
  | sendClientHello : Follows sent .sendClientHello 0 1
  | sendRegisterRequest : Follows sent .sendRegisterRequest 1 1
  | recvRegistration : Follows sent .recvRegistration 2 1
  | connected (accepted) (h : sent[1]? = some (.registerAccepted accepted))
    : Follows sent (.done (.ok accepted.sessionId)) 2 2
  | rejected (rejected) (h : sent[1]? = some (.registerRejected rejected))
    : Follows sent (.done (.error (.rejected rejected))) 2 2
  | failed (e posted read) (hposted : posted ≤ 2)
    : Follows sent (.done (.error (.control e))) posted read

/--
The queues hold what one party has sent and the other has not taken yet.
-/
structure Sound (me : ConnectingClient) (l : Handshake F) (taken posted read : Nat) : Prop where
  handler : Handles me l.phase taken l.sent l.accepted
  client : Follows l.sent l.client posted read
  taken_le : taken ≤ posted
  read_le : read ≤ l.sent.length
  toServer : l.toServer = (me.script.take posted).drop taken
  toClient : l.toClient = l.sent.drop read

section Parties

variable {me : ConnectingClient} {phase : PeerPhase F} {taken posted read : Nat}
  {sent : List ControlMessage} {accepted : Option RegisterAccepted} {client : ConnectPhase}

theorem Conversation.head {message : ControlMessage} {later : List ControlMessage}
    (h : Conversation sent accepted) (hsent : sent = message :: later)
    : ∃ hello, message = .serverHello hello := by
  cases h <;> cases hsent <;> exact ⟨_, rfl⟩

theorem Conversation.second {message : ControlMessage} {later : List ControlMessage}
    (h : Conversation sent accepted) (hsent : sent.drop 1 = message :: later)
    : (∃ granted, message = .registerAccepted granted ∧ accepted = some granted)
        ∨
      (∃ rejected, message = .registerRejected rejected ∧ accepted = none) := by
  cases h with
  | accepted hello granted => cases hsent; exact .inl ⟨granted, rfl, rfl⟩
  | rejected hello rejected => cases hsent; exact .inr ⟨rejected, rfl, rfl⟩
  | _ => cases hsent

theorem Handles.conversation (h : Handles me phase taken sent accepted)
    : Conversation sent accepted := by
  cases h with
  | done result taken sent accepted htaken h => exact h
  | _ => constructor

theorem Handles.taken_le (h : Handles me phase taken sent accepted) : taken ≤ 2 := by
  cases h with
  | done result taken sent accepted htaken h => exact htaken
  | _ => decide

theorem Handles.taken_of_recvClientHello (h : Handles (F := F) me .recvClientHello taken sent accepted)
    : taken = 0 := by
  cases h
  rfl

theorem Handles.taken_of_recvRegister {hello : ClientHello}
    (h : Handles (F := F) me (.recvRegister hello) taken sent accepted)
    : hello = me.hello ∧ taken = 1 := by
  cases h
  exact ⟨rfl, rfl⟩

theorem Handles.proceed {α : Type} {next : PeerPhase F} (h : Handles me next taken sent accepted)
    (r : Except ServerError α × ServerState F)
    : Handles me (PeerPhase.proceed r fun _ => next).1 taken sent accepted := by
  rcases PeerPhase.proceed_cases r fun _ => next with ⟨result, hdone⟩ | ⟨-, hnext⟩
  . rw [hdone]
    exact .done result taken sent accepted h.taken_le h.conversation
  . rw [hnext]
    exact h

theorem handles_run {p : Peer F} (h : Handles me p.phase taken p.sent p.accepted)
    (s : ServerState F) (nowNs : Nat) (fresh : Uuid) (results : WebRtcResults)
    : Handles me (p.step s (.run nowNs fresh results)).1.phase taken p.sent
        (p.step s (.run nowNs fresh results)).1.accepted := by
  obtain ⟨phase, sent, joined, accepted⟩ := p
  simp only [Peer.step] at h ⊢
  cases h with
  | openControl => exact .openControl
  | readServerHello => exact .sendServerHello _
  | sendServerHello hello => exact .sendServerHello hello
  | recvClientHello hello => exact .recvClientHello hello
  | discover hello => exact (Handles.transportConnect hello).proceed _
  | transportConnect hello => exact (Handles.exchangeHello hello).proceed _
  | exchangeHello hello => exact (Handles.authenticate hello).proceed _
  | authenticate hello => exact (Handles.recvRegister hello).proceed _
  | recvRegister hello => exact .recvRegister hello
  | register hello =>
    simp only [PeerPhase.step, PeerPhase.runCall]
    split
    . exact .sendAccepted hello _
    . exact .sendRejected hello _
    . exact .refuse hello _
  | sendAccepted hello granted => exact .sendAccepted hello granted
  | sendRejected hello rejected => exact .sendRejected hello rejected
  | refuse hello e => exact .done _ 2 _ none le_rfl (.greeted hello)
  | refused hello rejected => exact .done _ 2 _ none le_rfl (.rejected hello rejected)
  | syncScene hello granted => exact (Handles.activate hello granted).proceed _
  | activate hello granted => exact (Handles.select hello granted).proceed _
  | select hello granted => exact .select hello granted
  | done result _ _ _ htaken h => exact .done result taken sent accepted htaken h

theorem handles_sent {p : Peer F} (h : Handles me p.phase taken p.sent p.accepted)
    (s : ServerState F)
    : Handles me (p.step s (.transport (.ok ()))).1.phase taken (p.sent ++ p.phase.sending?.toList)
        (p.step s (.transport (.ok ()))).1.accepted := by
  obtain ⟨phase, sent, joined, accepted⟩ := p
  simp only [Peer.step] at h ⊢
  cases h with
  | openControl => exact .readServerHello
  | readServerHello => exact .readServerHello
  | sendServerHello hello => exact .recvClientHello hello
  | recvClientHello hello => exact .recvClientHello hello
  | discover hello => exact .discover hello
  | transportConnect hello => exact .transportConnect hello
  | exchangeHello hello => exact .exchangeHello hello
  | authenticate hello => exact .authenticate hello
  | recvRegister hello => exact .recvRegister hello
  | register hello => exact .register hello
  | sendAccepted hello granted => exact .syncScene hello granted
  | sendRejected hello rejected => exact .refused hello rejected
  | refuse hello e => exact .refuse hello e
  | refused hello rejected => exact .refused hello rejected
  | syncScene hello granted => exact .syncScene hello granted
  | activate hello granted => exact .activate hello granted
  | select hello granted => exact .select hello granted
  | done result _ _ _ htaken h =>
    rw [show (PeerPhase.done (F := F) result).sending?.toList = [] from rfl, List.append_nil]
    exact .done result taken sent accepted htaken h

theorem handles_unsent {p : Peer F} (h : Handles me p.phase taken p.sent p.accepted)
    (s : ServerState F) (e : String)
    : Handles me (p.step s (.transport (.error e))).1.phase taken p.sent
        (p.step s (.transport (.error e))).1.accepted := by
  obtain ⟨phase, sent, joined, accepted⟩ := p
  simp only [Peer.step] at h ⊢
  cases h with
  | openControl => exact .done _ 0 _ none (by decide) .silent
  | sendServerHello hello => exact .done _ 0 _ none (by decide) .silent
  | sendAccepted hello granted => exact .done _ 2 _ _ le_rfl (.granted hello granted)
  | sendRejected hello rejected => exact .done _ 2 _ none le_rfl (.greeted hello)
  | done result _ _ _ htaken h => exact .done result taken sent accepted htaken h
  | _ => constructor

theorem handles_received {p : Peer F} (h : Handles me p.phase taken p.sent p.accepted)
    (hlistening : p.phase.listening = true) {message : ControlMessage}
    (hmessage : me.script[taken]? = some message) (s : ServerState F)
    : Handles me (p.step s (.received (.ok message))).1.phase (taken + 1) p.sent
        (p.step s (.received (.ok message))).1.accepted := by
  obtain ⟨phase, sent, joined, accepted⟩ := p
  simp only [Peer.step] at h ⊢
  cases h with
  | recvClientHello hello => cases hmessage; exact .discover hello
  | recvRegister hello => cases hmessage; exact .register hello
  | _ => cases hlistening

theorem handles_lost {p : Peer F} (h : Handles me p.phase taken p.sent p.accepted)
    (hlistening : p.phase.listening = true) (s : ServerState F) (e : String)
    : Handles me (p.step s (.received (.error e))).1.phase taken p.sent
        (p.step s (.received (.error e))).1.accepted := by
  obtain ⟨phase, sent, joined, accepted⟩ := p
  simp only [Peer.step] at h ⊢
  cases h with
  | recvClientHello hello => exact .done _ 0 _ none (by decide) (.greeted hello)
  | recvRegister hello => exact .done _ 1 _ none (by decide) (.greeted hello)
  | _ => cases hlistening

theorem Follows.posted_le (h : Follows sent client posted read) : posted ≤ 2 := by
  cases h with
  | failed e posted read hposted => exact hposted
  | _ => decide

theorem Follows.append (h : Follows sent client posted read) (later : List ControlMessage)
    : Follows (sent ++ later) client posted read := by
  have hkeep {message : ControlMessage} (hsome : sent[1]? = some message)
      : (sent ++ later)[1]? = some message := by
    obtain ⟨hlt, -⟩ := List.getElem?_eq_some_iff.mp hsome
    rw [List.getElem?_append_left hlt, hsome]
  cases h with
  | connected granted h => exact .connected granted (hkeep h)
  | rejected rejected h => exact .rejected rejected (hkeep h)
  | failed e posted read hposted => exact .failed e posted read hposted
  | _ => constructor

theorem Follows.giveUp (h : Follows sent client posted read) (e : String)
    : Follows sent (client.afterFailure e) posted read := by
  cases h with
  | connected granted h => exact .connected granted h
  | rejected rejected h => exact .rejected rejected h
  | failed e' posted read hposted => exact .failed e' posted read hposted
  | _ => exact .failed e _ _ (by decide)

end Parties

section Steps

variable {me : ConnectingClient} {l : Handshake F} {taken posted read : Nat}

theorem sound_start (s : ServerState F) : Sound me (start s) 0 0 0 where
  handler := .openControl
  client := .acceptControl
  taken_le := le_rfl
  read_le := le_rfl
  toServer := rfl
  toClient := rfl

theorem sound_sent (h : l.Sound me taken posted read)
    : (l.step me (.transport (.ok ()))).Sound me taken posted read where
  handler := handles_sent h.handler l.connection.server
  client := h.client.append _
  taken_le := h.taken_le
  read_le := h.read_le.trans (by simp [step, react, Connection.react, Connection.step, Peer.step,
    Handshake.sent])
  toServer := h.toServer
  toClient := by
    rw [step, h.toClient, ← List.drop_append_of_le_length h.read_le]
    rfl

theorem Sound.script_of_cons (h : l.Sound me taken posted read) {message : ControlMessage}
    {later : List ControlMessage} (hqueue : l.toServer = message :: later)
    : taken < posted ∧ me.script[taken]? = some message := by
  have hhead : (me.script.take posted)[taken]? = some message := by
    rw [← List.head?_drop, ← h.toServer, hqueue, List.head?_cons]
  rw [List.getElem?_take] at hhead
  split at hhead
  . next hlt => exact ⟨hlt, hhead⟩
  . cases hhead

theorem sound_receive (h : l.Sound me taken posted read)
    : ∃ taken', (l.step me .receive).Sound me taken' posted read := by
  simp only [step]
  split
  . next message toServer hlistening hqueue =>
    obtain ⟨hlt, hmessage⟩ := h.script_of_cons hqueue
    refine ⟨taken + 1, ?_, h.client, hlt, h.read_le, ?_, h.toClient⟩
    . exact handles_received h.handler hlistening hmessage l.connection.server
    . rw [← List.tail_drop, ← h.toServer, hqueue]
      rfl
  . exact ⟨taken, h⟩

theorem sound_advance (h : l.Sound me taken posted read)
    : ∃ posted' read', (l.advance me).Sound me taken posted' read' := by
  obtain ⟨hhandler, hclient, htaken, hread, htoServer, htoClient⟩ := h
  obtain ⟨connection, client, toServer, toClient⟩ := l
  simp only [advance]
  dsimp only at hclient htoServer htoClient
  cases hclient with
  | acceptControl =>
    cases toClient with
    | nil => exact ⟨0, 0, hhandler, .acceptControl, htaken, hread, htoServer, htoClient⟩
    | cons message toClient =>
      exact ⟨0, 0, hhandler, .recvServerHello, htaken, hread, htoServer, htoClient⟩
  | recvServerHello =>
    cases toClient with
    | nil => exact ⟨0, 0, hhandler, .recvServerHello, htaken, hread, htoServer, htoClient⟩
    | cons message toClient =>
      have hsent : connection.peer.sent = message :: toClient := htoClient.symm
      obtain ⟨hello, rfl⟩ := hhandler.conversation.head hsent
      have hread' : 1 ≤ connection.peer.sent.length := by simp [hsent]
      have hrest : toClient = connection.peer.sent.drop 1 := by rw [hsent]; rfl
      exact ⟨0, 1, hhandler, .sendClientHello, htaken, hread', htoServer, hrest⟩
  | sendClientHello =>
    refine ⟨1, 1, hhandler, .sendRegisterRequest, htaken.trans (by decide), hread, ?_, htoClient⟩
    obtain rfl : taken = 0 := Nat.le_zero.mp htaken
    rw [htoServer]
    rfl
  | sendRegisterRequest =>
    refine ⟨2, 1, hhandler, .recvRegistration, htaken.trans (by decide), hread, ?_, htoClient⟩
    rw [htoServer]
    -- the handler has taken the first message or none
    rcases Nat.le_one_iff_eq_zero_or_eq_one.mp htaken with rfl | rfl <;> rfl
  | recvRegistration =>
    cases toClient with
    | nil => exact ⟨2, 1, hhandler, .recvRegistration, htaken, hread, htoServer, htoClient⟩
    | cons message toClient =>
      have hsent : connection.peer.sent.drop 1 = message :: toClient := htoClient.symm
      have hread' : 2 ≤ connection.peer.sent.length := by
        have := congrArg List.length hsent
        simp only [List.length_drop, List.length_cons] at this
        omega
      have hsecond : connection.peer.sent[1]? = some message := by
        rw [← List.head?_drop, hsent, List.head?_cons]
      have hrest : toClient = connection.peer.sent.drop 2 := by
        rw [← List.tail_drop, hsent]
        rfl
      rcases hhandler.conversation.second hsent with ⟨granted, rfl, -⟩ | ⟨rejected, rfl, -⟩
      . exact ⟨2, 2, hhandler, .connected granted hsecond, htaken, hread', htoServer, hrest⟩
      . exact ⟨2, 2, hhandler, .rejected rejected hsecond, htaken, hread', htoServer, hrest⟩
  | connected granted hsome =>
    exact ⟨2, 2, hhandler, .connected granted hsome, htaken, hread, htoServer, htoClient⟩
  | rejected rejected hsome =>
    exact ⟨2, 2, hhandler, .rejected rejected hsome, htaken, hread, htoServer, htoClient⟩
  | failed e posted read hposted =>
    exact ⟨posted, read, hhandler, .failed e posted read hposted, htaken, hread, htoServer, htoClient⟩

theorem sound_step (h : ∃ taken posted read, l.Sound me taken posted read) (e : HandshakeEvent F)
    : ∃ taken posted read, (l.step me e).Sound me taken posted read := by
  obtain ⟨taken, posted, read, h⟩ := h
  cases e with
  | transport result =>
    cases result with
    | ok u => exact ⟨taken, posted, read, sound_sent h⟩
    | error e =>
      exact ⟨taken, posted, read, handles_unsent h.handler l.connection.server e, h.client,
        h.taken_le, h.read_le, h.toServer, h.toClient⟩
  | receive =>
    obtain ⟨taken, h⟩ := sound_receive h
    exact ⟨taken, posted, read, h⟩
  | lose e =>
    refine ⟨taken, posted, read, ?_⟩
    simp only [step]
    split
    . next hlistening =>
      exact ⟨handles_lost h.handler hlistening l.connection.server e, h.client, h.taken_le,
        h.read_le, h.toServer, h.toClient⟩
    . exact h
  | run nowNs fresh results =>
    exact ⟨taken, posted, read, handles_run h.handler l.connection.server nowNs fresh results,
      h.client, h.taken_le, h.read_le, h.toServer, h.toClient⟩
  | advance =>
    obtain ⟨posted, read, h⟩ := sound_advance h
    exact ⟨taken, posted, read, h⟩
  | giveUp e =>
    exact ⟨taken, posted, read, h.handler, h.client.giveUp e, h.taken_le, h.read_le, h.toServer,
      h.toClient⟩
  | server op =>
    exact ⟨taken, posted, read, h.handler, h.client, h.taken_le, h.read_le, h.toServer, h.toClient⟩

end Steps

/--
Each party gets what it waits for, and the client has the result that the handler has sent it.
-/
structure InStep (me : ConnectingClient) (l : Handshake F) : Prop where
  clientHello : l.phase = .recvClientHello → ∀ message ∈ l.toServer.head?,
    message = .clientHello me.hello
  registerRequest : ∀ hello, l.phase = .recvRegister hello → hello = me.hello
    ∧ ∀ message ∈ l.toServer.head?, message = .registerRequest me.request
  serverHello : ∀ other, l.client ≠ .done (.error (.expectedServerHello other))
  registration : ∀ other, l.client ≠ .done (.error (.expectedRegistration other))
  connected : ∀ sessionId, l.client = .done (.ok sessionId) →
    ∃ accepted, l.accepted = some accepted ∧ accepted.sessionId = sessionId
  rejected : ∀ rejected, l.client = .done (.error (.rejected rejected)) →
    .registerRejected rejected ∈ l.sent ∧ l.accepted = none

theorem Conversation.accepted_of_second {sent : List ControlMessage}
    {accepted : Option RegisterAccepted} (h : Conversation sent accepted)
    {granted : RegisterAccepted} (hsome : sent[1]? = some (.registerAccepted granted))
    : accepted = some granted := by
  cases h <;> cases hsome
  rfl

theorem Conversation.rejected_of_second {sent : List ControlMessage}
    {accepted : Option RegisterAccepted} (h : Conversation sent accepted)
    {rejected : RegisterRejected} (hsome : sent[1]? = some (.registerRejected rejected))
    : accepted = none := by
  cases h <;> cases hsome
  rfl

theorem inStep_of_sound {me : ConnectingClient} {l : Handshake F}
    (h : ∃ taken posted read, l.Sound me taken posted read)
    : l.InStep me := by
  obtain ⟨taken, posted, read, hsound⟩ := h
  have hhandler := hsound.handler
  have hclient := hsound.client
  have hscript : ∀ message ∈ l.toServer.head?, me.script[taken]? = some message := by
    intro message hmessage
    obtain ⟨later, hqueue⟩ := List.head?_eq_some_iff.mp hmessage
    exact (hsound.script_of_cons hqueue).2
  constructor
  . intro hphase message hmessage
    rw [hphase] at hhandler
    obtain rfl := hhandler.taken_of_recvClientHello
    exact (Option.some.inj (hscript message hmessage)).symm
  . intro hello hphase
    rw [hphase] at hhandler
    obtain ⟨hhello, rfl⟩ := hhandler.taken_of_recvRegister
    exact ⟨hhello, fun message hmessage => (Option.some.inj (hscript message hmessage)).symm⟩
  . rintro other hother
    rw [hother] at hclient
    cases hclient
  . rintro other hother
    rw [hother] at hclient
    cases hclient
  . intro sessionId hconnected
    rw [hconnected] at hclient
    cases hclient with
    | connected granted hsome =>
      exact ⟨granted, hhandler.conversation.accepted_of_second hsome, rfl⟩
  . intro rejected hrejected
    rw [hrejected] at hclient
    cases hclient with
    | rejected rejected hsome =>
      exact ⟨List.mem_of_getElem? hsome, hhandler.conversation.rejected_of_second hsome⟩

theorem inStep_run (me : ConnectingClient) (s : ServerState F) (es : List (HandshakeEvent F))
    : Run.AllStates (step me) (InStep me) (start s) es := by
  refine Run.AllStates.imp (fun l => inStep_of_sound) ?_
  exact Run.allStates_of_allSteps (C := fun _ _ => True) (fun _ e h _ => sound_step h e)
    ⟨0, 0, 0, sound_start s⟩ (Run.allSteps_true _ es)

end Handshake

end MotionStage
