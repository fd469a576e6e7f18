import MotionStage.Transport.Control
import MotionStage.Server.Teardown

/-!
This module contains a connection together with the bytes of its control stream. A read of a control
message takes bytes as they arrive. In the active loop `select!` drops the read that is under way
when a motion datagram comes in, and the bytes it has taken are gone.
-/

namespace MotionStage

variable {F : Floats}

namespace PeerPhase

def reading : PeerPhase F → Bool
  | .recvClientHello | .recvRegister _ | .select _ => true
  | _ => false

def selecting : PeerPhase F → Bool
  | .select _ => true
  | _ => false

def left : PeerPhase F → Bool
  | .teardown _ | .done _ => true
  | _ => false

theorem left_step {phase : PeerPhase F} (h : phase.left = true) (s : ServerState F)
    (e : PeerEvent F)
    : (phase.step s e).1.left = true := by
  cases phase with
  | teardown => cases e <;> rfl
  | done => cases e <;> rfl
  | _ => cases h

theorem reading_of_left {phase : PeerPhase F} (h : phase.left = true) : phase.reading = false := by
  cases phase <;> first | rfl | cases h

theorem selecting_of_left {phase : PeerPhase F} (h : phase.left = true)
    : phase.selecting = false := by
  cases phase <;> first | rfl | cases h

theorem left_of_failed_read {phase : PeerPhase F} (h : phase.reading = true) (s : ServerState F)
    (e : String)
    : (phase.step s (.received (.error e))).1.left = true := by
  cases phase <;> first | rfl | cases h

theorem left_of_failed_datagram {phase : PeerPhase F} (h : phase.selecting = true)
    (s : ServerState F) (e : String)
    : (phase.step s (.datagram (.error e))).1.left = true := by
  cases phase <;> first | rfl | cases h

end PeerPhase

/--
A connection with its control stream: the read that is under way, the bytes that have arrived and
that no read has taken, and those on their way. The two lists of messages are history.
-/
structure ControlLoop (F : Floats) where
  connection : Connection F
  recv : Framing.Reader
  arrived : List UInt8
  wire : List UInt8
  sent : List ControlMessage
  decoded : List ControlMessage

inductive LoopInput (F : Floats) where
  /-- the client sends a message -/
  | send (message : ControlMessage)
  /-- the next bytes arrive -/
  | arrive (count : Nat)
  /-- the handler polls its read -/
  | poll
  /-- the stream fails -/
  | fail (e : String)
  | datagram (datagram : Except String (ServerState.MotionDatagram F))
  | transport (result : Except String Unit)
  | run (nowNs : Nat) (fresh : Uuid) (results : WebRtcResults)
  /-- something else calls the server -/
  | server (op : ServerOp F)

namespace ControlLoop

def start (c : Connection F) : ControlLoop F := ⟨c, .start, [], [], [], []⟩

def phase (l : ControlLoop F) : PeerPhase F := l.connection.peer.phase

variable (bincode : Bincode)

def poll (l : ControlLoop F) : ControlLoop F :=
  match l.recv.poll l.arrived with
  | (.pending recv, arrived) => { l with recv := recv, arrived := arrived }
  | (.ready bytes, arrived) =>
    match bincode.decode bytes with
    | .ok message =>
      { l with
        connection := l.connection.react (.received (.ok message))
        recv := .start
        arrived := arrived
        decoded := l.decoded ++ [message] }
    | .error e =>
      { l with
        connection := l.connection.react (.received (.error e.display))
        recv := .start
        arrived := arrived }

def step (l : ControlLoop F) : LoopInput F → ControlLoop F
  | .send message =>
    match bincode.send message with
    | .ok bytes => { l with wire := l.wire ++ bytes, sent := l.sent ++ [message] }
    | .error _ => l
  | .arrive count =>
    { l with arrived := l.arrived ++ l.wire.take count, wire := l.wire.drop count }
  | .poll => if l.phase.reading then l.poll bincode else l
  | .fail e =>
    if l.phase.reading then
      { l with
        connection := l.connection.react (.received (.error (QuicTransportError.read e).display))
        recv := .start }
    else
      l
  | .datagram datagram =>
    if l.phase.selecting then
      { l with connection := l.connection.react (.datagram datagram), recv := .start }
    else
      l
  | .transport result => { l with connection := l.connection.react (.transport result) }
  | .run nowNs fresh results =>
    { l with connection := l.connection.react (.run nowNs fresh results) }
  | .server op => { l with connection := l.connection.step (.server op) }

/--
The handler has decoded the messages in the order in which they were sent, and all of them once it
has taken all bytes.
-/
structure Intact (l : ControlLoop F) : Prop where
  ordered : l.decoded <+: l.sent
  complete : l.wire = [] → l.arrived = [] → l.decoded = l.sent

/--
The length of every message fits its four bytes, and no datagram comes in while a message is partly
read.
-/
def AtBoundary (l : ControlLoop F) : LoopInput F → Prop
  | .send message => ∀ bytes ∈ (bincode.serializeMessage message).toOption, bytes.length < 2 ^ 32
  | .datagram (.ok _) => l.phase.selecting = true → l.recv.taken = []
  | _ => True

instance (l : ControlLoop F) : DecidablePred (l.AtBoundary bincode) := by
  intro i
  unfold AtBoundary
  split <;> infer_instance

structure Posted where
  message : ControlMessage
  bytes : List UInt8
  serialized : bincode.serializeMessage message = .ok bytes
  fits : bytes.length < 2 ^ 32

inductive Framed (l : ControlLoop F) : Prop where
  | reading (rest : List (Posted bincode)) (hsent : l.sent = l.decoded ++ rest.map Posted.message)
    (hstream : l.recv.taken ++ l.arrived ++ l.wire = Framing.frames (rest.map Posted.bytes))
    : Framed l
  | left (rest : List (Posted bincode)) (hsent : l.sent = l.decoded ++ rest.map Posted.message)
    (hleft : l.phase.left = true) (hunread : rest = [] ∨ l.arrived ++ l.wire ≠ [])
    : Framed l

variable {bincode : Bincode}

theorem Posted.fits_all (rest : List (Posted bincode))
    : ∀ bytes ∈ rest.map Posted.bytes, bytes.length < 2 ^ 32 := by
  intro bytes hbytes
  obtain ⟨posted, -, rfl⟩ := List.mem_map.mp hbytes
  exact posted.fits

theorem unread_of_stream {l : ControlLoop F} {rest : List (Posted bincode)}
    (hstream : l.recv.taken ++ l.arrived ++ l.wire = Framing.frames (rest.map Posted.bytes))
    : rest = [] ∨ l.arrived ++ l.wire ≠ [] := by
  by_cases hnil : l.arrived ++ l.wire = []
  . left
    rw [List.append_assoc, hnil, List.append_nil] at hstream
    exact List.map_eq_nil_iff.mp
      (Framing.Reader.eq_nil_of_taken_eq (Posted.fits_all rest) hstream)
  . exact .inr hnil

theorem intact_of_framed {l : ControlLoop F} (h : l.Framed bincode) : l.Intact := by
  obtain ⟨rest, hsent, hunread⟩ : ∃ rest : List (Posted bincode),
      l.sent = l.decoded ++ rest.map Posted.message ∧ (rest = [] ∨ l.arrived ++ l.wire ≠ []) := by
    cases h with
    | reading rest hsent hstream => exact ⟨rest, hsent, unread_of_stream hstream⟩
    | left rest hsent _ hunread => exact ⟨rest, hsent, hunread⟩
  constructor
  . exact ⟨_, hsent.symm⟩
  . intro hwire harrived
    rcases hunread with rfl | hunread
    . simp [hsent]
    . simp [hwire, harrived] at hunread

theorem framed_poll (hbincode : bincode.RoundTrip) {l : ControlLoop F}
    {rest : List (Posted bincode)} (hsent : l.sent = l.decoded ++ rest.map Posted.message)
    (hstream : l.recv.taken ++ l.arrived ++ l.wire = Framing.frames (rest.map Posted.bytes))
    : (l.poll bincode).Framed bincode := by
  unfold poll
  rcases Framing.Reader.poll_frames (Posted.fits_all rest) hstream with
    ⟨recv, hpoll, htaken⟩ | ⟨bytes, payloads, arrived, hrest, hpoll, hstream'⟩
  . rw [hpoll]
    refine .reading rest hsent ?_
    simpa [htaken] using hstream
  . rw [hpoll]
    cases rest with
    | nil => cases hrest
    -- the payload that is ready is the one that was sent first
    | cons posted rest =>
      cases hrest
      simp only [Bincode.decode_serializeMessage hbincode posted.serialized]
      refine .reading rest ?_ hstream'
      simp [hsent]

theorem framed_send {l : ControlLoop F} (h : l.Framed bincode) {message : ControlMessage}
    (hfits : l.AtBoundary bincode (.send message))
    : (l.step bincode (.send message)).Framed bincode := by
  simp only [step, Bincode.send]
  cases hbytes : bincode.serializeMessage message with
  | error e => exact h
  | ok bytes =>
    let posted : Posted bincode :=
      ⟨message, bytes, hbytes, hfits bytes (by simp [hbytes, Except.toOption])⟩
    cases h with
    | reading rest hsent hstream =>
      refine .reading (rest ++ [posted]) ?_ ?_
      . simp [hsent, posted]
      . rw [List.map_append, List.map_singleton, Framing.frames_concat, ← hstream]
        simp [posted]
    | left rest hsent hleft hunread =>
      refine .left (rest ++ [posted]) ?_ hleft (.inr ?_)
      . simp [hsent, posted]
      . simp [Framing.frame, Framing.toLeBytes]

theorem framed_step_left {l : ControlLoop F} {rest : List (Posted bincode)}
    (hsent : l.sent = l.decoded ++ rest.map Posted.message) (hleft : l.phase.left = true)
    (hunread : rest = [] ∨ l.arrived ++ l.wire ≠ []) {i : LoopInput F}
    (hi : l.AtBoundary bincode i)
    : (l.step bincode i).Framed bincode := by
  have hreact (e : PeerEvent F) : (l.connection.react e).peer.phase.left = true :=
    PeerPhase.left_step hleft l.connection.server e
  cases i with
  | send message => exact framed_send (.left rest hsent hleft hunread) hi
  | arrive count => exact .left rest hsent hleft (by simpa [step] using hunread)
  | poll =>
    simp only [step, PeerPhase.reading_of_left hleft]
    exact .left rest hsent hleft hunread
  | fail e =>
    simp only [step, PeerPhase.reading_of_left hleft]
    exact .left rest hsent hleft hunread
  | datagram datagram =>
    simp only [step, PeerPhase.selecting_of_left hleft]
    exact .left rest hsent hleft hunread
  | transport result => exact .left rest hsent (hreact _) hunread
  | run nowNs fresh results => exact .left rest hsent (hreact _) hunread
  | server op => exact .left rest hsent hleft hunread

theorem framed_step_reading (hbincode : bincode.RoundTrip) {l : ControlLoop F}
    {rest : List (Posted bincode)} (hsent : l.sent = l.decoded ++ rest.map Posted.message)
    (hstream : l.recv.taken ++ l.arrived ++ l.wire = Framing.frames (rest.map Posted.bytes))
    {i : LoopInput F} (hi : l.AtBoundary bincode i)
    : (l.step bincode i).Framed bincode := by
  have hunread : rest = [] ∨ l.arrived ++ l.wire ≠ [] := unread_of_stream hstream
  cases i with
  | send message => exact framed_send (.reading rest hsent hstream) hi
  | arrive count =>
    refine .reading rest hsent ?_
    simpa [step] using hstream
  | poll =>
    simp only [step]
    split
    . exact framed_poll hbincode hsent hstream
    . exact .reading rest hsent hstream
  | fail e =>
    simp only [step]
    split
    . next hreading =>
      refine .left rest hsent ?_ hunread
      exact PeerPhase.left_of_failed_read hreading l.connection.server _
    . exact .reading rest hsent hstream
  | datagram datagram =>
    simp only [step]
    split
    . next hselecting =>
      cases datagram with
      | error e =>
        refine .left rest hsent ?_ hunread
        exact PeerPhase.left_of_failed_datagram hselecting l.connection.server e
      | ok datagram =>
        -- the read that is dropped has not taken anything
        rw [hi hselecting] at hstream
        exact .reading rest hsent hstream
    . exact .reading rest hsent hstream
  | transport result => exact .reading rest hsent hstream
  | run nowNs fresh results => exact .reading rest hsent hstream
  | server op => exact .reading rest hsent hstream

theorem intact_of_atBoundary (hbincode : bincode.RoundTrip) (c : Connection F)
    (inputs : List (LoopInput F))
    (h : Run.AllSteps (step bincode) (AtBoundary bincode) (start c) inputs)
    : Run.AllStates (step bincode) Intact (start c) inputs := by
  have hstart : (start c).Framed bincode := .reading [] rfl rfl
  refine (Run.allStates_of_allSteps ?_ hstart h).imp fun l hl => intact_of_framed hl
  intro l i hl hi
  cases hl with
  | reading rest hsent hstream => exact framed_step_reading hbincode hsent hstream hi
  | left rest hsent hleft hunread => exact framed_step_left hsent hleft hunread hi

/--
The two messages that a panel sends in the active loop, as `bincode` serializes them.
-/
def pingBincode : Bincode where
  serialize envelope :=
    if envelope = ⟨1, 3, .ping⟩ then
      .ok [1, 0, 3, 0, 11, 0, 0, 0]
    else if envelope = ⟨1, 3, .pong⟩ then
      .ok [1, 0, 3, 0, 12, 0, 0, 0]
    else
      .error "not a message of the panel"
  deserialize bytes :=
    if bytes = [1, 0, 3, 0, 11, 0, 0, 0] then
      .ok ⟨1, 3, .ping⟩
    else if bytes = [1, 0, 3, 0, 12, 0, 0, 0] then
      .ok ⟨1, 3, .pong⟩
    else
      .error "not a message of the panel"

theorem pingBincode_roundTrip : pingBincode.RoundTrip := by
  intro envelope bytes h
  simp only [pingBincode] at h
  split at h
  . next hping => cases h; rw [hping]; rfl
  . split at h
    . next hpong => cases h; rw [hpong]; rfl
    . cases h

def panelActive : Connection Floats.rational :=
  Run.run Connection.react (.new (.new .default))
    (PeerEvent.panelGreets 7 "panel" ++ PeerEvent.panelRegisters 60)

def panelPings : List (LoopInput Floats.rational) :=
  [.send .ping, .send .pong, .arrive 3, .poll, .arrive 9, .poll, .transport (.ok ()),
    .run 1 0 .unavailable, .transport (.ok ()), .datagram (.ok ⟨7, 2, []⟩), .run 2 0 .unavailable,
    .arrive 6, .poll, .arrive 6, .poll]

theorem intact_of_atBoundary_panelPings
    : (Run.run (step pingBincode) (start panelActive) panelPings).decoded = [.ping, .pong]
        ∧
      Run.AllStates (step pingBincode) Intact (start panelActive) panelPings :=
  ⟨by decide, intact_of_atBoundary pingBincode_roundTrip panelActive panelPings (by decide)⟩

/--
A datagram that comes in between the length and the payload of a message: the length is lost, and
the handler reads the payload as the length of the next message.
-/
theorem intact_fails
    : panelActive.peer.phase = .select (ServerState.panelHello 7 "panel")
        ∧
      ¬ (Run.run (step pingBincode) (start panelActive)
          [.send .ping, .arrive 4, .poll, .datagram (.ok ⟨7, 2, []⟩), .run 2 0 .unavailable,
            .arrive 8, .poll]).Intact := by
  refine ⟨rfl, ?_⟩
  intro h
  exact absurd (h.complete (by decide) (by decide)) (by decide)

end ControlLoop

end MotionStage
