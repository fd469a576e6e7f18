import MotionStage.Data.Run
import MotionStage.Server.ControlLoop

/-!
This module contains the control channel between the simulator and the handler of its connection: a
queue of messages in each direction. `request_remote_mode` sends `SetMode` and takes the next reply
for its own, whatever it answers.
-/

namespace MotionStage

variable {F : Floats}

/--
A message that the simulator has sent, with a number that tells it from all others.
-/
inductive Ticket where
  | ping (number : Nat)
  | setMode (number : Nat) (mode : Mode)
deriving DecidableEq

namespace Ticket

def message : Ticket → ControlMessage
  | .ping _ => .ping
  | .setMode _ mode => .setMode mode

def number : Ticket → Nat
  | .ping n | .setMode n _ => n

end Ticket

namespace ControlMessage

/--
What `request_remote_mode` accepts for the reply to `SetMode`.
-/
def isModeReply : ControlMessage → Bool
  | .modeState _ | .error _ _ => true
  | _ => false

end ControlMessage

inductive RemoteModeError where
  | rejected (code : RejectCode) (reason : String)
  | unexpected (other : ControlMessage)

/--
The match of `request_remote_mode` on the message that it receives.
-/
def remoteModeResult : ControlMessage → Except RemoteModeError Mode
  | .modeState activeMode => .ok activeMode
  | .error code reason => .error (.rejected code reason)
  | other => .error (.unexpected other)

/--
A `request_remote_mode` that waits for its reply, and what was pending on the channel when it was
called.
-/
structure ModeCall where
  ticket : Ticket
  backlog : List Ticket

/--
A `request_remote_mode` that has returned: the message that it took, and what that message answers.
-/
structure ModeReturn where
  call : ModeCall
  answers : Ticket
  message : ControlMessage

namespace ModeReturn

def result (ret : ModeReturn) : Except RemoteModeError Mode := remoteModeResult ret.message

def Own (ret : ModeReturn) : Prop :=
  ret.answers = ret.call.ticket ∧ ret.message.isModeReply = true

instance : DecidablePred Own := fun ret =>
  inferInstanceAs (Decidable (ret.answers = ret.call.ticket ∧ ret.message.isModeReply = true))

end ModeReturn

/--
The two queues with the handler between them. `serving` is the message that the handler is at.
-/
structure ModeLink (F : Floats) where
  server : ServerState F
  phase : PeerPhase F
  requests : List Ticket
  serving : Option Ticket
  replies : List (Ticket × ControlMessage)
  next : Nat
  awaiting : Option ModeCall
  returned : List ModeReturn

inductive LinkEvent (F : Floats) where
  /-- the heartbeat of the simulator -/
  | ping
  /-- `drain_control_messages` takes one message -/
  | drain
  /-- `request_remote_mode` sends its request -/
  | requestRemoteMode (mode : Mode)
  /-- the message that it waits for comes in -/
  | receive
  /-- the handler takes a message -/
  | recv
  /-- the message that the handler sends is on the stream -/
  | deliver
  | datagram (datagram : ServerState.MotionDatagram F)
  | run (nowNs : Nat) (fresh : Uuid) (results : WebRtcResults)
  /-- something else calls the server -/
  | server (op : ServerOp F)

namespace ModeLink

def start (hello : ClientHello) (s : ServerState F) : ModeLink F :=
  ⟨s, .select hello, [], none, [], 0, none, []⟩

/--
What has been sent and not been read off: every reply that is on its way, the message that the
handler is at and those behind it.
-/
def pipeline (l : ModeLink F) : List Ticket :=
  l.replies.map Prod.fst ++ l.serving.toList ++ l.requests

def send (l : ModeLink F) (ticket : Ticket) : ModeLink F :=
  { l with requests := l.requests ++ [ticket], next := l.next + 1 }

/--
The handler goes on. A message is served once the handler is back at its `select!`.
-/
def proceed (l : ModeLink F) (phase : PeerPhase F) : ModeLink F :=
  { l with phase := phase, serving := if phase.selecting then none else l.serving }

def step (l : ModeLink F) : LinkEvent F → ModeLink F
  | .ping =>
    match l.awaiting with
    | some _ => l
    | none => l.send (.ping l.next)
  | .drain =>
    match l.awaiting with
    | some _ => l
    | none => { l with replies := l.replies.tail }
  | .requestRemoteMode mode =>
    match l.awaiting with
    | some _ => l
    | none =>
      { l.send (.setMode l.next mode) with
        awaiting := some ⟨.setMode l.next mode, l.pipeline⟩ }
  | .receive =>
    match l.awaiting, l.replies with
    | some call, (answers, message) :: replies =>
      { l with
        replies := replies
        awaiting := none
        returned := l.returned ++ [⟨call, answers, message⟩] }
    | _, _ => l
  | .recv =>
    match l.phase.selecting, l.requests with
    | true, ticket :: requests =>
      { l with
        phase := l.phase.afterReceived (.ok ticket.message)
        requests := requests
        serving := some ticket }
    | _, _ => l
  | .deliver =>
    match l.phase.sending?, l.serving with
    | some message, some ticket =>
      { l with replies := l.replies ++ [(ticket, message)] }.proceed
        (l.phase.afterTransport (.ok ()))
    | _, _ => l
  | .datagram datagram => { l with phase := l.phase.afterDatagram (.ok datagram) }
  | .run nowNs fresh results =>
    let next := l.phase.step l.server (.run nowNs fresh results)
    { l with server := next.2 }.proceed next.1
  | .server op => { l with server := l.server.step op }

inductive Idle : PeerPhase F → Prop where
  | select (hello : ClientHello) : Idle (.select hello)
  | ingest (hello : ClientHello) (datagram : ServerState.MotionDatagram F)
    : Idle (.ingest hello datagram)

inductive Answering : Ticket → PeerPhase F → Prop where
  | pong (n : Nat) (hello : ClientHello) : Answering (.ping n) (.sendPong hello)
  | readMode (ticket : Ticket) (hello : ClientHello) : Answering ticket (.readMode hello)
  | modeState (ticket : Ticket) (hello : ClientHello) (mode : Mode)
    : Answering ticket (.reply hello (.modeState mode))
  | serve (n : Nat) (mode : Mode) (hello : ClientHello)
    : Answering (.setMode n mode) (.serve hello (.setMode mode))
  | error (n : Nat) (mode : Mode) (hello : ClientHello) (code : RejectCode) (reason : String)
    : Answering (.setMode n mode) (.sendError hello code reason)

inductive Serving : Option Ticket → PeerPhase F → Prop where
  | idle {phase : PeerPhase F} (h : Idle phase) : Serving none phase
  | answering {ticket : Ticket} {phase : PeerPhase F} (h : Answering ticket phase)
    : Serving (some ticket) phase

/--
The request of a call is the last message of the channel. It is the only one exactly if nothing was
pending when the call was made.
-/
structure Waiting (pipeline : List Ticket) (call : ModeCall) (ahead : List Ticket) : Prop where
  last : pipeline = ahead ++ [call.ticket]
  distinct : call.ticket ∉ ahead
  backlog : ahead = [] ↔ call.backlog = []
  isMode : ∃ n mode, call.ticket = .setMode n mode

structure Sound (l : ModeLink F) : Prop where
  serving : Serving l.serving l.phase
  numbered : ∀ ticket ∈ l.pipeline, ticket.number < l.next
  typed : ∀ n mode message, (Ticket.setMode n mode, message) ∈ l.replies →
    message.isModeReply = true
  awaiting : ∀ call, l.awaiting = some call → ∃ ahead, Waiting l.pipeline call ahead
  returned : ∀ ret ∈ l.returned, ret.Own ↔ ret.call.backlog = []

theorem sound_start (hello : ClientHello) (s : ServerState F) : (start hello s).Sound where
  serving := .idle (.select hello)
  numbered := by simp [start, pipeline]
  typed := by simp [start]
  awaiting := by simp [start]
  returned := by simp [start]

theorem answering_dispatch (ticket : Ticket) (hello : ClientHello)
    : Answering (F := F) ticket (PeerPhase.dispatch hello ticket.message) := by
  cases ticket with
  | ping n => exact .pong n hello
  | setMode n mode =>
    simp only [Ticket.message, PeerPhase.dispatch, PeerPhase.asOperator]
    split
    . exact .error n mode hello _ _
    . exact .serve n mode hello

theorem Answering.selecting {ticket : Ticket} {phase : PeerPhase F} (h : Answering ticket phase)
    : phase.selecting = false := by
  cases h <;> rfl

theorem idle_run {phase : PeerPhase F} (h : Idle phase) (s : ServerState F) (nowNs : Nat)
    (fresh : Uuid) (results : WebRtcResults)
    : Idle (phase.step s (.run nowNs fresh results)).1 := by
  cases h with
  | select hello => exact .select hello
  | ingest hello datagram => exact .select hello

theorem answering_run {ticket : Ticket} {phase : PeerPhase F} (h : Answering ticket phase)
    (s : ServerState F) (nowNs : Nat) (fresh : Uuid) (results : WebRtcResults)
    : Answering ticket (phase.step s (.run nowNs fresh results)).1 := by
  cases h with
  | pong n hello => exact .pong n hello
  | readMode ticket hello => exact .modeState ticket hello _
  | modeState ticket hello mode => exact .modeState ticket hello mode
  | error n mode hello code reason => exact .error n mode hello code reason
  | serve n mode hello =>
    simp only [PeerPhase.step, PeerPhase.runCall, PeerPhase.runServe, PeerPhase.answer]
    split
    . exact .readMode _ hello
    . exact .error n mode hello _ _

theorem answering_deliver {ticket : Ticket} {phase : PeerPhase F} (h : Answering ticket phase)
    {message : ControlMessage} (hsending : phase.sending? = some message)
    : ((∃ hello, phase.afterTransport (.ok ()) = .select hello) ∧ message.isModeReply = true)
        ∨
      ((∃ n, ticket = .ping n) ∧ Answering ticket (phase.afterTransport (.ok ()))) := by
  cases h with
  | pong n hello => exact .inr ⟨⟨n, rfl⟩, .readMode (.ping n) hello⟩
  | readMode ticket hello => cases hsending
  | modeState ticket hello mode =>
    cases hsending
    exact .inl ⟨⟨hello, rfl⟩, rfl⟩
  | serve n mode hello => cases hsending
  | error n mode hello code reason =>
    cases hsending
    exact .inl ⟨⟨hello, rfl⟩, rfl⟩

theorem Serving.proceed {serving : Option Ticket} {phase : PeerPhase F} (h : Serving serving phase)
    : (if phase.selecting then none else serving) = serving := by
  cases h with
  | idle => exact ite_self none
  | answering hanswering => rw [hanswering.selecting]; rfl

theorem Serving.run {serving : Option Ticket} {phase : PeerPhase F} (h : Serving serving phase)
    (s : ServerState F) (nowNs : Nat) (fresh : Uuid) (results : WebRtcResults)
    : Serving serving (phase.step s (.run nowNs fresh results)).1 := by
  cases h with
  | idle hidle => exact .idle (idle_run hidle s nowNs fresh results)
  | answering hanswering => exact .answering (answering_run hanswering s nowNs fresh results)

theorem Serving.afterDatagram {serving : Option Ticket} {phase : PeerPhase F}
    (h : Serving serving phase) (datagram : ServerState.MotionDatagram F)
    : Serving serving (phase.afterDatagram (.ok datagram)) := by
  cases h with
  | idle hidle =>
    cases hidle with
    | select hello => exact .idle (.ingest hello datagram)
    | ingest hello other => exact .idle (.ingest hello other)
  | answering hanswering => cases hanswering <;> exact .answering (by constructor)

theorem Serving.of_selecting {serving : Option Ticket} {phase : PeerPhase F}
    (h : Serving serving phase) (hselecting : phase.selecting = true)
    : serving = none ∧ ∃ hello, phase = .select hello := by
  cases h with
  | idle hidle =>
    cases hidle with
    | select hello => exact ⟨rfl, hello, rfl⟩
    | ingest hello datagram => cases hselecting
  | answering hanswering =>
    rw [hanswering.selecting] at hselecting
    cases hselecting

theorem Serving.of_some {ticket : Ticket} {phase : PeerPhase F} (h : Serving (some ticket) phase)
    : Answering ticket phase := by
  cases h with
  | answering hanswering => exact hanswering

theorem sound_proceed {l : ModeLink F} (h : l.Sound) {phase : PeerPhase F}
    (hphase : Serving l.serving phase)
    : (l.proceed phase).Sound := by
  have hserving : (l.proceed phase).serving = l.serving := hphase.proceed
  have hpipeline : (l.proceed phase).pipeline = l.pipeline := by
    rw [pipeline, hserving]
    rfl
  constructor
  . rw [hserving]
    exact hphase
  . rw [hpipeline]
    exact h.numbered
  . exact h.typed
  . rw [hpipeline]
    exact h.awaiting
  . exact h.returned

theorem pipeline_send (l : ModeLink F) (ticket : Ticket)
    : (l.send ticket).pipeline = l.pipeline ++ [ticket] := by
  simp [send, pipeline]

theorem sound_send {l : ModeLink F} (h : l.Sound) {ticket : Ticket} (hticket : ticket.number = l.next)
    (hawaiting : l.awaiting = none)
    : (l.send ticket).Sound where
  serving := h.serving
  numbered := by
    intro other hother
    rw [pipeline_send, List.mem_append, List.mem_singleton] at hother
    rcases hother with hother | rfl
    . exact Nat.lt_succ_of_lt (h.numbered other hother)
    . exact Nat.lt_succ_of_le hticket.le
  typed := h.typed
  awaiting := by simp [send, hawaiting]
  returned := h.returned

theorem sound_request {l : ModeLink F} (h : l.Sound) (mode : Mode) (hawaiting : l.awaiting = none)
    : Sound { l.send (.setMode l.next mode) with
        awaiting := some ⟨.setMode l.next mode, l.pipeline⟩ } := by
  have hsend : (l.send (.setMode l.next mode)).Sound := sound_send h rfl hawaiting
  refine ⟨hsend.serving, hsend.numbered, hsend.typed, ?_, hsend.returned⟩
  rintro call ⟨⟩
  refine ⟨l.pipeline, pipeline_send l _, ?_, Iff.rfl, l.next, mode, rfl⟩
  -- no message of the channel has the number of the request
  intro hmem
  exact lt_irrefl _ (h.numbered _ hmem)

theorem sound_drain {l : ModeLink F} (h : l.Sound) (hawaiting : l.awaiting = none)
    : Sound { l with replies := l.replies.tail } where
  serving := h.serving
  numbered := by
    intro ticket hticket
    apply h.numbered
    simp only [pipeline, List.mem_append] at hticket ⊢
    rw [List.map_tail] at hticket
    exact hticket.imp_left (Or.imp_left List.mem_of_mem_tail)
  typed := fun n mode message hmem => h.typed n mode message (List.mem_of_mem_tail hmem)
  awaiting := by simp [hawaiting]
  returned := h.returned

/--
The reply that a call takes is the first of the channel. It is its own if nothing is ahead of the
request.
-/
theorem sound_receive {l : ModeLink F} (h : l.Sound) {call : ModeCall} {answers : Ticket}
    {message : ControlMessage} {replies : List (Ticket × ControlMessage)}
    (hawaiting : l.awaiting = some call) (hreplies : l.replies = (answers, message) :: replies)
    : Sound { l with
        replies := replies
        awaiting := none
        returned := l.returned ++ [⟨call, answers, message⟩] } := by
  obtain ⟨ahead, hlast, hdistinct, hbacklog, n, mode, hmode⟩ := h.awaiting call hawaiting
  have hpipeline : l.pipeline
      = answers :: (replies.map Prod.fst ++ l.serving.toList ++ l.requests) := by
    simp [pipeline, hreplies]
  constructor
  . exact h.serving
  . intro ticket hticket
    apply h.numbered
    rw [hpipeline]
    exact List.mem_cons_of_mem _ hticket
  . intro n mode message hmem
    exact h.typed n mode message (hreplies ▸ List.mem_cons_of_mem _ hmem)
  . simp
  . intro ret hret
    rw [List.mem_append, List.mem_singleton] at hret
    rcases hret with hret | rfl
    . exact h.returned ret hret
    rw [← hbacklog]
    rw [hpipeline] at hlast
    cases ahead with
    | nil =>
      have hanswers : answers = call.ticket := (List.cons.inj hlast).1
      refine iff_of_true ⟨hanswers, h.typed n mode message ?_⟩ rfl
      rw [hreplies, ← hmode, ← hanswers]
      exact List.mem_cons_self
    | cons first ahead =>
      have hanswers : answers = first := (List.cons.inj hlast).1
      refine iff_of_false ?_ (by simp)
      rintro ⟨hown, -⟩
      exact hdistinct (hown ▸ hanswers ▸ List.mem_cons_self)

theorem sound_recv {l : ModeLink F} (h : l.Sound) {ticket : Ticket} {requests : List Ticket}
    (hselecting : l.phase.selecting = true) (hrequests : l.requests = ticket :: requests)
    : Sound { l with
        phase := l.phase.afterReceived (.ok ticket.message)
        requests := requests
        serving := some ticket } := by
  obtain ⟨hserving, hello, hphase⟩ := h.serving.of_selecting hselecting
  have hpipeline : l.replies.map Prod.fst ++ (some ticket).toList ++ requests = l.pipeline := by
    simp [pipeline, hserving, hrequests]
  constructor
  . rw [hphase]
    exact .answering (answering_dispatch ticket hello)
  . rw [pipeline, hpipeline]
    exact h.numbered
  . exact h.typed
  . rw [pipeline, hpipeline]
    exact h.awaiting
  . exact h.returned

theorem Waiting.again {earlier later : List Ticket} {call : ModeCall} {ahead : List Ticket}
    {n : Nat} (h : Waiting (earlier ++ [.ping n] ++ later) call ahead)
    : ∃ ahead, Waiting (earlier ++ [.ping n] ++ [.ping n] ++ later) call ahead := by
  obtain ⟨hlast, hdistinct, hbacklog, m, mode, hmode⟩ := h
  -- the ping is not the request, so the request is the last of the later messages
  rcases List.eq_nil_or_concat' later with rfl | ⟨rest, last, rfl⟩
  . rw [List.append_nil] at hlast
    have hping : Ticket.ping n = call.ticket := (List.append_inj' hlast rfl).2 |> List.cons.inj |>.1
    rw [hmode] at hping
    cases hping
  . rw [← List.append_assoc] at hlast
    obtain ⟨rfl, hticket⟩ := List.append_inj' hlast rfl
    have hticket : last = call.ticket := (List.cons.inj hticket).1
    refine ⟨earlier ++ [.ping n] ++ [.ping n] ++ rest, ?_, ?_, ?_, m, mode, hmode⟩
    . simp [hticket]
    . simpa using hdistinct
    . simpa using hbacklog

theorem sound_last_reply {l : ModeLink F} (h : l.Sound) {ticket : Ticket} {message : ControlMessage}
    {hello : ClientHello} (hserving : l.serving = some ticket)
    (hreply : message.isModeReply = true)
    : Sound ({ l with replies := l.replies ++ [(ticket, message)] }.proceed (.select hello)) := by
  have hpipeline : (({ l with replies := l.replies ++ [(ticket, message)] } : ModeLink F).proceed
      (.select hello)).pipeline = l.pipeline := by
    simp [pipeline, proceed, PeerPhase.selecting, hserving]
  constructor
  . exact .idle (.select hello)
  . rw [hpipeline]
    exact h.numbered
  . intro n mode reply hmem
    rcases List.mem_append.mp hmem with hmem | hmem
    . exact h.typed n mode reply hmem
    . cases List.mem_singleton.mp hmem
      exact hreply
  . rw [hpipeline]
    exact h.awaiting
  . exact h.returned

theorem sound_first_reply {l : ModeLink F} (h : l.Sound) {n : Nat} (message : ControlMessage)
    (hserving : l.serving = some (.ping n))
    : Sound { l with replies := l.replies ++ [(.ping n, message)] } := by
  constructor
  . exact h.serving
  . intro other hother
    by_cases hping : other = .ping n
    . rw [hping]
      exact h.numbered _ (by simp [pipeline, hserving])
    . apply h.numbered
      simpa [pipeline, hping] using hother
  . intro m mode reply hmem
    rcases List.mem_append.mp hmem with hmem | hmem
    . exact h.typed m mode reply hmem
    . cases List.mem_singleton.mp hmem
  . intro call hcall
    obtain ⟨ahead, hwaiting⟩ := h.awaiting call hcall
    rw [pipeline, hserving] at hwaiting
    simpa [pipeline, hserving] using hwaiting.again
  . exact h.returned

theorem sound_deliver {l : ModeLink F} (h : l.Sound) {ticket : Ticket} {message : ControlMessage}
    (hsending : l.phase.sending? = some message) (hserving : l.serving = some ticket)
    : Sound ({ l with replies := l.replies ++ [(ticket, message)] }.proceed
        (l.phase.afterTransport (.ok ()))) := by
  rcases answering_deliver (hserving ▸ h.serving).of_some hsending with
    ⟨⟨hello, hselect⟩, hreply⟩ | ⟨⟨n, rfl⟩, hnext⟩
  . rw [hselect]
    exact sound_last_reply h hserving hreply
  . apply sound_proceed (sound_first_reply h message hserving)
    rw [show ({ l with replies := _ } : ModeLink F).serving = _ from hserving]
    exact .answering hnext

theorem sound_step {l : ModeLink F} (h : l.Sound) (e : LinkEvent F) : (l.step e).Sound := by
  cases e with
  | ping =>
    simp only [step]
    split
    . exact h
    . next hawaiting => exact sound_send h rfl hawaiting
  | drain =>
    simp only [step]
    split
    . exact h
    . next hawaiting => exact sound_drain h hawaiting
  | requestRemoteMode mode =>
    simp only [step]
    split
    . exact h
    . next hawaiting => exact sound_request h mode hawaiting
  | receive =>
    simp only [step]
    split
    . next hawaiting hreplies => exact sound_receive h hawaiting hreplies
    . exact h
  | recv =>
    simp only [step]
    split
    . next hselecting hrequests => exact sound_recv h hselecting hrequests
    . exact h
  | deliver =>
    simp only [step]
    split
    . next hsending hserving => exact sound_deliver h hsending hserving
    . exact h
  | datagram datagram =>
    exact ⟨h.serving.afterDatagram datagram, h.numbered, h.typed, h.awaiting, h.returned⟩
  | run nowNs fresh results =>
    have hserver : Sound { l with server := (l.phase.step l.server (.run nowNs fresh results)).2 } :=
      ⟨h.serving, h.numbered, h.typed, h.awaiting, h.returned⟩
    exact sound_proceed hserver (h.serving.run l.server nowNs fresh results)
  | server op => exact ⟨h.serving, h.numbered, h.typed, h.awaiting, h.returned⟩

theorem sound_run (hello : ClientHello) (s : ServerState F) (events : List (LinkEvent F))
    : (Run.run step (start hello s) events).Sound :=
  Run.run_invariant (P := Sound) (fun _ e h _ => sound_step h e) (sound_start hello s)
    (Run.allSteps_true step events)

def turn : LinkEvent F := .run 0 0 .unavailable

def Replies (l : ModeLink F) : Prop :=
  ∃ more, (Run.run step l more).replies ≠ [] ∧ (Run.run step l more).awaiting = l.awaiting
    ∧ (Run.run step l more).returned = l.returned

theorem Replies.of_step {l : ModeLink F} (e : LinkEvent F) (h : (l.step e).Replies)
    (hawaiting : (l.step e).awaiting = l.awaiting) (hreturned : (l.step e).returned = l.returned)
    : l.Replies := by
  obtain ⟨more, hreplies, hkept, hkept'⟩ := h
  exact ⟨e :: more, hreplies, hkept.trans hawaiting, hkept'.trans hreturned⟩

theorem replies_of_sending {l : ModeLink F} {ticket : Ticket} {message : ControlMessage}
    (hserving : l.serving = some ticket) (hsending : l.phase.sending? = some message)
    : l.Replies := by
  have hdeliver : l.step .deliver = ({ l with replies := l.replies ++ [(ticket, message)] }.proceed
      (l.phase.afterTransport (.ok ()))) := by
    simp only [step, hserving, hsending]
  refine .of_step .deliver ⟨[], ?_, rfl, rfl⟩ ?_ ?_
  . simp [hdeliver, proceed]
  . rw [hdeliver]; rfl
  . rw [hdeliver]; rfl

theorem serving_turn {l : ModeLink F} {ticket : Ticket} (hserving : l.serving = some ticket)
    (hselecting : (l.step turn).phase.selecting = false)
    : (l.step turn).serving = some ticket := by
  have hproceed : (l.step turn).serving
      = if (l.step turn).phase.selecting then none else l.serving := rfl
  rw [hproceed, hselecting, hserving]
  rfl

theorem replies_of_readMode {l : ModeLink F} {ticket : Ticket} {hello : ClientHello}
    (hserving : l.serving = some ticket) (hphase : l.phase = .readMode hello)
    : l.Replies := by
  have hturn : (l.step turn).phase = .reply hello (.modeState l.server.runtime.mode) := by
    simp only [step, turn, hphase]
    rfl
  refine .of_step turn ?_ rfl rfl
  exact replies_of_sending (serving_turn hserving (by rw [hturn]; rfl)) (by rw [hturn]; rfl)

theorem replies_of_serve {l : ModeLink F} {ticket : Ticket} {hello : ClientHello} {mode : Mode}
    (hserving : l.serving = some ticket) (hphase : l.phase = .serve hello (.setMode mode))
    : l.Replies := by
  have hturn : (l.step turn).phase
      = (PeerPhase.answer hello (l.server.setMode mode 0) fun _ => .readMode hello).1 := by
    simp only [step, turn, hphase]
    rfl
  refine .of_step turn ?_ rfl rfl
  rcases hset : l.server.setMode mode 0 with ⟨e | _, s⟩ <;> rw [hset] at hturn
  . exact replies_of_sending (serving_turn hserving (by rw [hturn]; rfl)) (by rw [hturn]; rfl)
  . exact replies_of_readMode (serving_turn hserving (by rw [hturn]; rfl)) hturn

theorem replies_of_answering {l : ModeLink F} {ticket : Ticket} (hserving : l.serving = some ticket)
    (hanswering : Answering ticket l.phase)
    : l.Replies := by
  generalize hphase : l.phase = phase at hanswering
  cases hanswering with
  | pong n hello => exact replies_of_sending hserving (by rw [hphase]; rfl)
  | readMode ticket hello => exact replies_of_readMode hserving hphase
  | modeState ticket hello mode => exact replies_of_sending hserving (by rw [hphase]; rfl)
  | serve n mode hello => exact replies_of_serve hserving hphase
  | error n mode hello code reason => exact replies_of_sending hserving (by rw [hphase]; rfl)

theorem replies_of_select {l : ModeLink F} {hello : ClientHello} (hphase : l.phase = .select hello)
    (hpipeline : l.replies ≠ [] ∨ l.requests ≠ [])
    : l.Replies := by
  rcases hpipeline with hreplies | hrequests
  . exact ⟨[], hreplies, rfl, rfl⟩
  obtain ⟨ticket, requests, hrequests⟩ := List.exists_cons_of_ne_nil hrequests
  have hrecv : l.step .recv = { l with
      phase := PeerPhase.dispatch hello ticket.message
      requests := requests
      serving := some ticket } := by
    simp only [step, hphase, hrequests]
    rfl
  refine .of_step .recv ?_ (by rw [hrecv]) (by rw [hrecv])
  rw [hrecv]
  exact replies_of_answering rfl (answering_dispatch ticket hello)

theorem replies_of_sound {l : ModeLink F} (h : l.Sound) (hpipeline : l.pipeline ≠ [])
    : l.Replies := by
  have hserving := h.serving
  generalize hticket : l.serving = serving at hserving
  cases hserving with
  | answering hanswering => exact replies_of_answering hticket hanswering
  | idle hidle =>
    have hpending : l.replies ≠ [] ∨ l.requests ≠ [] := by
      by_contra hnone
      push Not at hnone
      exact hpipeline (by simp [pipeline, hticket, hnone])
    generalize hphase : l.phase = phase at hidle
    cases hidle with
    | select hello => exact replies_of_select hphase hpending
    | ingest hello datagram =>
      have hturn : (l.step turn).phase = .select hello := by
        simp only [step, turn, hphase]
        rfl
      exact .of_step turn (replies_of_select hturn hpending) rfl rfl

theorem returns_of_sound {l : ModeLink F} (h : l.Sound) {call : ModeCall}
    (hawaiting : l.awaiting = some call)
    : ∃ more answers message,
        (Run.run step l more).returned = l.returned ++ [⟨call, answers, message⟩] := by
  obtain ⟨ahead, hwaiting⟩ := h.awaiting call hawaiting
  obtain ⟨more, hreplies, hkept, hreturned⟩ := replies_of_sound h (by simp [hwaiting.last])
  obtain ⟨⟨answers, message⟩, replies, hreplies⟩ := List.exists_cons_of_ne_nil hreplies
  refine ⟨more ++ [.receive], answers, message, ?_⟩
  rw [Run.run_append, Run.run_cons, Run.run_nil, ← hreturned]
  simp only [step, hkept, hawaiting, hreplies]

theorem own_iff_quiet (hello : ClientHello) (s : ServerState F) (events : List (LinkEvent F))
    : (∀ ret ∈ (Run.run step (start hello s) events).returned, ret.Own ↔ ret.call.backlog = [])
        ∧
      ∀ call, (Run.run step (start hello s) events).awaiting = some call →
        ∃ more answers message,
          (Run.run step (start hello s) (events ++ more)).returned
            =
          (Run.run step (start hello s) events).returned ++ [⟨call, answers, message⟩] := by
  have hsound := sound_run hello s events
  refine ⟨hsound.returned, ?_⟩
  intro call hawaiting
  simp only [Run.run_append]
  exact returns_of_sound hsound hawaiting

/--
A heartbeat is answered. `drain_control_messages` stops after the `Pong`, and the operator asks for
`Live` before the `ModeState` is read.
-/
def heartbeat : List (LinkEvent Floats.rational) :=
  [.ping, .recv, .deliver, .drain, turn, .deliver, .requestRemoteMode .live, .receive]

/--
The call that asks for `Live` returns `Ok(Idle)` before the handler has seen its request.
-/
theorem own_fails
    : ∃ ret ∈ (Run.run step (start (ServerState.panelHello 7 "panel") (.new .default))
          heartbeat).returned,
        ret.call.ticket = .setMode 1 .live ∧ ret.result.toOption = some .idle ∧ ¬ ret.Own := by
  decide

end ModeLink

end MotionStage
