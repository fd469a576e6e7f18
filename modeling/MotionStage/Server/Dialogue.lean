import MotionStage.Data.Exchange
import MotionStage.Data.Progress
import MotionStage.Server.ControlLoop

/-!
This module contains the active loop of a handler as a conversation: what it sends for each control
message that it takes, and that neither motion datagrams nor other callers come in between.
-/

namespace MotionStage

variable {F : Floats}

def SignalPayload.isOffer : SignalPayload → Bool
  | .sdp ⟨.offer, _⟩ => true
  | _ => false

namespace ControlMessage

def isHeartbeat : ControlMessage → Bool
  | .ping | .pong => true
  | _ => false

def baselineAction? : ControlMessage → Option BaselineAction
  | .resetSceneToBaseline _ => some .resetScene
  | .commitSceneBaseline _ => some .commitScene
  | .commitObjectBaseline _ _ => some .commitObject
  | _ => none

end ControlMessage

inductive Answers (hello : ClientHello) : ControlMessage → List ControlMessage → Prop where
  | heartbeat (mode : Mode) : Answers hello .ping [.pong, .modeState mode]
  | pong : Answers hello .pong []
  | mode (requested active : Mode) (hrole : .operator ∈ hello.roles)
    : Answers hello (.setMode requested) [.modeState active]
  | baseline (message : ControlMessage) (action : BaselineAction) (changed : Nat)
    (hrole : .operator ∈ hello.roles) (haction : message.baselineAction? = some action)
    : Answers hello message [.baselineActionApplied action changed]
  | offer (streamId trackId : String) (sdp : SdpMessage)
    : Answers hello (.createVideoOffer streamId trackId) [.videoOffer sdp]
  /-- an offer of the client, for the server -/
  | answered (signal : SignalMessage) (sdp : SdpMessage) (hfrom : signal.fromDevice = hello.deviceId)
    (hto : signal.toDevice = hello.deviceId) (hoffer : signal.payload.isOffer = true)
    : Answers hello (.videoSignal signal) [.videoOffer sdp]
  /-- an answer or a candidate for the server, or a signal for another device -/
  | silent (signal : SignalMessage) (hfrom : signal.fromDevice = hello.deviceId)
    (hquiet : signal.toDevice = hello.deviceId → signal.payload.isOffer = false)
    : Answers hello (.videoSignal signal) []
  | batch (messages : List SignalMessage) : Answers hello .drainSignals [.signalsBatch messages]
  | error (message : ControlMessage) (code : RejectCode) (reason : String)
    (hbeat : message.isHeartbeat = false)
    : Answers hello message [.error code reason]

/--
The messages that take a server call, once the tests before it are passed.
-/
inductive Served (hello : ClientHello) : ControlMessage → Prop where
  | setMode (mode : Mode) (hrole : .operator ∈ hello.roles) : Served hello (.setMode mode)
  | baseline (message : ControlMessage) (action : BaselineAction)
    (hrole : .operator ∈ hello.roles) (haction : message.baselineAction? = some action)
    : Served hello message
  | createVideoOffer (streamId trackId : String)
    : Served hello (.createVideoOffer streamId trackId)
  | videoSignal (signal : SignalMessage) (hfrom : signal.fromDevice = hello.deviceId)
    : Served hello (.videoSignal signal)
  | drainSignals : Served hello .drainSignals

inductive Engaged (hello : ClientHello)
    : PeerPhase F → ControlMessage → List ControlMessage → Prop where
  | sendPong : Engaged hello (.sendPong hello) .ping []
  | readMode (message : ControlMessage) (earlier : List ControlMessage)
    (h : ∀ mode, Answers hello message (earlier ++ [.modeState mode]))
    : Engaged hello (.readMode hello) message earlier
  | serve (message : ControlMessage) (h : Served hello message)
    : Engaged hello (.serve hello message) message []
  | reply (message reply : ControlMessage) (earlier : List ControlMessage)
    (h : Answers hello message (earlier ++ [reply]))
    : Engaged hello (.reply hello reply) message earlier
  | sendError (message : ControlMessage) (code : RejectCode) (reason : String)
    (h : Answers hello message [.error code reason])
    : Engaged hello (.sendError hello code reason) message []

inductive Talks (hello : ClientHello)
    : PeerPhase F → List ControlMessage → List ControlMessage → Prop where
  | select (taken sent : List ControlMessage) (h : Exchange.Replied (Answers hello) taken sent)
    : Talks hello (.select hello) taken sent
  | ingest (taken sent : List ControlMessage) (datagram : ServerState.MotionDatagram F)
    (h : Exchange.Replied (Answers hello) taken sent)
    : Talks hello (.ingest hello datagram) taken sent
  | engaged (phase : PeerPhase F) (message : ControlMessage) (taken sent earlier : List ControlMessage)
    (h : Exchange.Replied (Answers hello) taken sent) (hphase : Engaged hello phase message earlier)
    : Talks hello phase (taken ++ [message]) (sent ++ earlier)
  | left (phase : PeerPhase F) (taken sent : List ControlMessage) (hphase : phase.left = true)
    (h : Exchange.InOrder (Answers hello) taken sent)
    : Talks hello phase taken sent

section Steps

variable {hello : ClientHello} {phase : PeerPhase F} {message : ControlMessage}
  {taken sent earlier : List ControlMessage}

theorem Served.error (h : Served hello message) (code : RejectCode) (reason : String)
    : Answers hello message [.error code reason] := by
  cases h with
  | baseline message action hrole haction =>
    apply Answers.error
    cases message <;> first | rfl | cases haction
  | _ => exact .error _ code reason rfl

theorem Engaged.answer (h : Engaged hello phase message earlier)
    : ∃ answer, Answers hello message answer ∧ earlier <+: answer := by
  cases h with
  | sendPong => exact ⟨_, .heartbeat .idle, List.nil_prefix⟩
  | readMode message earlier h => exact ⟨_, h .idle, List.prefix_append _ _⟩
  | serve message h => exact ⟨_, h.error .roleDenied "", List.nil_prefix⟩
  | reply message reply earlier h => exact ⟨_, h, List.prefix_append _ _⟩
  | sendError message code reason h => exact ⟨_, h, List.nil_prefix⟩

theorem Engaged.selecting (h : Engaged hello phase message earlier) : phase.selecting = false := by
  cases h <;> rfl

theorem Engaged.afterReceived (h : Engaged hello phase message earlier)
    (received : Except String ControlMessage)
    : phase.afterReceived received = phase := by
  cases h <;> rfl

theorem Engaged.afterDatagram (h : Engaged hello phase message earlier)
    (datagram : Except String (ServerState.MotionDatagram F))
    : phase.afterDatagram datagram = phase := by
  cases h <;> rfl

theorem Talks.inOrder (h : Talks hello phase taken sent)
    : Exchange.InOrder (Answers hello) taken sent := by
  cases h with
  | select taken sent h => exact .inl h
  | ingest taken sent datagram h => exact .inl h
  | engaged phase message taken sent earlier h hphase =>
    obtain ⟨answer, hanswer, hpart⟩ := hphase.answer
    exact .inr (.part h hanswer hpart)
  | left phase taken sent hphase h => exact h

theorem Talks.replied (h : Talks hello phase taken sent) (hselecting : phase.selecting = true)
    : Exchange.Replied (Answers hello) taken sent := by
  cases h with
  | select taken sent h => exact h
  | ingest => cases hselecting
  | engaged phase message taken sent earlier h hphase =>
    rw [hphase.selecting] at hselecting
    cases hselecting
  | left phase taken sent hphase h =>
    rw [PeerPhase.selecting_of_left hphase] at hselecting
    cases hselecting

theorem talks_answered (h : Exchange.Replied (Answers hello) taken sent) {answer : List ControlMessage}
    (hanswer : Answers hello message answer)
    : Talks (F := F) hello (.select hello) (taken ++ [message]) (sent ++ answer) :=
  .select _ _ (.concat h hanswer)

theorem talks_asOperator (h : Exchange.Replied (Answers hello) taken sent) (reason : String)
    (hserved : .operator ∈ hello.roles → Served hello message)
    (herror : Answers hello message [.error .roleDenied reason])
    : Talks (F := F) hello (PeerPhase.asOperator hello reason message) (taken ++ [message]) sent := by
  rw [← List.append_nil sent, PeerPhase.asOperator]
  split
  . exact .engaged _ _ _ _ _ h (.sendError message _ _ herror)
  . next hrole =>
    simp only [Bool.not_eq_true', Bool.not_eq_false, List.contains_iff_mem] at hrole
    exact .engaged _ _ _ _ _ h (.serve message (hserved hrole))

theorem talks_dispatch (h : Exchange.Replied (Answers hello) taken sent) (message : ControlMessage)
    : Talks (F := F) hello (PeerPhase.dispatch hello message) (taken ++ [message]) sent := by
  have hengaged : ∀ {phase : PeerPhase F}, Engaged hello phase message [] →
      Talks hello phase (taken ++ [message]) sent := by
    intro phase hphase
    rw [← List.append_nil sent]
    exact .engaged _ _ _ _ _ h hphase
  cases message with
  | ping => exact hengaged .sendPong
  | pong =>
    rw [← List.append_nil sent]
    exact talks_answered h .pong
  | setMode mode => exact talks_asOperator h _ (.setMode mode) (.error _ _ _ rfl)
  | resetSceneToBaseline sceneId =>
    exact talks_asOperator h _ (.baseline _ _ · rfl) (.error _ _ _ rfl)
  | commitSceneBaseline sceneId =>
    exact talks_asOperator h _ (.baseline _ _ · rfl) (.error _ _ _ rfl)
  | commitObjectBaseline sceneId objectId =>
    exact talks_asOperator h _ (.baseline _ _ · rfl) (.error _ _ _ rfl)
  | createVideoOffer streamId trackId => exact hengaged (.serve _ (.createVideoOffer _ _))
  | drainSignals => exact hengaged (.serve _ .drainSignals)
  | videoSignal signal =>
    simp only [PeerPhase.dispatch]
    split
    . exact hengaged (.sendError _ _ _ (.error _ _ _ rfl))
    . next hfrom => exact hengaged (.serve _ (.videoSignal signal (not_not.mp hfrom)))
  | _ => exact hengaged (.sendError _ _ _ (.error _ _ _ rfl))

theorem isOffer_of_handleVideoSignal {s : ServerState F} {deviceId : Uuid} {payload : SignalPayload}
    {results : WebRtcResults} {answer : Option SdpMessage}
    (h : (s.handleVideoSignal deviceId payload results).1 = .ok answer)
    : payload.isOffer = answer.isSome := by
  have hforward : ∀ {s : ServerState F},
      s.forwardToPeer deviceId results = .ok answer → answer = none := by
    intro s hforward
    simp only [ServerState.forwardToPeer] at hforward
    repeat' split at hforward
    all_goals cases hforward; try rfl
  revert h
  simp only [ServerState.handleVideoSignal]
  split
  . nofun
  split
  . split
    . nofun
    split
    . nofun
    split
    . nofun
    . rintro ⟨⟩; rfl
  . intro h; rw [hforward h]; rfl
  . intro h; rw [hforward h]; rfl

theorem talks_answer {α : Type} (h : Exchange.Replied (Answers hello) taken sent)
    (hserved : Served hello message) (r : Except ServerError α × ServerState F)
    {next : α → PeerPhase F}
    (hnext : ∀ a, r.1 = .ok a → Talks hello (next a) (taken ++ [message]) sent)
    : Talks hello (PeerPhase.answer hello r next).1 (taken ++ [message]) sent := by
  rcases r with ⟨e | a, s⟩
  . rw [← List.append_nil sent]
    exact .engaged _ _ _ _ _ h (.sendError message _ _ (hserved.error _ _))
  . exact hnext a rfl

theorem talks_reply (h : Exchange.Replied (Answers hello) taken sent) {reply : ControlMessage}
    (hanswer : Answers hello message [reply])
    : Talks (F := F) hello (.reply hello reply) (taken ++ [message]) sent := by
  rw [← List.append_nil sent]
  exact .engaged _ _ _ _ _ h (.reply message reply [] hanswer)

theorem talks_silent (h : Exchange.Replied (Answers hello) taken sent)
    (hanswer : Answers hello message [])
    : Talks (F := F) hello (.select hello) (taken ++ [message]) sent := by
  rw [← List.append_nil sent]
  exact talks_answered h hanswer

theorem talks_signal (h : Exchange.Replied (Answers hello) taken sent) {signal : SignalMessage}
    (hfrom : signal.fromDevice = hello.deviceId) (s : ServerState F) (nowNs : Nat)
    (results : WebRtcResults)
    : Talks hello (PeerPhase.runServe hello s nowNs results (.videoSignal signal)).1
        (taken ++ [.videoSignal signal]) sent := by
  have hserved : Served hello (.videoSignal signal) := .videoSignal signal hfrom
  simp only [PeerPhase.runServe]
  split
  . next hto =>
    apply talks_answer h hserved
    intro answer hresult
    have hoffer := isOffer_of_handleVideoSignal hresult
    cases answer with
    | none => exact talks_silent h (.silent signal hfrom fun _ => hoffer)
    | some sdp => exact talks_reply h (.answered signal sdp hfrom hto hoffer)
  . next hto =>
    apply talks_answer h hserved
    exact fun _ _ => talks_silent h (.silent signal hfrom fun h => absurd h hto)

theorem talks_baseline (h : Exchange.Replied (Answers hello) taken sent)
    {action : BaselineAction} (hrole : .operator ∈ hello.roles)
    (haction : message.baselineAction? = some action) (s : ServerState F) (nowNs : Nat)
    (results : WebRtcResults)
    : Talks hello (PeerPhase.runServe hello s nowNs results message).1 (taken ++ [message]) sent := by
  have hserved : Served hello message := .baseline message action hrole haction
  have hreply : ∀ changed,
      Talks (F := F) hello (.reply hello (.baselineActionApplied action changed))
        (taken ++ [message]) sent :=
    fun changed => talks_reply h (.baseline message action changed hrole haction)
  cases message with
  | resetSceneToBaseline sceneId =>
    cases haction
    exact talks_answer h hserved _ fun changed _ => hreply changed
  | commitSceneBaseline sceneId =>
    cases haction
    exact talks_answer h hserved _ fun changed _ => hreply changed
  | commitObjectBaseline sceneId objectId =>
    cases haction
    exact talks_answer h hserved _ fun changed _ => hreply changed
  | _ => cases haction

theorem talks_runServe (h : Exchange.Replied (Answers hello) taken sent)
    (hserved : Served hello message) (s : ServerState F) (nowNs : Nat) (results : WebRtcResults)
    : Talks hello (PeerPhase.runServe hello s nowNs results message).1 (taken ++ [message]) sent := by
  cases hserved with
  | setMode mode hrole =>
    apply talks_answer h (.setMode mode hrole)
    intro _ _
    rw [← List.append_nil sent]
    exact .engaged _ _ _ _ _ h (.readMode _ [] fun active => .mode mode active hrole)
  | baseline message action hrole haction => exact talks_baseline h hrole haction s nowNs results
  | createVideoOffer streamId trackId =>
    exact talks_answer h (.createVideoOffer _ _) _ fun sdp _ => talks_reply h (.offer _ _ sdp)
  | videoSignal signal hfrom => exact talks_signal h hfrom s nowNs results
  | drainSignals =>
    exact talks_answer h .drainSignals _ fun messages _ => talks_reply h (.batch messages)

theorem talks_turn (h : Talks hello phase taken sent) (s : ServerState F) (nowNs : Nat) (fresh : Uuid)
    (results : WebRtcResults)
    : Talks hello (phase.runCall s nowNs fresh results).1 taken sent := by
  cases h with
  | select taken sent h => exact .select taken sent h
  | ingest taken sent datagram h => exact .select taken sent h
  | left phase taken sent hphase h =>
    have hleft := PeerPhase.left_step hphase s (.run nowNs fresh results)
    exact .left _ taken sent hleft h
  | engaged phase message taken sent earlier h hphase =>
    cases hphase with
    | sendPong => exact .engaged _ _ _ _ _ h .sendPong
    | readMode message earlier hmode =>
      exact .engaged _ _ _ _ _ h (.reply message _ earlier (hmode s.runtime.mode))
    | serve message hserved =>
      rw [List.append_nil]
      exact talks_runServe h hserved s nowNs results
    | reply message reply earlier hreply =>
      exact .engaged _ _ _ _ _ h (.reply message reply earlier hreply)
    | sendError message code reason herror =>
      exact .engaged _ _ _ _ _ h (.sendError message code reason herror)

theorem talks_sent (h : Talks hello phase taken sent)
    : Talks hello (phase.afterTransport (.ok ())) taken (sent ++ phase.sending?.toList) := by
  cases h with
  | select taken sent h =>
    refine .select taken (sent ++ []) ?_
    rwa [List.append_nil]
  | ingest taken sent datagram h =>
    refine .ingest taken (sent ++ []) datagram ?_
    rwa [List.append_nil]
  | left phase taken sent hphase h =>
    have hnone : phase.sending? = none := by cases phase <;> first | rfl | cases hphase
    rw [hnone, Option.toList, List.append_nil]
    exact .left _ taken sent (PeerPhase.left_step hphase (.new .default) (.transport (.ok ()))) h
  | engaged phase message taken sent earlier h hphase =>
    rw [List.append_assoc]
    cases hphase with
    | sendPong => exact .engaged _ _ _ _ _ h (.readMode _ [.pong] .heartbeat)
    | readMode message earlier hmode =>
      refine .engaged _ _ _ _ (earlier ++ []) h ?_
      rw [List.append_nil]
      exact .readMode message earlier hmode
    | serve message hserved => exact .engaged _ _ _ _ _ h (.serve message hserved)
    | reply message reply earlier hreply => exact talks_answered h hreply
    | sendError message code reason herror => exact talks_answered h herror

theorem talks_failed (h : Talks hello phase taken sent) (e : String)
    : Talks hello (phase.afterTransport (.error e)) taken sent := by
  cases h with
  | select taken sent h => exact .select taken sent h
  | ingest taken sent datagram h => exact .ingest taken sent datagram h
  | left phase taken sent hphase h =>
    exact .left _ taken sent (PeerPhase.left_step hphase (.new .default) (.transport (.error e))) h
  | engaged phase message taken sent earlier h hphase =>
    have hinOrder := (Talks.engaged phase message taken sent earlier h hphase).inOrder
    cases hphase with
    | sendPong => exact .left _ _ _ rfl hinOrder
    | readMode message earlier hmode => exact .engaged _ _ _ _ _ h (.readMode message earlier hmode)
    | serve message hserved => exact .engaged _ _ _ _ _ h (.serve message hserved)
    | reply message reply earlier hreply => exact .left _ _ _ rfl hinOrder
    | sendError message code reason herror => exact .left _ _ _ rfl hinOrder

theorem talks_received (h : Talks hello phase taken sent) (message : ControlMessage)
    : Talks hello (phase.afterReceived (.ok message))
        (taken ++ if phase.selecting then [message] else []) sent := by
  cases h with
  | select taken sent h => exact talks_dispatch h message
  | ingest taken sent datagram h =>
    refine .ingest (taken ++ []) sent datagram ?_
    rwa [List.append_nil]
  | left phase taken sent hphase h =>
    rw [PeerPhase.selecting_of_left hphase, if_neg nofun, List.append_nil]
    exact .left _ taken sent (PeerPhase.left_step hphase (.new .default) (.received (.ok message))) h
  | engaged phase message taken sent earlier h hphase =>
    rw [hphase.selecting, if_neg nofun, List.append_nil, hphase.afterReceived]
    exact .engaged _ _ _ _ _ h hphase

theorem talks_lost (h : Talks hello phase taken sent) (e : String)
    : Talks hello (phase.afterReceived (.error e)) taken sent := by
  cases h with
  | select taken sent h => exact .left _ taken sent rfl (.inl h)
  | ingest taken sent datagram h => exact .ingest taken sent datagram h
  | left phase taken sent hphase h =>
    exact .left _ taken sent (PeerPhase.left_step hphase (.new .default) (.received (.error e))) h
  | engaged phase message taken sent earlier h hphase =>
    rw [hphase.afterReceived]
    exact .engaged _ _ _ _ _ h hphase

theorem talks_datagram (h : Talks hello phase taken sent)
    (datagram : Except String (ServerState.MotionDatagram F))
    : Talks hello (phase.afterDatagram datagram) taken sent := by
  cases h with
  | select taken sent h =>
    cases datagram with
    | ok datagram => exact .ingest taken sent datagram h
    | error e => exact .left _ taken sent rfl (.inl h)
  | ingest taken sent datagram h => exact .ingest taken sent datagram h
  | left phase taken sent hphase h =>
    exact .left _ taken sent (PeerPhase.left_step hphase (.new .default) (.datagram datagram)) h
  | engaged phase message taken sent earlier h hphase =>
    rw [hphase.afterDatagram]
    exact .engaged _ _ _ _ _ h hphase

end Steps

/--
A connection in its active loop, with the control messages that it has taken there.
-/
structure Dialogue (F : Floats) where
  connection : Connection F
  taken : List ControlMessage

namespace Dialogue

def start (hello : ClientHello) (s : ServerState F) : Dialogue F :=
  ⟨⟨⟨.select hello, [], some hello.deviceId, none⟩, s⟩, []⟩

def phase (l : Dialogue F) : PeerPhase F := l.connection.peer.phase

def sent (l : Dialogue F) : List ControlMessage := l.connection.peer.sent

def takes (l : Dialogue F) : ConnectionInput F → List ControlMessage
  | .peer (.received (.ok message)) => if l.phase.selecting then [message] else []
  | _ => []

def step (l : Dialogue F) (e : ConnectionInput F) : Dialogue F :=
  ⟨l.connection.step e, l.taken ++ l.takes e⟩

theorem talks_step {hello : ClientHello} {l : Dialogue F} (h : Talks hello l.phase l.taken l.sent)
    (e : ConnectionInput F)
    : Talks hello (l.step e).phase (l.step e).taken (l.step e).sent := by
  have hnothing : ∀ {phase : PeerPhase F} {sent : List ControlMessage},
      Talks hello phase l.taken sent → Talks hello phase (l.taken ++ []) sent := by
    intro phase sent h
    rwa [List.append_nil]
  cases e with
  | server op => exact hnothing h
  | peer e =>
    cases e with
    | transport result =>
      cases result with
      | ok => exact hnothing (talks_sent h)
      | error e => exact hnothing (talks_failed h e)
    | received message =>
      cases message with
      | ok message => exact talks_received h message
      | error e => exact hnothing (talks_lost h e)
    | datagram datagram => exact hnothing (talks_datagram h datagram)
    | run nowNs fresh results =>
      exact hnothing (talks_turn h l.connection.server nowNs fresh results)

theorem talks_run (hello : ClientHello) (s : ServerState F) (events : List (ConnectionInput F))
    : Talks hello (Run.run step (start hello s) events).phase
        (Run.run step (start hello s) events).taken (Run.run step (start hello s) events).sent :=
  Run.run_invariant (P := fun l => Talks hello l.phase l.taken l.sent)
    (fun _ e h _ => talks_step h e) (.select [] [] .nil) (Run.allSteps_true step events)

section Attended

/--
How many steps the handler has ahead of it until it is back at its `select!`.
-/
def pending : PeerPhase F → Nat
  | .sendPong _ | .serve _ _ => 3
  | .readMode _ => 2
  | .reply _ _ | .sendError _ _ _ | .ingest _ _ => 1
  | _ => 0

/--
The handler has its turn on the server, or what it sends has been sent. Nothing else happens.
-/
def Attended (_ : Dialogue F) (e : ConnectionInput F) : Prop :=
  e = .peer (.run 0 0 .unavailable) ∨ e = .peer (.transport (.ok ()))

variable {hello : ClientHello} {taken : List ControlMessage}

theorem answer_open {α : Type} (r : Except ServerError α × ServerState F) {next : α → PeerPhase F}
    (h : ∀ a, (next a).left = false ∧ pending (next a) < 3)
    : (PeerPhase.answer hello r next).1.left = false
        ∧ pending (PeerPhase.answer hello r next).1 < 3 := by
  rcases r with ⟨e | a, s⟩
  . exact ⟨rfl, by simp [PeerPhase.answer, pending]⟩
  . exact h a

theorem runServe_open (hello : ClientHello) (s : ServerState F) (nowNs : Nat)
    (results : WebRtcResults) (message : ControlMessage)
    : (PeerPhase.runServe hello s nowNs results message).1.left = false
        ∧ pending (PeerPhase.runServe hello s nowNs results message).1 < 3 := by
  have hreply : ∀ reply : ControlMessage, (PeerPhase.reply (F := F) hello reply).left = false
      ∧ pending (PeerPhase.reply (F := F) hello reply) < 3 := fun _ => ⟨rfl, by simp [pending]⟩
  have hselect : (PeerPhase.select (F := F) hello).left = false
      ∧ pending (PeerPhase.select (F := F) hello) < 3 := ⟨rfl, by simp [pending]⟩
  cases message with
  | setMode mode => exact answer_open _ fun _ => ⟨rfl, by simp [pending]⟩
  | videoSignal signal =>
    simp only [PeerPhase.runServe]
    split
    . apply answer_open
      rintro (_ | sdp)
      . exact hselect
      . exact hreply _
    . exact answer_open _ fun _ => hselect
  | resetSceneToBaseline => exact answer_open _ fun _ => hreply _
  | commitSceneBaseline => exact answer_open _ fun _ => hreply _
  | commitObjectBaseline => exact answer_open _ fun _ => hreply _
  | createVideoOffer => exact answer_open _ fun _ => hreply _
  | drainSignals => exact answer_open _ fun _ => hreply _
  | _ => exact hselect

theorem open_turn {phase : PeerPhase F} {sent : List ControlMessage}
    (h : Talks hello phase taken sent) (hleft : phase.left = false) (s : ServerState F)
    : (phase.runCall s 0 0 .unavailable).1.left = false := by
  cases h with
  | left phase taken sent hphase => rw [hphase] at hleft; cases hleft
  | engaged phase message taken sent earlier _ hphase =>
    cases hphase with
    | serve message _ => exact (runServe_open hello s 0 .unavailable message).1
    | _ => rfl
  | _ => rfl

theorem open_sent {phase : PeerPhase F} {sent : List ControlMessage}
    (h : Talks hello phase taken sent) (hleft : phase.left = false)
    : (phase.afterTransport (.ok ())).left = false := by
  cases h with
  | left phase taken sent hphase => rw [hphase] at hleft; cases hleft
  | engaged phase message taken sent earlier _ hphase => cases hphase <;> rfl
  | _ => rfl

theorem closer {phase : PeerPhase F} {sent : List ControlMessage} (h : Talks hello phase taken sent)
    (hleft : phase.left = false) (hselecting : ¬ phase.selecting = true) (s : ServerState F)
    : pending (phase.runCall s 0 0 .unavailable).1 < pending phase
        ∨ pending (phase.afterTransport (.ok ())) < pending phase := by
  cases h with
  | select => exact absurd rfl hselecting
  | left phase taken sent hphase => rw [hphase] at hleft; cases hleft
  | ingest => exact .inl (by simp [PeerPhase.runCall, pending])
  | engaged phase message taken sent earlier _ hphase =>
    cases hphase with
    | sendPong => exact .inr (by simp [PeerPhase.afterTransport, pending])
    | readMode => exact .inl (by simp [PeerPhase.runCall, pending])
    | serve message _ => exact .inl (runServe_open hello s 0 .unavailable message).2
    | reply => exact .inr (by simp [PeerPhase.afterTransport, pending])
    | sendError => exact .inr (by simp [PeerPhase.afterTransport, pending])

structure Open (hello : ClientHello) (taken : List ControlMessage) (l : Dialogue F) : Prop where
  talks : Talks hello l.phase l.taken l.sent
  left : l.phase.left = false
  taken : l.taken = taken

theorem open_step {l : Dialogue F} (h : Open hello taken l) {e : ConnectionInput F}
    (he : Attended l e)
    : Open hello taken (l.step e) := by
  rcases he with rfl | rfl
  . exact ⟨talks_step h.talks _, open_turn h.talks h.left l.connection.server,
      (List.append_nil l.taken).trans h.taken⟩
  . exact ⟨talks_step h.talks _, open_sent h.talks h.left,
      (List.append_nil l.taken).trans h.taken⟩

theorem exists_closer {l : Dialogue F} (h : Open hello taken l)
    (hselecting : ¬ l.phase.selecting = true)
    : ∃ e, Attended l e ∧ pending (l.step e).phase < pending l.phase := by
  rcases closer h.talks h.left hselecting l.connection.server with hturn | hsent
  . exact ⟨_, .inl rfl, hturn⟩
  . exact ⟨_, .inr rfl, hsent⟩

end Attended

/--
What a handler sends in its active loop is a row of answers to what it has taken, in the same order,
of which the last one may be unfinished. None is missing once the handler is back at its `select!`,
and unless it leaves the loop it gets back there.
-/
theorem in_order (hello : ClientHello) (s : ServerState F) (events : List (ConnectionInput F))
    : Exchange.InOrder (Answers hello) (Run.run step (start hello s) events).taken
          (Run.run step (start hello s) events).sent
        ∧ ((Run.run step (start hello s) events).phase.selecting = true →
          Exchange.Replied (Answers hello) (Run.run step (start hello s) events).taken
            (Run.run step (start hello s) events).sent)
        ∧ ((Run.run step (start hello s) events).phase.left = false →
          ∃ later, Run.AllSteps step Attended (Run.run step (start hello s) events) later
            ∧ (Run.run step (start hello s) (events ++ later)).phase.selecting = true
            ∧ Exchange.Replied (Answers hello) (Run.run step (start hello s) events).taken
                (Run.run step (start hello s) (events ++ later)).sent) := by
  have htalks := talks_run hello s events
  refine ⟨htalks.inOrder, htalks.replied, ?_⟩
  intro hopen
  obtain ⟨later, hlater, hfinal⟩ := Run.exists_final step (fun l => pending l.phase)
    (fun l => l.phase.selecting = true) (P := Open hello (Run.run step (start hello s) events).taken)
    (C := Attended) (fun _ _ h he => open_step h he) (fun _ h => exists_closer h)
    ⟨htalks, hopen, rfl⟩
  have hkept := Run.run_invariant (P := Open hello (Run.run step (start hello s) events).taken)
    (fun _ _ h he => open_step h he) ⟨htalks, hopen, rfl⟩ hlater
  refine ⟨later, hlater, ?_, ?_⟩
  . rwa [Run.run_append]
  . rw [Run.run_append, ← hkept.taken]
    exact hkept.talks.replied hfinal

end Dialogue

end MotionStage
