import MotionStage.Client.Handshake

/-!
This module contains the end of the handshake: it takes a bounded number of steps, and over a
reliable transport it gets to its end, where the client has a session exactly if the handler has
granted it one.
-/

namespace MotionStage

variable {F : Floats}

namespace PeerPhase

def sends : PeerPhase F → Bool
  | .openControl => true
  | phase => phase.sending?.isSome

def runs : PeerPhase F → Bool
  | .readServerHello | .discover _ | .transportConnect _ | .exchangeHello _ | .authenticate _
  | .register _ _ | .refuse _ _ | .syncScene _ | .activate _ => true
  | _ => false

def isDone : PeerPhase F → Bool
  | .done _ => true
  | _ => false

theorem step_of_sending {phase : PeerPhase F} (h : phase.sending?.isSome = true)
    (s : ServerState F) {e : PeerEvent F} (he : ∀ result, e ≠ .transport result)
    : (phase.step s e).1 = phase := by
  cases e with
  | transport result => exact absurd rfl (he result)
  | _ => cases phase <;> first | rfl | cases h

end PeerPhase

def ConnectPhase.sends : ConnectPhase → Bool
  | .sendClientHello | .sendRegisterRequest => true
  | _ => false

namespace Peer

/--
A registration that is granted has been told to the client, or is being told to it.
-/
def Delivers (p : Peer F) : Prop :=
  ∀ granted, p.accepted = some granted →
    .registerAccepted granted ∈ p.sent ∨ p.phase.sending? = some (.registerAccepted granted)

theorem delivers_step {p : Peer F} (h : p.Delivers) (s : ServerState F) {e : PeerEvent F}
    (he : ∀ reason, e ≠ .transport (.error reason))
    : (p.step s e).1.Delivers := by
  intro granted hgranted
  simp only [step, acceptedAt] at hgranted ⊢
  split at hgranted
  . next hnext =>
    cases hgranted
    rw [hnext]
    exact .inr rfl
  . rcases h granted hgranted with hmem | hsending
    . left
      split
      . exact List.mem_append_left _ hmem
      . exact hmem
    . have hsome : p.phase.sending?.isSome = true := by rw [hsending]; rfl
      cases e with
      | transport result =>
        cases result with
        | error reason => exact absurd rfl (he reason)
        | ok u => exact .inl (List.mem_append_right _ (by rw [hsending]; exact List.mem_singleton_self _))
      | _ =>
        right
        rw [PeerPhase.step_of_sending hsome s (by simp)]
        exact hsending

end Peer

namespace Handshake

def enabled (l : Handshake F) : HandshakeEvent F → Bool
  | .transport _ => l.phase.sends
  | .receive => l.phase.listening && !l.toServer.isEmpty
  | .lose _ => l.phase.listening
  | .run _ _ _ => l.phase.runs
  | .advance =>
    match l.client with
    | .acceptControl | .recvServerHello | .recvRegistration => !l.toClient.isEmpty
    | .sendClientHello | .sendRegisterRequest => true
    | .done _ => false
  | .giveUp _ => !l.client.isDone
  | .server _ => false

def remaining (l : Handshake F) : Nat := l.phase.rank + l.client.rank

def Settled (l : Handshake F) : Prop := l.remaining = 0

instance : DecidablePred (Settled (F := F)) := fun l =>
  inferInstanceAs (Decidable (l.remaining = 0))

/--
The transport delivers, and the client waits until the handler has returned.
-/
def Reliable (l : Handshake F) : HandshakeEvent F → Prop
  | .transport result => result.isOk = true
  | .lose _ => False
  | .giveUp _ => l.phase.isDone = true ∧ l.toClient.isEmpty = true
  | _ => True

instance (l : Handshake F) : DecidablePred l.Reliable := by
  intro e
  unfold Reliable
  cases e <;> infer_instance

section Measure

variable {me : ConnectingClient} {l : Handshake F} {taken posted read : Nat}

theorem rank_afterTransport {phase : PeerPhase F} {sent : List ControlMessage}
    {accepted : Option RegisterAccepted} (h : Handles me phase taken sent accepted)
    (hsends : phase.sends = true) (result : Except String Unit)
    : (phase.afterTransport result).rank < phase.rank := by
  cases h with
  | openControl => cases result <;> simp [PeerPhase.afterTransport, PeerPhase.rank]
  | sendServerHello => cases result <;> simp [PeerPhase.afterTransport, PeerPhase.rank]
  | sendAccepted => cases result <;> simp [PeerPhase.afterTransport, PeerPhase.rank]
  | sendRejected => cases result <;> simp [PeerPhase.afterTransport, PeerPhase.rank]
  | _ => cases hsends

theorem afterTransport_of_not_sends {phase : PeerPhase F} (h : phase.sends = false)
    (result : Except String Unit)
    : phase.afterTransport result = phase := by
  cases phase <;> first | rfl | cases h

theorem rank_afterReceived {phase : PeerPhase F} (hlistening : phase.listening = true)
    (result : Except String ControlMessage)
    : (phase.afterReceived result).rank < phase.rank := by
  cases phase with
  | recvClientHello =>
    cases result with
    | error e => exact Nat.zero_lt_succ 9
    | ok message => cases message <;> simp [PeerPhase.afterReceived, PeerPhase.rank]
  | recvRegister hello =>
    cases result with
    | error e => exact Nat.zero_lt_succ 4
    | ok message => cases message <;> simp [PeerPhase.afterReceived, PeerPhase.rank]
  | _ => cases hlistening

theorem rank_proceed {α : Type} (next : PeerPhase F) (r : Except ServerError α × ServerState F)
    : (PeerPhase.proceed r fun _ => next).1.rank ≤ next.rank := by
  rcases PeerPhase.proceed_cases r fun _ => next with ⟨result, hdone⟩ | ⟨-, hnext⟩
  . rw [hdone]
    exact Nat.zero_le _
  . rw [hnext]

theorem rank_runCall {phase : PeerPhase F} (hruns : phase.runs = true) (s : ServerState F)
    (nowNs : Nat) (fresh : Uuid) (results : WebRtcResults)
    : (phase.step s (.run nowNs fresh results)).1.rank < phase.rank := by
  cases phase with
  | readServerHello => exact Nat.lt_succ_self 11
  | discover hello => exact Nat.lt_succ_of_le (rank_proceed (.transportConnect hello) _)
  | transportConnect hello => exact Nat.lt_succ_of_le (rank_proceed (.exchangeHello hello) _)
  | exchangeHello hello => exact Nat.lt_succ_of_le (rank_proceed (.authenticate hello) _)
  | authenticate hello => exact Nat.lt_succ_of_le (rank_proceed (.recvRegister hello) _)
  | register hello req =>
    simp only [PeerPhase.step, PeerPhase.runCall]
    split <;> simp [PeerPhase.rank]
  | refuse hello result => exact Nat.zero_lt_one
  | syncScene hello => exact Nat.lt_succ_of_le (rank_proceed (.activate hello) _)
  | activate hello => exact Nat.lt_succ_of_le (rank_proceed (.select hello) _)
  | _ => cases hruns

theorem step_of_not_runs {phase : PeerPhase F} {sent : List ControlMessage}
    {accepted : Option RegisterAccepted} (h : Handles me phase taken sent accepted)
    (hruns : phase.runs = false) (s : ServerState F) (nowNs : Nat) (fresh : Uuid)
    (results : WebRtcResults)
    : (phase.step s (.run nowNs fresh results)).1 = phase := by
  cases h <;> first | rfl | cases hruns

theorem remaining_advance (l : Handshake F)
    : (l.enabled .advance = true ∧ (l.advance me).remaining < l.remaining)
        ∨
      (l.enabled .advance = false ∧ (l.advance me).remaining = l.remaining) := by
  obtain ⟨connection, client, toServer, toClient⟩ := l
  have hmessage (phase : ConnectPhase) (message : ControlMessage)
      (hphase : phase = .recvServerHello ∨ phase = .recvRegistration)
      : (phase.afterMessage message).rank < phase.rank := by
    rcases hphase with rfl | rfl <;> cases message <;>
      simp [ConnectPhase.afterMessage, ConnectPhase.rank]
  cases client with
  | acceptControl =>
    cases toClient with
    | nil => exact .inr ⟨rfl, rfl⟩
    | cons message toClient => exact .inl ⟨rfl, Nat.lt_succ_self _⟩
  | recvServerHello =>
    cases toClient with
    | nil => exact .inr ⟨rfl, rfl⟩
    | cons message toClient =>
      exact .inl ⟨rfl, Nat.add_lt_add_left (hmessage _ message (.inl rfl)) _⟩
  | sendClientHello => exact .inl ⟨rfl, Nat.lt_succ_self _⟩
  | sendRegisterRequest => exact .inl ⟨rfl, Nat.lt_succ_self _⟩
  | recvRegistration =>
    cases toClient with
    | nil => exact .inr ⟨rfl, rfl⟩
    | cons message toClient =>
      exact .inl ⟨rfl, Nat.add_lt_add_left (hmessage _ message (.inr rfl)) _⟩
  | done result => exact .inr ⟨rfl, rfl⟩

theorem remaining_step (h : l.Sound me taken posted read) (e : HandshakeEvent F)
    : (l.enabled e = true ∧ (l.step me e).remaining < l.remaining)
        ∨
      (l.enabled e = false ∧ (l.step me e).remaining = l.remaining) := by
  cases e with
  | transport result =>
    have hstep : (l.step me (.transport result)).remaining
        = (l.phase.afterTransport result).rank + l.client.rank := by
      cases result <;> rfl
    rw [hstep]
    cases hsends : l.phase.sends with
    | true =>
      exact .inl ⟨hsends, Nat.add_lt_add_right (rank_afterTransport h.handler hsends result) _⟩
    | false =>
      rw [afterTransport_of_not_sends hsends result]
      exact .inr ⟨hsends, rfl⟩
  | receive =>
    simp only [enabled, step]
    cases hlistening : l.phase.listening with
    | false => exact .inr ⟨rfl, rfl⟩
    | true =>
      cases hqueue : l.toServer with
      | nil => exact .inr ⟨rfl, rfl⟩
      | cons message toServer =>
        have hlt := rank_afterReceived hlistening (.ok message)
        exact .inl ⟨rfl, Nat.add_lt_add_right hlt _⟩
  | lose e =>
    simp only [enabled, step]
    cases hlistening : l.phase.listening with
    | false => exact .inr ⟨rfl, rfl⟩
    | true =>
      have hlt := rank_afterReceived hlistening (.error e)
      exact .inl ⟨rfl, Nat.add_lt_add_right hlt _⟩
  | run nowNs fresh results =>
    have hstep : (l.step me (.run nowNs fresh results)).remaining
        = (l.phase.step l.connection.server (.run nowNs fresh results)).1.rank + l.client.rank := rfl
    rw [hstep]
    cases hruns : l.phase.runs with
    | true => exact .inl ⟨hruns, Nat.add_lt_add_right (rank_runCall hruns _ nowNs fresh results) _⟩
    | false =>
      rw [step_of_not_runs h.handler hruns]
      exact .inr ⟨hruns, rfl⟩
  | advance => exact remaining_advance l
  | giveUp e =>
    obtain ⟨connection, client, toServer, toClient⟩ := l
    cases client with
    | done result => exact .inr ⟨rfl, rfl⟩
    | _ => exact .inl ⟨rfl, Nat.add_lt_add_left (Nat.zero_lt_succ _) _⟩
  | server op => exact .inr ⟨rfl, rfl⟩

end Measure

/--
What is known of the handshake over a reliable transport: the handler has told the client what it
has granted, and a client that has given up has not been granted anything.
-/
structure Kept (me : ConnectingClient) (l : Handshake F) : Prop where
  sound : ∃ taken posted read, l.Sound me taken posted read
  delivers : l.connection.peer.Delivers
  failed : ∀ e, l.client = .done (.error (.control e)) →
    l.phase.isDone = true ∧ l.accepted = none

section Reliable

variable {me : ConnectingClient} {l : Handshake F} {taken posted read : Nat}

theorem stays_done {p : Peer F} (h : p.phase.isDone = true) (s : ServerState F) (e : PeerEvent F)
    : (p.step s e).1.phase.isDone = true ∧ (p.step s e).1.accepted = p.accepted := by
  obtain ⟨phase, sent, joined, accepted⟩ := p
  cases phase with
  | done result => cases e <;> exact ⟨rfl, rfl⟩
  | _ => cases h

theorem Conversation.sent_of_mem {sent : List ControlMessage} {accepted : Option RegisterAccepted}
    (h : Conversation sent accepted) {granted : RegisterAccepted}
    (hmem : .registerAccepted granted ∈ sent)
    : sent.length = 2 ∧ sent[1]? = some (.registerAccepted granted) := by
  cases h with
  | accepted hello granted' =>
    have : granted = granted' := by simpa using hmem
    exact ⟨rfl, by rw [this]; rfl⟩
  | _ => simp at hmem

theorem Follows.isDone_of_two {sent : List ControlMessage} {client : ConnectPhase}
    (h : Follows sent client posted read) (hread : 2 ≤ read)
    : client.isDone = true := by
  cases h <;> first | rfl | omega

theorem accepted_of_giveUp (h : l.Kept me) (hdone : l.phase.isDone = true)
    (hempty : l.toClient.isEmpty = true) (hclient : l.client.isDone = false)
    : l.accepted = none := by
  obtain ⟨taken, posted, read, hsound⟩ := h.sound
  cases haccepted : l.accepted with
  | none => rfl
  | some granted =>
    have hsending : l.phase.sending? = none := by
      cases hphase : l.phase <;> first | rfl | (rw [hphase] at hdone; cases hdone)
    have hmem : .registerAccepted granted ∈ l.sent := by
      rcases h.delivers granted haccepted with hmem | hsome
      . exact hmem
      . exact absurd (hsending.symm.trans hsome) (by simp)
    obtain ⟨hlength, -⟩ := hsound.handler.conversation.sent_of_mem hmem
    have hread : 2 ≤ read := by
      rw [List.isEmpty_iff, hsound.toClient, List.drop_eq_nil_iff, hlength] at hempty
      exact hempty
    rw [hsound.client.isDone_of_two hread] at hclient
    cases hclient

theorem advance_failed {e : String} (h : (l.advance me).client = .done (.error (.control e)))
    : l.client = .done (.error (.control e)) := by
  obtain ⟨connection, client, toServer, toClient⟩ := l
  cases client with
  | recvServerHello =>
    cases toClient with
    | nil => cases h
    | cons message toClient => cases message <;> cases h
  | recvRegistration =>
    cases toClient with
    | nil => cases h
    | cons message toClient => cases message <;> cases h
  | acceptControl => cases toClient <;> cases h
  | sendClientHello => cases h
  | sendRegisterRequest => cases h
  | done result => exact h

theorem kept_react (h : l.Kept me) {e : PeerEvent F} (he : ∀ reason, e ≠ .transport (.error reason))
    {toServer toClient : List ControlMessage}
    (hsound : ∃ taken posted read,
      Sound me { l.react e with toServer := toServer, toClient := toClient } taken posted read)
    : Kept me { l.react e with toServer := toServer, toClient := toClient } where
  sound := hsound
  delivers := Peer.delivers_step h.delivers l.connection.server he
  failed := by
    intro reason hclient
    obtain ⟨hdone, haccepted⟩ := h.failed reason hclient
    obtain ⟨hdone', haccepted'⟩ := stays_done hdone l.connection.server e
    exact ⟨hdone', haccepted'.trans haccepted⟩

theorem kept_step (h : l.Kept me) {e : HandshakeEvent F} (he : l.Reliable e)
    : (l.step me e).Kept me := by
  have hsound := sound_step h.sound e
  cases e with
  | transport result =>
    cases result with
    | ok u => exact kept_react h (by simp) hsound
    | error reason => cases he
  | receive =>
    simp only [step] at hsound ⊢
    split at hsound
    . exact kept_react h (by simp) hsound
    . exact h
  | lose e => cases he
  | run nowNs fresh results => exact kept_react h (by simp) hsound
  | advance =>
    have hconnection : (l.advance me).connection = l.connection := by
      unfold advance
      split <;> rfl
    refine ⟨hsound, ?_, ?_⟩
    . simp only [step, hconnection]
      exact h.delivers
    . intro reason hclient
      simp only [step, phase, accepted, hconnection]
      exact h.failed reason (advance_failed hclient)
  | giveUp e =>
    refine ⟨hsound, h.delivers, ?_⟩
    intro reason hclient
    cases hdone : l.client.isDone with
    | true =>
      apply h.failed reason
      rw [← hclient]
      simp only [step]
      cases hphase : l.client with
      | done result => rfl
      | _ => rw [hphase] at hdone; cases hdone
    | false =>
      have hnone : l.accepted = none := accepted_of_giveUp h he.1 he.2 hdone
      exact ⟨he.1, hnone⟩
  | server op => exact ⟨hsound, h.delivers, h.failed⟩

theorem kept_start (s : ServerState F) : (start s).Kept me where
  sound := ⟨0, 0, 0, sound_start s⟩
  delivers := by
    intro granted hgranted
    cases hgranted
  failed := by
    intro e hclient
    cases hclient

theorem rank_eq_zero_iff {client : ConnectPhase} : client.rank = 0 ↔ client.isDone = true := by
  cases client <;> simp [ConnectPhase.rank, ConnectPhase.isDone]

theorem enabled_advance (hdone : l.client.isDone = false)
    (hmore : l.toClient ≠ [] ∨ l.client.sends = true)
    : l.enabled .advance = true := by
  obtain ⟨connection, client, toServer, toClient⟩ := l
  cases client <;> simp_all [enabled, ConnectPhase.isDone, ConnectPhase.sends]

theorem exists_enabled_of_listening (h : l.Kept me) (hlistening : l.phase.listening = true)
    : ∃ e, l.Reliable e ∧ l.enabled e = true := by
  obtain ⟨taken, posted, read, hsound⟩ := h.sound
  cases hqueue : l.toServer with
  | cons message toServer => exact ⟨.receive, trivial, by simp [enabled, hlistening, hqueue]⟩
  | nil =>
    refine ⟨.advance, trivial, ?_⟩
    have hposted : posted ≤ taken := by
      have hlength : me.script.length = 2 := rfl
      rw [hsound.toServer, List.drop_eq_nil_iff, List.length_take, hlength] at hqueue
      have := hsound.client.posted_le
      omega
    obtain ⟨hlength, htaken⟩ : l.sent.length = 1 ∧ taken ≤ 1 := by
      have hhandler := hsound.handler
      generalize l.phase = phase at hhandler hlistening
      generalize l.sent = sent at hhandler
      generalize l.accepted = accepted at hhandler
      cases hhandler <;> first | exact ⟨rfl, by decide⟩ | cases hlistening
    have hunread : l.toClient = [] → 1 ≤ read := by
      rw [hsound.toClient, List.drop_eq_nil_iff, hlength]
      exact id
    have hfailed : ∀ e, l.client ≠ .done (.error (.control e)) := by
      intro e hclient
      have hdone := (h.failed e hclient).1
      cases hphase : l.phase <;> simp_all [PeerPhase.isDone, PeerPhase.listening]
    have hfollows := hsound.client
    cases hclient : l.client with
    | done result =>
      rw [hclient] at hfollows hfailed
      cases hfollows with
      | failed e posted read hposted => exact absurd rfl (hfailed e)
      | _ => omega
    | recvRegistration =>
      rw [hclient] at hfollows
      cases hfollows
      omega
    | acceptControl =>
      rw [hclient] at hfollows
      cases hfollows
      refine enabled_advance (by rw [hclient]; rfl) (.inl fun hnil => ?_)
      exact absurd (hunread hnil) (by decide)
    | recvServerHello =>
      rw [hclient] at hfollows
      cases hfollows
      refine enabled_advance (by rw [hclient]; rfl) (.inl fun hnil => ?_)
      exact absurd (hunread hnil) (by decide)
    | _ => exact enabled_advance (by rw [hclient]; rfl) (.inr (by rw [hclient]; rfl))

theorem exists_enabled_of_through (h : l.Kept me)
    (hthrough : l.phase.isDone = true ∨ l.phase.selecting = true) (hclient : l.client.isDone = false)
    : ∃ e, l.Reliable e ∧ l.enabled e = true := by
  obtain ⟨taken, posted, read, hsound⟩ := h.sound
  cases hqueue : l.toClient with
  | cons message toClient =>
    exact ⟨.advance, trivial, enabled_advance hclient (.inl (by simp [hqueue]))⟩
  | nil =>
    rcases hthrough with hdone | hselecting
    . exact ⟨.giveUp "connection closed", ⟨hdone, by rw [hqueue]; rfl⟩, by simp [enabled, hclient]⟩
    . have hlength : l.sent.length = 2 := by
        have hhandler := hsound.handler
        generalize l.phase = phase at hhandler hselecting
        generalize l.sent = sent at hhandler
        generalize l.accepted = accepted at hhandler
        cases hhandler <;> first | rfl | cases hselecting
      rw [hsound.toClient, List.drop_eq_nil_iff, hlength] at hqueue
      rw [hsound.client.isDone_of_two hqueue] at hclient
      cases hclient

theorem exists_enabled (h : l.Kept me) (hsettled : ¬ l.Settled)
    : ∃ e, l.Reliable e ∧ l.enabled e = true := by
  obtain ⟨taken, posted, read, hsound⟩ := h.sound
  have hcases : l.phase.sends = true ∨ l.phase.runs = true ∨ l.phase.listening = true
      ∨ l.phase.rank = 0 ∧ (l.phase.isDone = true ∨ l.phase.selecting = true) := by
    have hhandler := hsound.handler
    generalize l.phase = phase at hhandler
    generalize l.sent = sent at hhandler
    generalize l.accepted = accepted at hhandler
    cases hhandler <;> simp [PeerPhase.sends, PeerPhase.sending?, PeerPhase.runs,
      PeerPhase.listening, PeerPhase.rank, PeerPhase.isDone, PeerPhase.selecting]
  rcases hcases with hsends | hruns | hlistening | ⟨hrank, hthrough⟩
  . exact ⟨.transport (.ok ()), rfl, hsends⟩
  . exact ⟨.run 0 0 .unavailable, trivial, hruns⟩
  . exact exists_enabled_of_listening h hlistening
  . apply exists_enabled_of_through h hthrough
    cases hdone : l.client.isDone with
    | false => rfl
    | true =>
      refine absurd ?_ hsettled
      rw [Settled, remaining, hrank, rank_eq_zero_iff.mpr hdone]

theorem connected_iff_of_settled (h : l.Kept me) (hsettled : l.Settled) (sessionId : Uuid)
    : l.client = .done (.ok sessionId) ↔ l.accepted.map RegisterAccepted.sessionId = some sessionId := by
  obtain ⟨hphase, hclient⟩ : l.phase.rank = 0 ∧ l.client.rank = 0 := by
    unfold Settled remaining at hsettled
    omega
  constructor
  . intro hconnected
    obtain ⟨granted, haccepted, hid⟩ := (inStep_of_sound h.sound).connected sessionId hconnected
    rw [haccepted, Option.map_some, hid]
  . intro haccepted
    obtain ⟨granted, hgranted, rfl⟩ := Option.map_eq_some_iff.mp haccepted
    obtain ⟨taken, posted, read, hsound⟩ := h.sound
    have hmem : .registerAccepted granted ∈ l.sent := by
      rcases h.delivers granted hgranted with hmem | hsending
      . exact hmem
      . -- it is still being sent, so the handler is not through
        have hhandler := hsound.handler
        change l.phase.sending? = _ at hsending
        generalize l.phase = phase at hhandler hsending hphase
        generalize l.sent = sent at hhandler
        generalize l.accepted = accepted at hhandler
        cases hhandler with
        | sendAccepted => cases hphase
        | _ => cases hsending
    obtain ⟨-, hsecond⟩ := hsound.handler.conversation.sent_of_mem hmem
    have hfollows := hsound.client
    cases hcase : l.client with
    | done result =>
      rw [hcase] at hfollows
      cases hfollows with
      | connected granted' hsome =>
        rw [hsecond, Option.some.injEq, ControlMessage.registerAccepted.injEq] at hsome
        rw [hsome]
      | rejected rejected hsome =>
        rw [hsecond] at hsome
        cases hsome
      | failed e posted read hposted =>
        have hnone := (h.failed e hcase).2
        rw [hgranted] at hnone
        cases hnone
    | _ =>
      rw [hcase] at hclient
      cases hclient

end Reliable

/--
A handshake takes at most eighteen steps of its parties, whatever else happens and whatever fails.
-/
theorem moves_le (me : ConnectingClient) (s : ServerState F) (es : List (HandshakeEvent F))
    : Run.moves (step me) (fun l e => l.enabled e = true) (start s) es ≤ 18 := by
  have hbound := Run.moves_add_measure_le (step me) remaining
    (fun l e => l.enabled e = true) (P := fun l => ∃ taken posted read, l.Sound me taken posted read)
    (C := fun _ _ => True) (fun l e h _ => sound_step h e)
    (by
      rintro l e ⟨taken, posted, read, h⟩ - henabled
      rcases remaining_step h e with ⟨-, hlt⟩ | ⟨hno, -⟩
      . exact hlt
      . rw [henabled] at hno
        cases hno)
    (by
      rintro l e ⟨taken, posted, read, h⟩ - henabled
      rcases remaining_step h e with ⟨hyes, -⟩ | ⟨-, heq⟩
      . exact absurd hyes henabled
      . exact heq)
    ⟨0, 0, 0, sound_start s⟩ (Run.allSteps_true (step me) es)
  exact (Nat.le_add_right _ _).trans hbound

theorem handshake_completes (me : ConnectingClient) (s : ServerState F)
    (es : List (HandshakeEvent F)) (h : Run.AllSteps (step me) Reliable (start s) es)
    : Run.moves (step me) (fun l e => l.enabled e = true) (start s) es ≤ 18
        ∧ (∃ later, Run.AllSteps (step me) Reliable (Run.run (step me) (start s) es) later
          ∧ (Run.run (step me) (start s) (es ++ later)).Settled)
        ∧ Run.AllStates (step me) (fun l =>
            (l.Settled ∨ ∃ e, l.Reliable e ∧ l.enabled e = true)
              ∧ (l.Settled → ∀ sessionId, l.client = .done (.ok sessionId)
                ↔ l.accepted.map RegisterAccepted.sessionId = some sessionId))
            (start s) es := by
  have hkept : Run.AllStates (step me) (Kept me) (start s) es :=
    Run.allStates_of_allSteps (fun l e hl he => kept_step hl he) (kept_start s) h
  refine ⟨moves_le me s es, ?_, ?_⟩
  . obtain ⟨later, hlater, hfinal⟩ := Run.exists_final (step me) remaining Settled (P := Kept me)
      (C := Reliable) (fun l e hl he => kept_step hl he)
      (by
        intro l hl hsettled
        obtain ⟨e, he, henabled⟩ := exists_enabled hl hsettled
        obtain ⟨taken, posted, read, hsound⟩ := hl.sound
        refine ⟨e, he, ?_⟩
        rcases remaining_step hsound e with ⟨-, hlt⟩ | ⟨hno, -⟩
        . exact hlt
        . rw [henabled] at hno
          cases hno)
      hkept.last
    refine ⟨later, hlater, ?_⟩
    rw [Run.run_append]
    exact hfinal
  . refine hkept.imp fun l hl => ⟨?_, fun hsettled => connected_iff_of_settled hl hsettled⟩
    by_cases hsettled : l.Settled
    . exact .inl hsettled
    . exact .inr (exists_enabled hl hsettled)

def demoClient : ConnectingClient := .simulated 7 "demo.position"

def demoHandshake : List (HandshakeEvent Floats.rational) :=
  [.transport (.ok ()), .run 0 0 .unavailable, .transport (.ok ()), .advance, .advance, .advance,
    .receive, .run 0 0 .unavailable, .run 0 0 .unavailable, .run 0 0 .unavailable,
    .run 0 0 .unavailable, .advance, .receive, .run 0 60 .unavailable, .transport (.ok ()),
    .advance, .run 0 0 .unavailable, .run 0 0 .unavailable]

theorem handshake_completes_demo
    : (Run.run (step demoClient) (start (.new .default)) demoHandshake).Settled
        ∧
      Run.moves (step demoClient) (fun l e => l.enabled e = true) (start (.new .default))
        demoHandshake ≤ 18 :=
  ⟨by decide, (handshake_completes demoClient (.new .default) demoHandshake (by decide)).1⟩

end Handshake

end MotionStage
