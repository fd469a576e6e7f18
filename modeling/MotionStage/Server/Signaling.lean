import MotionStage.Data.Mailbox
import MotionStage.Server.SessionStep

/-!
This module contains the signaling between devices over whole runs: the queues of the hub are
mailboxes, posted to by `push_signaling_message` and collected by `drain_signaling_messages`.
-/

namespace MotionStage

variable {F : Floats}

namespace SignalingHub

def queue (self : SignalingHub) (deviceId : Uuid) : List SignalMessage :=
  (self.queues.get? deviceId).getD []

theorem queue_enqueue (self : SignalingHub) (message : SignalMessage)
    : (self.enqueue message).queue
        =
      Function.update self.queue message.toDevice (self.queue message.toDevice ++ [message]) := by
  funext deviceId
  by_cases h : deviceId = message.toDevice
  . subst h
    simp [queue, enqueue]
  . simp [queue, enqueue, IndexMap.get?_insert, h]

theorem queue_drainFor (self : SignalingHub) (deviceId : Uuid)
    : (self.drainFor deviceId).1 = self.queue deviceId
        ∧ (self.drainFor deviceId).2.queue = Function.update self.queue deviceId [] := by
  refine ⟨rfl, ?_⟩
  funext k
  by_cases h : k = deviceId
  . subst h
    simp [queue, drainFor, IndexMap.get?_shiftRemove]
  . simp [queue, drainFor, IndexMap.get?_shiftRemove, h]

end SignalingHub

namespace ServerOp

def isMedia : ServerOp F → Bool
  | .closeSession _ _ | .createVideoOffer _ _ | .handleVideoSignal _ _ _
  | .pushSignalingMessage _ | .drainSignalingMessages _ => true
  | _ => false

def isSignaling : ServerOp F → Bool
  | .pushSignalingMessage _ | .drainSignalingMessages _ => true
  | _ => false

end ServerOp

namespace ServerState

def media (self : ServerState F) : SignalingHub × IndexMap Uuid VideoPeerSession :=
  (self.signaling, self.videoPeers)

/--
The stores of the server that only the media calls write, and whether it is running.
-/
def aside (self : ServerState F) : Bool × SignalingHub × IndexMap Uuid VideoPeerSession :=
  (self.running, self.media)

theorem aside_of_withRuntime {α : Type} {self s : ServerState F}
    {r : Except CoreError α × RuntimeCore F} {result : Except ServerError α}
    (h : self.withRuntime r = (result, s))
    : s.aside = self.aside := by
  have haside : (self.withRuntime r).2.aside = self.aside := rfl
  rwa [h] at haside

theorem aside_ingestMotionSamples (self : ServerState F) (deviceId : Uuid)
    (updates : List (AttributeUpdate F)) (timestampNs : Nat)
    : (self.ingestMotionSamples deviceId updates timestampNs).2.aside = self.aside := by
  have hmotion : (self.applyMotion deviceId updates timestampNs).2.aside = self.aside := rfl
  unfold ingestMotionSamples
  split
  . next h => rwa [h] at hmotion
  . next h =>
    rw [h] at hmotion
    split <;> exact hmotion

theorem aside_step {self : ServerState F} {op : ServerOp F} (hop : op.isMedia = false)
    (hrunning : ∀ running, op ≠ .setRunning running)
    : (self.step op).aside = self.aside := by
  cases op with
  | discovered | transportConnected | helloExchanged | authenticate | register | sceneSynced
  | activate =>
    rw [handshake_frame self (by simp [ServerOp.sessionOf?]) (by simp)]
    rfl
  | setMode mode nowNs =>
    simp only [step, exec, setMode]
    split
    . next h => exact aside_of_withRuntime h
    . next h =>
      have haside := aside_of_withRuntime h
      exact haside
  | resetSceneToBaseline sceneId | commitSceneBaseline sceneId
  | commitObjectBaseline sceneId objectId =>
    simp only [step, exec, void, resetSceneToBaseline, commitSceneBaseline, commitObjectBaseline,
      baselineCall]
    split <;> rfl
  | createMapping req nowNs id =>
    simp only [step, exec, void, createMapping]
    split
    . next h => exact aside_of_withRuntime h
    . next h =>
      have haside := aside_of_withRuntime h
      split <;> exact haside
  | updateMapping mappingId req nowNs =>
    simp only [step, exec, updateMapping]
    split
    . next h => exact aside_of_withRuntime h
    . next h =>
      have haside := aside_of_withRuntime h
      split <;> exact haside
  | removeMapping mappingId nowNs =>
    simp only [step, exec, removeMapping]
    split
    . next h => exact aside_of_withRuntime h
    . next h =>
      have haside := aside_of_withRuntime h
      exact haside
  | setMappingLock mappingId lock nowNs =>
    simp only [step, exec, setMappingLock]
    split
    . next h => exact aside_of_withRuntime h
    . next h =>
      have haside := aside_of_withRuntime h
      exact haside
  | ingestMotionSamples deviceId updates timestampNs =>
    exact self.aside_ingestMotionSamples deviceId updates timestampNs
  | ingestMotionDatagram datagram => exact aside_ingestMotionSamples _ _ _ _
  | startRecording path nowNs recordingId =>
    simp only [step, exec, void]
    cases hscene : self.runtime.activeScene with
    | none => rw [startRecording_of_none hscene]; rfl
    | some activeScene => rw [startRecording_of_some hscene]; rfl
  | stopRecording nowNs written =>
    simp only [step, exec, void, stopRecording]
    split
    . rfl
    . split
      . rfl
      . split
        . next h =>
          have haside := aside_of_withRuntime h
          exact haside
        . next h =>
          have haside := aside_of_withRuntime h
          exact haside
  | setMasterVideoDescriptor descriptor =>
    simp only [step, exec, setMasterVideoDescriptor]
    split <;> rfl
  | schedulerTick nowNs =>
    simp only [step, exec, schedulerTick]
    split <;> rfl
  | setRunning running => exact absurd rfl (hrunning running)
  | loadScene | setActiveScene => rfl
  | _ => cases hop

theorem media_step {self : ServerState F} {op : ServerOp F} (hop : op.isMedia = false)
    : (self.step op).media = self.media := by
  cases op with
  | setRunning running => rfl
  | _ => exact congrArg Prod.snd (aside_step hop (by simp))

theorem drainSignalingMessages_frame (self : ServerState F) (deviceId : Uuid)
    : (self.drainSignalingMessages deviceId).2
        =
      { self with signaling := (self.drainSignalingMessages deviceId).2.signaling } := by
  unfold drainSignalingMessages
  split <;> rfl

theorem mediaCall_frame {self : ServerState F} {op : ServerOp F} (hop : op.isMedia = true)
    : (self.step op).running = self.running
        ∧ (op.isSignaling = false → (self.step op).signaling = self.signaling)
        ∧ (op.isSignaling = true → (self.step op).videoPeers = self.videoPeers) := by
  cases op with
  | closeSession deviceId nowNs =>
    simp only [step, exec, closeSession]
    rw [changeSessionState_frame]
    refine ⟨rfl, fun _ => rfl, ?_⟩
    intro h
    cases h
  | createVideoOffer deviceId results =>
    simp only [step, exec, void]
    rw [createVideoOffer_frame]
    refine ⟨rfl, fun _ => rfl, ?_⟩
    intro h
    cases h
  | handleVideoSignal deviceId payload results =>
    simp only [step, exec, void]
    rw [handleVideoSignal_frame]
    refine ⟨rfl, fun _ => rfl, ?_⟩
    intro h
    cases h
  | pushSignalingMessage message =>
    simp only [step, exec]
    rw [pushSignalingMessage_frame]
    refine ⟨rfl, ?_, fun _ => rfl⟩
    intro h
    cases h
  | drainSignalingMessages deviceId =>
    simp only [step, exec, void]
    rw [drainSignalingMessages_frame]
    refine ⟨rfl, ?_, fun _ => rfl⟩
    intro h
    cases h
  | _ => cases hop

theorem running_step {self : ServerState F} {op : ServerOp F}
    (hop : ∀ running, op ≠ .setRunning running)
    : (self.step op).running = self.running := by
  cases hmedia : op.isMedia with
  | false => exact congrArg Prod.fst (aside_step hmedia hop)
  | true => exact (mediaCall_frame hmedia).1

theorem signaling_step {self : ServerState F} {op : ServerOp F}
    (hpush : ∀ message, op ≠ .pushSignalingMessage message)
    (hdrain : ∀ deviceId, op ≠ .drainSignalingMessages deviceId)
    : (self.step op).signaling = self.signaling := by
  cases hmedia : op.isMedia with
  | false => exact congrArg Prod.fst (media_step hmedia)
  | true =>
    apply (mediaCall_frame hmedia).2.1
    cases op with
    | pushSignalingMessage message => exact absurd rfl (hpush message)
    | drainSignalingMessages deviceId => exact absurd rfl (hdrain deviceId)
    | _ => rfl

theorem videoPeers_step {self : ServerState F} {op : ServerOp F}
    (hclose : ∀ deviceId nowNs, op ≠ .closeSession deviceId nowNs)
    (hoffer : ∀ deviceId results, op ≠ .createVideoOffer deviceId results)
    (hsignal : ∀ deviceId payload results, op ≠ .handleVideoSignal deviceId payload results)
    : (self.step op).videoPeers = self.videoPeers := by
  cases hmedia : op.isMedia with
  | false => exact congrArg Prod.snd (media_step hmedia)
  | true =>
    apply (mediaCall_frame hmedia).2.2
    cases op with
    | closeSession deviceId nowNs => exact absurd rfl (hclose deviceId nowNs)
    | createVideoOffer deviceId results => exact absurd rfl (hoffer deviceId results)
    | handleVideoSignal deviceId payload results =>
      exact absurd rfl (hsignal deviceId payload results)
    | pushSignalingMessage | drainSignalingMessages => rfl
    | _ => cases hmedia

theorem pushSignalingMessage_cases (self : ServerState F) (message : SignalMessage)
    : (self.succeeds (.pushSignalingMessage message) = false
        ∧ (self.step (.pushSignalingMessage message)).signaling = self.signaling)
        ∨
      (self.succeeds (.pushSignalingMessage message) = true
        ∧ (self.step (.pushSignalingMessage message)).signaling
            = self.signaling.enqueue message) := by
  simp only [succeeds, step, exec, pushSignalingMessage]
  split
  . exact .inl ⟨rfl, rfl⟩
  . split
    . exact .inl ⟨rfl, rfl⟩
    . split
      . exact .inl ⟨rfl, rfl⟩
      . exact .inr ⟨rfl, rfl⟩

theorem drainSignalingMessages_cases (self : ServerState F) (deviceId : Uuid)
    : ((∃ e, (self.drainSignalingMessages deviceId).1 = .error e)
        ∧ (self.step (.drainSignalingMessages deviceId)).signaling = self.signaling)
        ∨
      ((self.drainSignalingMessages deviceId).1 = .ok (self.signaling.queue deviceId)
        ∧ (self.step (.drainSignalingMessages deviceId)).signaling
            = (self.signaling.drainFor deviceId).2) := by
  simp only [step, exec, void, drainSignalingMessages]
  split
  . exact .inl ⟨⟨_, rfl⟩, rfl⟩
  . exact .inr ⟨rfl, rfl⟩

/--
What a call does to the mailboxes: a push that returns `Ok` posts, a drain that returns `Ok`
collects, and `discovered` gives a device a new session.
-/
def mail : ServerState F × ServerOp F → List (Mailbox.Event Uuid SignalMessage)
  | (s, .pushSignalingMessage message) =>
    if s.succeeds (.pushSignalingMessage message) then [.post message.toDevice message] else []
  | (s, .drainSignalingMessages deviceId) =>
    match (s.drainSignalingMessages deviceId).1 with
    | .error _ => []
    | .ok messages => [.collect deviceId messages]
  | (_, .discovered deviceId _) => [.renew deviceId]
  | _ => []

theorem mail_step (self : ServerState F) (op : ServerOp F)
    : (mail (self, op) = [] ∧ (self.step op).signaling = self.signaling)
        ∨
      (∃ e, mail (self, op) = [e]
        ∧ Mailbox.Step self.signaling.queue e (self.step op).signaling.queue) := by
  cases op with
  | pushSignalingMessage message =>
    rcases self.pushSignalingMessage_cases message with ⟨hno, hsame⟩ | ⟨hyes, hpush⟩
    . exact .inl ⟨by simp [mail, hno], hsame⟩
    . refine .inr ⟨.post message.toDevice message, by simp [mail, hyes], ?_⟩
      rw [hpush, SignalingHub.queue_enqueue]
      exact .post _ _
  | drainSignalingMessages deviceId =>
    rcases self.drainSignalingMessages_cases deviceId with ⟨⟨e, hno⟩, hsame⟩ | ⟨hyes, hdrain⟩
    . exact .inl ⟨by simp [mail, hno], hsame⟩
    . refine .inr ⟨.collect deviceId (self.signaling.queue deviceId), by simp [mail, hyes], ?_⟩
      rw [hdrain, (SignalingHub.queue_drainFor _ _).2]
      exact .collect _
  | discovered deviceId deviceName =>
    refine .inr ⟨.renew deviceId, rfl, ?_⟩
    rw [signaling_step (by simp) (by simp)]
    exact .renew _
  | _ => exact .inl ⟨rfl, signaling_step (by simp) (by simp)⟩

/--
The messages to a device whose push has returned `Ok`, in push order.
-/
def accepted (deviceId : Uuid) (log : List (ServerState F × ServerOp F)) : List SignalMessage :=
  Mailbox.posted deviceId (log.flatMap mail)

def drained (deviceId : Uuid) (log : List (ServerState F × ServerOp F)) : List SignalMessage :=
  Mailbox.collected deviceId (log.flatMap mail)

/--
The messages to a device that have been accepted since its latest `discovered` call.
-/
def acceptedSince (deviceId : Uuid) (log : List (ServerState F × ServerOp F))
    : List SignalMessage :=
  Mailbox.postedSince deviceId (log.flatMap mail)

theorem drained_step {log : List (ServerState F × ServerOp F)} {self : ServerState F}
    {deviceId : Uuid} (op : ServerOp F)
    (h : drained deviceId log ++ self.signaling.queue deviceId = accepted deviceId log)
    : drained deviceId (log ++ [(self, op)]) ++ (self.step op).signaling.queue deviceId
        =
      accepted deviceId (log ++ [(self, op)]) := by
  unfold drained accepted at h ⊢
  rw [List.flatMap_append, List.flatMap_singleton]
  rcases self.mail_step op with ⟨hmail, hsame⟩ | ⟨e, hmail, hstep⟩
  . rw [hmail, hsame, List.append_nil]
    exact h
  . rw [hmail]
    exact hstep.conserved h

theorem drained_append_queue (config : ServerConfig) (ops : List (ServerOp F)) (deviceId : Uuid)
    : drained deviceId (Run.log step (new config) ops)
          ++ (Run.run step (new config) ops).signaling.queue deviceId
        =
      accepted deviceId (Run.log step (new config) ops) := by
  apply Run.log_invariant (H := fun log s =>
    drained deviceId log ++ s.signaling.queue deviceId = accepted deviceId log)
  . intro log s op h
    exact drained_step op h
  . rfl

def DiscoversEmpty (self : ServerState F) : ServerOp F → Prop
  | .discovered deviceId _ => self.signaling.queue deviceId = []
  | _ => True

instance (self : ServerState F) (op : ServerOp F) : Decidable (self.DiscoversEmpty op) :=
  decidable_of_iff
    (∀ deviceId ∈ op.sessionOf?, op.nextState? = none → self.signaling.queue deviceId = []) <| by
      cases op <;> simp [DiscoversEmpty, ServerOp.sessionOf?, ServerOp.nextState?]

theorem queue_suffix_step {log : List (ServerState F × ServerOp F)} {self : ServerState F}
    {op : ServerOp F} {deviceId : Uuid} (hop : self.DiscoversEmpty op)
    (h : self.signaling.queue deviceId <:+ acceptedSince deviceId log)
    : (self.step op).signaling.queue deviceId <:+ acceptedSince deviceId (log ++ [(self, op)]) := by
  unfold acceptedSince at h ⊢
  rw [List.flatMap_append, List.flatMap_singleton]
  rcases self.mail_step op with ⟨hmail, hsame⟩ | ⟨e, hmail, hstep⟩
  . rw [hmail, hsame, List.append_nil]
    exact h
  . rw [hmail]
    apply hstep.suffix _ h
    rintro rfl
    cases op with
    | discovered k deviceName =>
      cases hmail
      exact hop
    | pushSignalingMessage message =>
      simp only [mail] at hmail
      split at hmail <;> cases hmail
    | drainSignalingMessages k =>
      simp only [mail] at hmail
      split at hmail <;> cases hmail
    | _ => cases hmail

theorem queue_suffix (config : ServerConfig) (ops : List (ServerOp F))
    (hops : Run.AllSteps step DiscoversEmpty (new config) ops) (deviceId : Uuid)
    : (Run.run step (new config) ops).signaling.queue deviceId
        <:+ acceptedSince deviceId (Run.log step (new config) ops) := by
  have hinvariant := Run.log_invariant
    (H := fun log s => (∀ call ∈ log, DiscoversEmpty call.1 call.2) →
      s.signaling.queue deviceId <:+ acceptedSince deviceId log)
    (fun log s op h hlog => queue_suffix_step (hlog (s, op) (by simp))
      (h fun call hcall => hlog call (List.mem_append_left _ hcall)))
    (s := new config) ops (fun _ => List.nil_suffix)
  exact hinvariant ((Run.allSteps_iff_log step).mp hops)

theorem drained_since (config : ServerConfig) (ops : List (ServerOp F))
    (hops : Run.AllSteps step DiscoversEmpty (new config) ops)
    {earlier later : List (ServerState F × ServerOp F)} {s : ServerState F} {deviceId : Uuid}
    {messages : List SignalMessage}
    (hlog : Run.log step (new config) ops
      = earlier ++ (s, .drainSignalingMessages deviceId) :: later)
    (hok : (s.drainSignalingMessages deviceId).1 = .ok messages)
    : messages <:+ acceptedSince deviceId earlier := by
  obtain ⟨before, after, rfl, rfl, hs⟩ := Run.log_eq_append_cons hlog
  dsimp only at hs
  subst hs
  have hqueue := queue_suffix config before hops.of_append deviceId
  rcases drainSignalingMessages_cases _ deviceId with ⟨⟨e, hno⟩, -⟩ | ⟨hyes, -⟩
  . rw [hok] at hno
    cases hno
  . rw [hok, Except.ok.injEq] at hyes
    rw [hyes]
    exact hqueue

def joining (deviceId sessionId : Uuid) (deviceName : String) : List (ServerOp Floats.rational) :=
  [.discovered deviceId deviceName, .transportConnected deviceId,
    .helloExchanged (panelHello deviceId deviceName), .authenticate deviceId,
    .register deviceId ⟨none, none⟩ sessionId, .sceneSynced deviceId, .activate deviceId]

def candidate : SignalMessage := ⟨7, 8, .ice ⟨"candidate", none, none⟩⟩

def signalsOneSession : List (ServerOp Floats.rational) :=
  joining 7 70 "left" ++ joining 8 80 "right" ++ [.pushSignalingMessage candidate]

def signalsTwoSessions : List (ServerOp Floats.rational) :=
  signalsOneSession ++ [.closeSession 8 1, .discovered 8 "right"]

theorem drained_since_one_session
    : [candidate] <:+ acceptedSince 8 (Run.log step (new .default) signalsOneSession) := by
  have hops : Run.AllSteps step DiscoversEmpty (new .default)
      (signalsOneSession ++ [.drainSignalingMessages 8]) := by
    decide
  exact drained_since .default _ hops (Run.log_concat _ signalsOneSession _) rfl

/--
The message that waits for device 8 when its session is closed is drained by its next session.
-/
theorem drained_since_fails
    : Run.log step (new .default) (signalsTwoSessions ++ [.drainSignalingMessages 8])
          = Run.log step (new .default) signalsTwoSessions
            ++ [(Run.run step (new .default) signalsTwoSessions, .drainSignalingMessages 8)]
        ∧ ((Run.run step (new .default) signalsTwoSessions).drainSignalingMessages 8).1
            = .ok [candidate]
        ∧ acceptedSince 8 (Run.log step (new .default) signalsTwoSessions) = []
        ∧ ¬ [candidate] <:+ [] := by
  refine ⟨Run.log_concat _ _ _, rfl, rfl, ?_⟩
  decide

end ServerState

end MotionStage
