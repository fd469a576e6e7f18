import MotionStage.Server.PeerStep

/-!
This module contains the end of a connection: in which cases a handler that has brought a session
into the table closes it before it returns.
-/

namespace MotionStage

variable {F : Floats}

structure Connection (F : Floats) where
  peer : Peer F
  server : ServerState F

inductive ConnectionInput (F : Floats) where
  | peer (e : PeerEvent F)
  | server (op : ServerOp F)

namespace ServerState

def SessionClosed (s : ServerState F) (deviceId : Uuid) : Prop :=
  s.stateOf? deviceId = some .closed
    ∧ deviceId ∉ s.runtime.connectedDevices

instance (s : ServerState F) (deviceId : Uuid) : Decidable (s.SessionClosed deviceId) :=
  inferInstanceAs (Decidable (_ ∧ _))

end ServerState

namespace Connection

def new (s : ServerState F) : Connection F := ⟨.new, s⟩

def step (c : Connection F) : ConnectionInput F → Connection F
  | .peer e => ⟨(c.peer.step c.server e).1, (c.peer.step c.server e).2⟩
  | .server op => { c with server := c.server.step op }

def react (c : Connection F) (e : PeerEvent F) : Connection F := c.step (.peer e)

/--
Nothing else acts on the session of the handler's device, from the time the handler knows it.
-/
def Alone (c : Connection F) : ConnectionInput F → Prop
  | .peer _ => True
  | .server op =>
    (∀ hello ∈ c.peer.phase.hello?, op.sessionOf? ≠ some hello.deviceId)
      ∧ ∀ deviceId ∈ c.peer.joined, op.sessionOf? ≠ some deviceId

instance (c : Connection F) : DecidablePred c.Alone
  | .peer _ => inferInstanceAs (Decidable True)
  | .server _ => inferInstanceAs (Decidable (_ ∧ _))

end Connection

namespace PeerPhase

inductive Tracks (s : ServerState F) : PeerPhase F → Option Uuid → Prop where
  | before (phase) (hphase : phase.sessionState? = none) : Tracks s phase none
  | during (phase hello state) (hhello : phase.hello? = some hello)
    (hstate : phase.sessionState? = some state)
    (hsession : s.stateOf? hello.deviceId = some state)
    : Tracks s phase (some hello.deviceId)
  | closed (result deviceId) (hclosed : s.SessionClosed deviceId)
    : Tracks s (.done result) (some deviceId)

def Leaked (s : ServerState F) (phase : PeerPhase F) (joined : Option Uuid) : Prop :=
  ∃ result deviceId state, phase = .done result ∧ joined = some deviceId
    ∧ s.stateOf? deviceId = some state ∧ state ≠ .closed

theorem tracks_proceed (s : ServerState F) (op : ServerOp F) (hello : ClientHello)
    (phase : PeerPhase F) {state next : SessionState}
    (hop : op.sessionOf? = some hello.deviceId) (hnext : op.nextState? = some next)
    (hpasses : s.passes op = true) (hsession : s.stateOf? hello.deviceId = some state)
    (hcan : state.canTransitionTo next = true) (hhello : phase.hello? = some hello)
    (hphase : phase.sessionState? = some next)
    : Tracks (proceed (s.exec op) fun _ => phase).2 (proceed (s.exec op) fun _ => phase).1
        (some hello.deviceId) := by
  obtain ⟨hok, hafter⟩ :=
    ServerState.succeeds_of_canTransitionTo hop hnext hpasses hsession hcan
  have hphase' : (proceed (s.exec op) fun _ => phase).1 = phase := by
    unfold ServerState.succeeds at hok
    unfold proceed
    split
    . rfl
    . next h => rw [h] at hok; cases hok
  rw [hphase', proceed_server]
  exact .during phase hello next hhello hphase hafter

theorem sessionClosed_closeSession {s : ServerState F} {deviceId : Uuid} {state : SessionState}
    (hsession : s.stateOf? deviceId = some state) (hcan : state.canTransitionTo .closed = true)
    (nowNs : Nat)
    : (s.step (.closeSession deviceId nowNs)).SessionClosed deviceId := by
  constructor
  . exact (ServerState.succeeds_of_canTransitionTo rfl rfl rfl hsession hcan).2
  . rw [ServerState.step_connectedDevices]
    simp [ServerState.devicesAfter]

theorem helloExchanged_refused (s : ServerState F) {hello : ClientHello}
    (hcheck : ¬ (ServerState.checkHello hello).isOk = true)
    : ∃ e, s.helloExchanged hello = (.error e, s) := by
  unfold ServerState.helloExchanged
  cases h : ServerState.checkHello hello with
  | error e => exact ⟨e, rfl⟩
  | ok u => simp [h, Except.isOk, Except.toBool] at hcheck

theorem tracks_register {s : ServerState F} {hello : ClientHello}
    (hsession : s.stateOf? hello.deviceId = some .authenticated) (req : RegisterRequest)
    (nowNs : Nat) (fresh : Uuid) (results : WebRtcResults)
    : Tracks ((PeerPhase.register hello req).step s (.run nowNs fresh results)).2
        ((PeerPhase.register hello req).step s (.run nowNs fresh results)).1
        (some hello.deviceId) := by
  simp only [step, runCall]
  -- a refused `register` has not written, so the session is still authenticated
  rcases ServerState.register_of_authenticated req fresh hsession with
    ⟨hok, hafter⟩ | ⟨hok, -, hafter⟩
  . split
    . next h => rw [h] at hafter; exact .during _ hello _ rfl rfl hafter
    . next h => rw [h] at hok; cases hok
    . next h => rw [h] at hok; cases hok
  . split
    . next h => rw [h] at hok; cases hok
    . next h => rw [h] at hafter; exact .during _ hello _ rfl rfl hafter
    . next h => rw [h] at hafter; exact .during _ hello _ rfl rfl hafter

theorem tracks_serve {s : ServerState F} {hello : ClientHello}
    (hsession : s.stateOf? hello.deviceId = some .active) (message : ControlMessage)
    (nowNs : Nat) (fresh : Uuid) (results : WebRtcResults)
    : Tracks ((PeerPhase.serve hello message).step s (.run nowNs fresh results)).2
        ((PeerPhase.serve hello message).step s (.run nowNs fresh results)).1
        (some hello.deviceId) := by
  obtain ⟨hstays, hactive⟩ := runServe_stays hello s nowNs results message
  refine .during _ hello .active hstays hactive ?_
  simp only [step, runCall, runServe_server]
  cases hcall : serveCall? (F := F) hello nowNs results message with
  | none => exact hsession
  | some op =>
    have hop : op.sessionOf? ≠ some hello.deviceId := by simp [serveCall?_sessionOf? hcall]
    exact (ServerState.stateOf?_step_of_ne hop).trans hsession

theorem tracks_runCall {phase : PeerPhase F} {s : ServerState F} {hello : ClientHello}
    {state : SessionState} (hhello : phase.hello? = some hello)
    (hstate : phase.sessionState? = some state) (hsession : s.stateOf? hello.deviceId = some state)
    (nowNs : Nat) (fresh : Uuid) (results : WebRtcResults)
    : (Orderly phase (.run nowNs fresh results)
        ∧ Tracks (phase.step s (.run nowNs fresh results)).2
            (phase.step s (.run nowNs fresh results)).1 (some hello.deviceId))
        ∨
      (¬ Orderly phase (.run nowNs fresh results)
        ∧ Leaked (phase.step s (.run nowNs fresh results)).2
            (phase.step s (.run nowNs fresh results)).1 (some hello.deviceId)) := by
  cases phase with
  | transportConnect hello' =>
    cases hhello
    cases hstate
    exact .inl ⟨trivial, tracks_proceed s (.transportConnected hello.deviceId) hello
      (.exchangeHello hello) rfl rfl rfl hsession rfl rfl rfl⟩
  | exchangeHello hello' =>
    cases hhello
    cases hstate
    by_cases hcheck : (ServerState.checkHello hello).isOk = true
    . exact .inl ⟨hcheck, tracks_proceed s (.helloExchanged hello) hello
        (.authenticate hello) rfl rfl hcheck hsession rfl rfl rfl⟩
    . refine .inr ⟨hcheck, ?_⟩
      -- the `?` after a refused greeting returns with the session as it was
      obtain ⟨e, he⟩ := helloExchanged_refused s hcheck
      simp only [step, runCall, he, proceed]
      exact ⟨_, _, _, rfl, rfl, hsession, by decide⟩
  | authenticate hello' =>
    cases hhello
    cases hstate
    exact .inl ⟨trivial, tracks_proceed s (.authenticate hello.deviceId) hello
      (.recvRegister hello) rfl rfl rfl hsession rfl rfl rfl⟩
  | register hello' req =>
    cases hhello
    cases hstate
    exact .inl ⟨trivial, tracks_register hsession req nowNs fresh results⟩
  | refuse hello' result =>
    cases hhello
    cases hstate
    exact .inl ⟨trivial, .closed result _ (sessionClosed_closeSession hsession rfl nowNs)⟩
  | syncScene hello' =>
    cases hhello
    cases hstate
    exact .inl ⟨trivial, tracks_proceed s (.sceneSynced hello.deviceId) hello
      (.activate hello) rfl rfl rfl hsession rfl rfl rfl⟩
  | activate hello' =>
    cases hhello
    cases hstate
    exact .inl ⟨trivial, tracks_proceed s (.activate hello.deviceId) hello
      (.select hello) rfl rfl rfl hsession rfl rfl rfl⟩
  | teardown hello' =>
    cases hhello
    cases hstate
    exact .inl ⟨trivial, .closed (.ok ()) _ (sessionClosed_closeSession hsession rfl nowNs)⟩
  | serve hello' message =>
    cases hhello
    cases hstate
    exact .inl ⟨trivial, tracks_serve hsession message nowNs fresh results⟩
  | ingest hello' datagram =>
    cases hhello
    cases hstate
    refine .inl ⟨trivial, .during _ hello .active rfl rfl ?_⟩
    rw [step_server]
    exact (ServerState.stateOf?_step_of_ne (by simp [ServerOp.sessionOf?])).trans hsession
  | discover => cases hstate
  | _ => exact .inl ⟨trivial, .during _ hello state hhello hstate hsession⟩

theorem tracks_step_before {phase : PeerPhase F} (s : ServerState F) (e : PeerEvent F)
    (hphase : phase.sessionState? = none)
    : Orderly phase e
        ∧ Tracks (phase.step s e).2 (phase.step s e).1
            (Peer.joinedAt none phase (phase.step s e).1) := by
  cases phase with
  | openControl =>
    refine ⟨trivial, ?_⟩
    cases e with
    | transport result => cases result <;> exact .before _ rfl
    | _ => exact .before _ rfl
  | readServerHello =>
    refine ⟨trivial, ?_⟩
    cases e <;> exact .before _ rfl
  | sendServerHello hello =>
    refine ⟨trivial, ?_⟩
    cases e with
    | transport result => cases result <;> exact .before _ rfl
    | _ => exact .before _ rfl
  | recvClientHello =>
    refine ⟨trivial, ?_⟩
    cases e with
    | received message =>
      cases message with
      | error => exact .before _ rfl
      | ok message => cases message <;> exact .before _ rfl
    | _ => exact .before _ rfl
  | discover hello =>
    refine ⟨trivial, ?_⟩
    cases e with
    | run nowNs fresh results =>
      simp only [step, runCall]
      rcases s.discovered_spec hello.deviceId hello.deviceName with ⟨-, e, h⟩ | ⟨-, h⟩
      . rw [h]
        exact .before _ rfl
      . rw [h]
        refine .during _ hello .discovered rfl rfl ?_
        simp [proceed, ServerState.stateOf?, SessionInfo.fresh]
    | _ => exact .before _ rfl
  | done result =>
    refine ⟨trivial, ?_⟩
    cases e <;> exact .before _ rfl
  | _ => cases hphase

theorem tracks_step {phase : PeerPhase F} {s : ServerState F} {joined : Option Uuid}
    (h : Tracks s phase joined) (e : PeerEvent F)
    : (Orderly phase e
        ∧ Tracks (phase.step s e).2 (phase.step s e).1
            (Peer.joinedAt joined phase (phase.step s e).1))
        ∨
      (¬ Orderly phase e
        ∧ Leaked (phase.step s e).2 (phase.step s e).1
            (Peer.joinedAt joined phase (phase.step s e).1)) := by
  cases h with
  | before _ hphase => exact .inl (tracks_step_before s e hphase)
  | closed result deviceId hclosed =>
    refine .inl ⟨trivial, ?_⟩
    cases e <;> exact .closed result deviceId hclosed
  | during _ hello state hhello hstate hsession =>
    rw [Peer.joinedAt_of_sessionState? hstate]
    rcases e.run_or_waits with ⟨nowNs, fresh, results, rfl⟩ | hwait
    . exact tracks_runCall hhello hstate hsession nowNs fresh results
    . rw [step_server_of_waits phase s hwait]
      rcases step_stays hhello hstate hwait with
        ⟨hclean, hhello', hstate'⟩ | ⟨hclean, result, hdone⟩
      . exact .inl ⟨hclean, .during _ hello state hhello' hstate' hsession⟩
      . refine .inr ⟨hclean, ?_⟩
        exact ⟨result, _, state, hdone, rfl, hsession, ne_closed_of_sessionState? hstate⟩

end PeerPhase

namespace Connection

def Orderly (c : Connection F) : ConnectionInput F → Prop
  | .peer e => c.peer.phase.Orderly e
  | .server _ => True

instance (c : Connection F) : DecidablePred c.Orderly
  | .peer e => inferInstanceAs (Decidable (c.peer.phase.Orderly e))
  | .server _ => inferInstanceAs (Decidable True)

def Tracks (c : Connection F) : Prop := c.peer.phase.Tracks c.server c.peer.joined

def Leaked (c : Connection F) : Prop := c.peer.phase.Leaked c.server c.peer.joined

theorem tracks_server {c : Connection F} {op : ServerOp F} (h : c.Tracks)
    (halone : c.Alone (.server op))
    : (c.step (.server op)).Tracks := by
  obtain ⟨⟨phase, sent, joined, accepted⟩, s⟩ := c
  cases h with
  | before _ hphase => exact .before _ hphase
  | during _ hello state hhello hstate hsession =>
    refine .during _ hello state hhello hstate ?_
    exact (ServerState.stateOf?_step_of_ne (halone.1 hello hhello)).trans hsession
  | closed result deviceId hclosed =>
    have hne : op.sessionOf? ≠ some deviceId := halone.2 deviceId rfl
    refine .closed result deviceId ⟨(ServerState.stateOf?_step_of_ne hne).trans hclosed.1, ?_⟩
    exact fun hmem => hclosed.2 ((ServerState.mem_connectedDevices_step_of_ne hne).mp hmem)

theorem leaked_step {c : Connection F} {i : ConnectionInput F} (h : c.Leaked) (halone : c.Alone i)
    : (c.step i).Leaked := by
  obtain ⟨⟨phase, sent, joined, accepted⟩, s⟩ := c
  obtain ⟨result, deviceId, state, rfl, rfl, hsession, hopen⟩ := h
  cases i with
  | peer e => cases e <;> exact ⟨result, deviceId, state, rfl, rfl, hsession, hopen⟩
  | server op =>
    have hne : op.sessionOf? ≠ some deviceId := halone.2 deviceId rfl
    have hsession' := (ServerState.stateOf?_step_of_ne hne).trans hsession
    exact ⟨result, deviceId, state, rfl, rfl, hsession', hopen⟩

theorem sessionClosed_iff_orderly (s : ServerState F) (inputs : List (ConnectionInput F))
    {result : Except ServerError Unit} {deviceId : Uuid}
    (halone : Run.AllSteps step Alone (new s) inputs)
    (hdone : (Run.run step (new s) inputs).peer.phase = .done result)
    (hjoined : (Run.run step (new s) inputs).peer.joined = some deviceId)
    : (Run.run step (new s) inputs).server.SessionClosed deviceId
        ↔
      Run.AllSteps step Orderly (new s) inputs := by
  have hinit : (new s).Tracks := .before _ rfl
  have hstep (c : Connection F) (i : ConnectionInput F) (h : c.Tracks) (halone : c.Alone i)
      : (c.Orderly i ∧ (c.step i).Tracks) ∨ (¬ c.Orderly i ∧ (c.step i).Leaked) := by
    cases i with
    | server op => exact .inl ⟨trivial, tracks_server h halone⟩
    | peer e => exact PeerPhase.tracks_step h e
  rcases Run.invariant_or_trapped hstep (fun c i h halone => leaked_step h halone) hinit halone with
    ⟨hclean, htracks⟩ | ⟨hnot, hleaked⟩
  . simp only [hclean, iff_true]
    unfold Tracks at htracks
    rw [hdone, hjoined] at htracks
    cases htracks with
    | during _ hello state hhello => cases hhello
    | closed _ _ hclosed => exact hclosed
  . simp only [hnot, iff_false]
    intro hclosed
    obtain ⟨result', deviceId', state, -, hjoined', hsession, hopen⟩ := hleaked
    rw [hjoined, Option.some.injEq] at hjoined'
    subst hjoined'
    rw [hclosed.1, Option.some.injEq] at hsession
    exact hopen hsession.symm

def panelVisit : List (ConnectionInput Floats.rational) :=
  (PeerEvent.panelGreets 7 "panel" ++ PeerEvent.panelRegisters 60
    ++ [PeerEvent.received (.error "closed"), PeerEvent.turn 5 0]).map .peer

theorem sessionClosed_iff_orderly_panelVisit
    : Run.AllSteps step Alone (new (.new .default)) panelVisit
        ∧
      ((Run.run step (new (.new .default)) panelVisit).server.SessionClosed 7
          ↔
        Run.AllSteps step Orderly (new (.new .default)) panelVisit) :=
  ⟨by decide, sessionClosed_iff_orderly (.new .default) panelVisit (by decide) rfl rfl⟩

/--
A peer that goes away between its greeting and its registration leaves an authenticated session
behind.
-/
theorem sessionClosed_fails
    : let inputs : List (ConnectionInput Floats.rational) :=
        (PeerEvent.panelGreets 7 "panel" ++ [PeerEvent.received (.error "closed")]).map .peer
      let last := Run.run step (new (.new .default)) inputs
      Run.AllSteps step Alone (new (.new .default)) inputs
        ∧ last.peer.phase = .done (.error (.runtime "closed"))
        ∧ last.peer.joined = some 7
        ∧ ¬ last.server.SessionClosed 7 :=
  ⟨by decide, rfl, rfl, by decide⟩

end Connection

end MotionStage
