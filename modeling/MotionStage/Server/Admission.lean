import Mathlib.Data.List.Forall2
import MotionStage.Server.SessionStep

/-!
This module contains the admission of devices over whole runs of the server: a session is only
active after the calls of its handshake have succeeded in order.
-/

namespace MotionStage

variable {F : Floats}

namespace SessionState

def handshakeUpTo : SessionState → List SessionState
  | .transportConnected => [.transportConnected]
  | .helloExchanged => [.transportConnected, .helloExchanged]
  | .authenticated => [.transportConnected, .helloExchanged, .authenticated]
  | .registered => [.transportConnected, .helloExchanged, .authenticated, .registered]
  | .sceneSynced => [.transportConnected, .helloExchanged, .authenticated, .registered, .sceneSynced]
  | .active =>
    [.transportConnected, .helloExchanged, .authenticated, .registered, .sceneSynced, .active]
  | .discovered => []
  | .closed => []

theorem handshakeUpTo_of_canTransitionTo {state next : SessionState}
    (h : state.canTransitionTo next = true) (hnext : next ≠ .closed)
    : next.handshakeUpTo = state.handshakeUpTo ++ [next] := by
  cases state <;> cases next <;> simp_all [canTransitionTo, handshakeUpTo]

theorem ne_closed_of_canTransitionTo {state next : SessionState}
    (h : state.canTransitionTo next = true)
    : state ≠ .closed := by
  cases state <;> simp_all [canTransitionTo]

end SessionState

namespace ServerState

structure WellFormedHello (hello : ClientHello) : Prop where
  version : ∃ negotiation,
    negotiateVersion ⟨protocolMajor, protocolMinor⟩ ⟨hello.protocolMajor, hello.protocolMinor⟩
      =
    .ok negotiation
  features : hello.features ≠ []
  roles : hello.roles ≠ []
  attributes : .motionSource ∈ hello.roles → hello.advertisedAttributes ≠ []

/--
A call, with the state it is made in, that succeeds and moves the session of a device to a state of
the handshake, together with what the server demands of it.
-/
def Reaches (config : ServerConfig) (deviceId : Uuid)
    : SessionState → ServerState F × ServerOp F → Prop
  | .transportConnected, (s, op) => op = .transportConnected deviceId ∧ s.succeeds op = true
  | .helloExchanged, (s, op) =>
    ∃ hello, op = .helloExchanged hello ∧ hello.deviceId = deviceId ∧ s.succeeds op = true
      ∧ WellFormedHello hello
  | .authenticated, (s, op) => op = .authenticate deviceId ∧ s.succeeds op = true
  | .registered, (s, op) =>
    ∃ req sessionId, op = .register deviceId req sessionId ∧ s.succeeds op = true
      ∧ s.config = config ∧ s.ensureAuth req = .ok ()
      ∧ ∃ session, s.sessions.get? deviceId = some session
        ∧ ∃ feature ∈ session.features, feature ∈ config.supportedFeatures
  | .sceneSynced, (s, op) => op = .sceneSynced deviceId ∧ s.succeeds op = true
  | .active, (s, op) => op = .activate deviceId ∧ s.succeeds op = true
  | .discovered, _ => False
  | .closed, _ => False

def Discovers (deviceId : Uuid) (call : ServerState F × ServerOp F) : Prop :=
  ∃ deviceName, call.2 = .discovered deviceId deviceName ∧ call.1.succeeds call.2 = true

/--
The calls since the latest successful `discovered` contain the handshake up to `state`, in order.
-/
def Trail (config : ServerConfig) (deviceId : Uuid) (state : SessionState)
    (log : List (ServerState F × ServerOp F)) : Prop :=
  ∃ earlier start later, log = earlier ++ start :: later ∧ Discovers deviceId start
    ∧ (∀ call ∈ later, ¬ Discovers deviceId call)
    ∧ List.SublistForall₂ (Reaches config deviceId) state.handshakeUpTo later

theorem checkHello_ok {hello : ClientHello} (h : (checkHello hello).isOk = true)
    : WellFormedHello hello := by
  unfold checkHello at h
  split at h
  . cases h
  . next negotiation hversion =>
    split at h
    . cases h
    . next hfeatures =>
      split at h
      . cases h
      . next hroles =>
        split at h
        . cases h
        . next hattributes =>
          refine ⟨⟨negotiation, hversion⟩, ?_, ?_, ?_⟩
          . simpa using hfeatures
          . simpa using hroles
          . simpa using hattributes

theorem acceptsRegister_spec {s : ServerState F} {deviceId : Uuid} {req : RegisterRequest}
    (h : s.acceptsRegister deviceId req = true)
    : s.ensureAuth req = .ok ()
        ∧ ∃ session, s.sessions.get? deviceId = some session
          ∧ ∃ feature ∈ session.features, feature ∈ s.config.supportedFeatures := by
  simp only [acceptsRegister, Bool.and_eq_true, Option.any_eq_true] at h
  obtain ⟨hauth, session, hsession, -, hfeatures⟩ := h
  constructor
  . cases hcase : s.ensureAuth req with
    | error e => simp [hcase, Except.isOk, Except.toBool] at hauth
    | ok u => rfl
  . refine ⟨session, hsession, ?_⟩
    have hsome : s.negotiatedFeatures session ≠ [] := by simpa using hfeatures
    obtain ⟨feature, hmem⟩ := List.exists_mem_of_ne_nil _ hsome
    simp only [negotiatedFeatures, List.mem_filter, List.contains_iff_mem] at hmem
    exact ⟨feature, hmem⟩

theorem reaches_of_succeeds {s : ServerState F} {op : ServerOp F} {deviceId : Uuid}
    {next : SessionState} (hop : op.sessionOf? = some deviceId) (hnext : op.nextState? = some next)
    (hclosed : next ≠ .closed) (hok : s.succeeds op = true)
    : Reaches s.config deviceId next (s, op) := by
  have hpasses : s.passes op = true := by
    rw [succeeds_eq hop, Bool.and_eq_true] at hok
    exact hok.1
  cases op with
  | transportConnected => cases hop; cases hnext; exact ⟨rfl, hok⟩
  | helloExchanged hello =>
    cases hop
    cases hnext
    exact ⟨hello, rfl, rfl, hok, checkHello_ok hpasses⟩
  | authenticate => cases hop; cases hnext; exact ⟨rfl, hok⟩
  | register _ req sessionId =>
    cases hop
    cases hnext
    obtain ⟨hauth, hfeature⟩ := acceptsRegister_spec hpasses
    exact ⟨req, sessionId, rfl, hok, rfl, hauth, hfeature⟩
  | sceneSynced => cases hop; cases hnext; exact ⟨rfl, hok⟩
  | activate => cases hop; cases hnext; exact ⟨rfl, hok⟩
  | closeSession => cases hnext; exact absurd rfl hclosed
  | _ => cases hnext

section Trail

variable {config : ServerConfig} {deviceId : Uuid} {state next : SessionState}
  {log : List (ServerState F × ServerOp F)} {call : ServerState F × ServerOp F}

theorem Trail.append (h : Trail config deviceId state log) (hcall : ¬ Discovers deviceId call)
    (hnext : ∀ later, List.SublistForall₂ (Reaches config deviceId) state.handshakeUpTo later →
      List.SublistForall₂ (Reaches config deviceId) next.handshakeUpTo (later ++ [call]))
    : Trail config deviceId next (log ++ [call]) := by
  obtain ⟨earlier, start, later, rfl, hstart, hlater, hreaches⟩ := h
  refine ⟨earlier, start, later ++ [call], by simp, hstart, ?_, hnext later hreaches⟩
  intro c hc
  rcases List.mem_append.mp hc with hc | hc
  . exact hlater c hc
  . rw [List.mem_singleton.mp hc]
    exact hcall

theorem Trail.skip (h : Trail config deviceId state log) (hcall : ¬ Discovers deviceId call)
    : Trail config deviceId state (log ++ [call]) := by
  apply h.append hcall
  intro later hreaches
  obtain ⟨calls, hcalls, hsub⟩ := List.sublistForall₂_iff.mp hreaches
  exact List.sublistForall₂_iff.mpr ⟨calls, hcalls, hsub.trans (List.sublist_append_left _ _)⟩

theorem Trail.extend (h : Trail config deviceId state log) (hcall : ¬ Discovers deviceId call)
    (hnext : next.handshakeUpTo = state.handshakeUpTo ++ [next])
    (hreach : Reaches config deviceId next call)
    : Trail config deviceId next (log ++ [call]) := by
  apply h.append hcall
  intro later hreaches
  rw [hnext]
  obtain ⟨calls, hcalls, hsub⟩ := List.sublistForall₂_iff.mp hreaches
  refine List.sublistForall₂_iff.mpr ⟨calls ++ [call], ?_, hsub.append (List.Sublist.refl _)⟩
  exact List.rel_append hcalls (.cons hreach .nil)

theorem trail_of_discovers (hcall : Discovers deviceId call)
    : Trail config deviceId .discovered (log ++ [call]) :=
  ⟨log, call, [], rfl, hcall, by simp, .nil⟩

end Trail

def Admission (config : ServerConfig) (deviceId : Uuid) (log : List (ServerState F × ServerOp F))
    (s : ServerState F) : Prop :=
  s.config = config
    ∧ ∀ session, s.sessions.get? deviceId = some session → session.state ≠ .closed →
      Trail config deviceId session.state log

theorem not_discovers_of_nextState? {s : ServerState F} {op : ServerOp F} {next : SessionState}
    (h : op.nextState? = some next) (deviceId : Uuid)
    : ¬ Discovers deviceId (s, op) := by
  rintro ⟨deviceName, rfl, -⟩
  cases h

theorem not_discovers_of_not_passes {s : ServerState F} {op : ServerOp F} {deviceId : Uuid}
    (h : ¬ (op.sessionOf? = some deviceId ∧ s.passes op = true))
    : ¬ Discovers deviceId (s, op) := by
  rintro ⟨deviceName, rfl, hok⟩
  rw [succeeds_eq rfl, Bool.and_eq_true] at hok
  exact h ⟨rfl, hok.1⟩

theorem admission_step {config : ServerConfig} {deviceId : Uuid}
    {log : List (ServerState F × ServerOp F)} {s : ServerState F} (op : ServerOp F)
    (h : Admission config deviceId log s)
    : Admission config deviceId (log ++ [(s, op)]) (s.step op) := by
  obtain ⟨hconfig, htrail⟩ := h
  refine ⟨(s.step_frame op).1.trans hconfig, ?_⟩
  intro session hsession hclosed
  rw [get?_step] at hsession
  split at hsession
  . next hcall =>
    obtain ⟨hop, hpasses⟩ := hcall
    rcases ServerOp.session_cases hop with ⟨deviceName, rfl⟩ | ⟨next, hnext, hafter⟩
    . cases hsession
      apply trail_of_discovers
      refine ⟨deviceName, rfl, ?_⟩
      rw [succeeds_eq rfl, hpasses]
      rfl
    -- a transition that is taken extends the trail by its call, any other call is skipped
    . have hnot := not_discovers_of_nextState? (s := s) hnext deviceId
      rw [hafter, Option.map_eq_some_iff] at hsession
      obtain ⟨old, hrecord, rfl⟩ := hsession
      rw [SessionInfo.advance_state, SessionInfo.write_state] at hclosed ⊢
      split at hclosed
      . next hcan =>
        rw [if_pos hcan]
        have hold := htrail old hrecord (SessionState.ne_closed_of_canTransitionTo hcan)
        apply hold.extend hnot (SessionState.handshakeUpTo_of_canTransitionTo hcan hclosed)
        rw [← hconfig]
        apply reaches_of_succeeds hop hnext hclosed
        rw [succeeds_eq hop, hpasses]
        simp [ServerOp.admittedBy, hnext, hrecord, hcan]
      . next hcan =>
        rw [if_neg hcan]
        exact (htrail old hrecord hclosed).skip hnot
  . next hcall =>
    exact (htrail session hsession hclosed).skip (not_discovers_of_not_passes hcall)

theorem trail_of_active (config : ServerConfig) (ops : List (ServerOp F)) (deviceId : Uuid)
    {session : SessionInfo}
    (hsession : (Run.run step (new config) ops).sessions.get? deviceId = some session)
    (hactive : session.state = .active)
    : ∃ earlier start later, Run.log step (new config) ops = earlier ++ start :: later
        ∧ Discovers deviceId start
        ∧ (∀ call ∈ later, ¬ Discovers deviceId call)
        ∧ List.SublistForall₂ (Reaches config deviceId)
            [.transportConnected, .helloExchanged, .authenticated, .registered, .sceneSynced, .active]
            later := by
  have hinit : Admission config deviceId [] (new (F := F) config) := by
    refine ⟨rfl, ?_⟩
    intro session h
    simp [new] at h
  have hrun := Run.log_invariant (fun l s op h => admission_step op h) ops hinit
  have htrail := hrun.2 session hsession (by simp [hactive])
  rw [hactive] at htrail
  exact htrail

def panelHandshake : List (ServerOp Floats.rational) :=
  [.discovered 7 "panel", .transportConnected 7, .helloExchanged (panelHello 7 "panel"),
    .authenticate 7, .register 7 ⟨none, none⟩ 60, .sceneSynced 7, .activate 7]

theorem trail_of_active_panelHandshake
    : ((Run.run step (new .default) panelHandshake).sessions.get? 7).map SessionInfo.state
          = some .active
        ∧ ∃ earlier start later, Run.log step (new .default) panelHandshake
            = earlier ++ start :: later
          ∧ Discovers 7 start
          ∧ (∀ call ∈ later, ¬ Discovers 7 call)
          ∧ List.SublistForall₂ (Reaches .default 7)
              [.transportConnected, .helloExchanged, .authenticated, .registered, .sceneSynced,
                .active]
              later :=
  ⟨rfl, trail_of_active .default panelHandshake 7 rfl rfl⟩

end ServerState

end MotionStage
