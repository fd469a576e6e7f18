import MotionStage.Server.Presence

/-!
This module contains the session calls that fail: which of them leave the server as it was, and
which have already written something when they notice.
-/

namespace MotionStage

variable {F : Floats}

namespace ServerState

/--
The state `s'` differs from `s` at most in the number of rejected sessions.
-/
structure Undone (s s' : ServerState F) : Prop where
  sessions : ∀ k, s'.sessions.get? k = s.sessions.get? k
  connectedDevices : s'.runtime.connectedDevices = s.runtime.connectedDevices
  mappings : s'.runtime.mappings = s.runtime.mappings
  videoPeers : ∀ k, s'.videoPeers.get? k = s.videoPeers.get? k
  rest : s' = { s with
    sessions := s'.sessions
    runtime :=
      { s.runtime with
        connectedDevices := s'.runtime.connectedDevices
        mappings := s'.runtime.mappings }
    videoPeers := s'.videoPeers
    metrics := { s.metrics with rejectedSessions := s'.metrics.rejectedSessions } }

/--
The states from which a session call either succeeds or leaves nothing behind: what it writes
before it checks the transition is there already.
-/
def AtomicCall (self : ServerState F) : ServerOp F → Prop
  | .helloExchanged hello =>
    (checkHello hello).isOk = true → ∀ session ∈ self.sessions.get? hello.deviceId,
      session.state = .transportConnected
        ∨ (hello.roles = session.roles ∧ hello.features = session.features
            ∧ hello.advertisedAttributes = session.advertisedAttributes)
  | .register deviceId req sessionId =>
    self.acceptsRegister deviceId req = true → ∀ session ∈ self.sessions.get? deviceId,
      session.state = .authenticated ∨ session.sessionId = some sessionId
  | .activate deviceId =>
    self.stateOf? deviceId = some .sceneSynced ∨ deviceId ∈ self.runtime.connectedDevices
  | .closeSession deviceId nowNs =>
    (self.stateOf? deviceId).any (fun state => state.canTransitionTo .closed) = true
      ∨ (deviceId ∉ self.runtime.connectedDevices
          ∧ (∀ m ∈ self.runtime.mappings.values, m.sourceDevice = deviceId → m.state = .active →
              m.disconnectedAtNs = some nowNs)
          ∧ self.videoPeers.get? deviceId = none)
  | _ => True

section Fails

variable {self : ServerState F} {op : ServerOp F} {k : Uuid} {next : SessionState}

theorem sessions_of_fails (hop : op.sessionOf? = some k) (hnext : op.nextState? = some next)
    (hfails : self.succeeds op = false)
    : (∀ k', (self.step op).sessions.get? k' = self.sessions.get? k')
        ↔
      (self.passes op = true → ∀ session ∈ self.sessions.get? k, session.write op = session) := by
  rcases ServerOp.session_cases hop with ⟨deviceName, rfl⟩ | ⟨next', hnext', hafter⟩
  . cases hnext
  . rw [hnext, Option.some.injEq] at hnext'
    subst hnext'
    rw [succeeds_eq hop] at hfails
    simp only [ServerOp.admittedBy, hnext, Bool.and_eq_false_imp] at hfails
    have hstuck : self.passes op = true → ∀ session ∈ self.sessions.get? k,
        (session.write op).advance next = session.write op := by
      intro hpasses session hsession
      have hno := hfails hpasses
      rw [hsession] at hno
      simp only [Option.any_some] at hno
      simp [SessionInfo.advance, hno]
    constructor
    . intro h hpasses session hsession
      have hk := h k
      rw [get?_step, if_pos ⟨hop, hpasses⟩, hafter, hsession, Option.map_some,
        hstuck hpasses session hsession] at hk
      exact Option.some.inj hk
    . intro h k'
      rw [get?_step]
      split
      . next hcall =>
        obtain ⟨hk', hpasses⟩ := hcall
        rw [hop, Option.some.injEq] at hk'
        subst hk'
        rw [hafter]
        cases hsession : self.sessions.get? k with
        | none => rfl
        | some session =>
          rw [Option.map_some, hstuck hpasses session hsession, h hpasses session hsession]
      . rfl

theorem succeeds_iff (hop : op.sessionOf? = some k) (hnext : op.nextState? = some next)
    (hpasses : self.passes op = true)
    : self.succeeds op = (self.stateOf? k).any fun state => state.canTransitionTo next := by
  rw [succeeds_eq hop, hpasses, Bool.true_and]
  simp only [ServerOp.admittedBy, hnext, stateOf?]
  cases self.sessions.get? k <;> rfl

theorem sessions_of_fails_iff (self : ServerState F) (op : ServerOp F) (before : SessionState)
    (hop : op.sessionOf? = some k) (hnext : op.nextState? = some next)
    (hbefore : ∀ state : SessionState, state.canTransitionTo next = true ↔ state = before)
    : (self.succeeds op = false →
        ∀ k', (self.step op).sessions.get? k' = self.sessions.get? k')
        ↔
      (self.passes op = true → ∀ session ∈ self.sessions.get? k,
        session.state = before ∨ session.write op = session) := by
  have hsucceeds : self.passes op = true → ∀ session ∈ self.sessions.get? k,
      (self.succeeds op = false ↔ session.state ≠ before) := by
    intro hpasses session hsession
    have hstate : self.stateOf? k = some session.state := by
      rw [stateOf?, hsession, Option.map_some]
    rw [succeeds_iff hop hnext hpasses, hstate, Option.any_some, ne_eq, ← hbefore,
      Bool.not_eq_true]
  constructor
  . intro h hpasses session hsession
    rw [or_iff_not_imp_left]
    intro hstate
    have hfails := (hsucceeds hpasses session hsession).mpr hstate
    exact (sessions_of_fails hop hnext hfails).mp (h hfails) hpasses session hsession
  . intro h hfails
    rw [sessions_of_fails hop hnext hfails]
    intro hpasses session hsession
    rcases h hpasses session hsession with hstate | hwrite
    . exact absurd hstate ((hsucceeds hpasses session hsession).mp hfails)
    . exact hwrite

end Fails

theorem register_metrics {self : ServerState F} {deviceId sessionId : Uuid} {req : RegisterRequest}
    (hfails : (self.register deviceId req sessionId).1.isOk = false)
    : (self.register deviceId req sessionId).2.metrics
        =
      { self.metrics with
        rejectedSessions :=
          (self.register deviceId req sessionId).2.metrics.rejectedSessions } := by
  revert hfails
  unfold register
  cases self.ensureAuth req with
  | error code => exact fun _ => rfl
  | ok _ =>
    dsimp only
    cases self.sessions.get? deviceId with
    | none => exact fun _ => rfl
    | some session =>
      dsimp only
      cases self.enforceUniqueDeviceName deviceId session.deviceName with
      | error e => exact fun _ => rfl
      | ok _ =>
        dsimp only
        split
        . exact fun _ => rfl
        . have hframe := changeSessionState_frame
            { self with
              sessions := self.sessions.modify deviceId fun session =>
                { session with sessionId := some sessionId } } deviceId .registered
          generalize changeSessionState _ deviceId .registered = changed at hframe ⊢
          obtain ⟨result, self'⟩ := changed
          intro hfails
          cases result with
          | ok _ => cases hfails
          | error e =>
            dsimp only at hframe ⊢
            rw [hframe]

section Calls

variable (self : ServerState F) (deviceId : Uuid)

theorem undone_changeSessionState (next : SessionState)
    (hfails : (self.changeSessionState deviceId next).1.isOk = false)
    : Undone self (self.changeSessionState deviceId next).2 := by
  revert hfails
  unfold changeSessionState
  cases self.sessions.get? deviceId with
  | none => exact fun _ => ⟨fun _ => rfl, rfl, rfl, fun _ => rfl, rfl⟩
  | some session =>
    dsimp only
    split
    . exact fun _ => ⟨fun _ => rfl, rfl, rfl, fun _ => rfl, rfl⟩
    . exact fun hfails => by cases hfails

theorem undone_helloExchanged_iff (hello : ClientHello)
    : (self.succeeds (.helloExchanged hello) = false →
        Undone self (self.step (.helloExchanged hello)))
        ↔
      self.AtomicCall (.helloExchanged hello) := by
  have hwrite : ∀ session : SessionInfo,
      session.write (F := F) (.helloExchanged hello) = session
        ↔
      (hello.roles = session.roles ∧ hello.features = session.features
        ∧ hello.advertisedAttributes = session.advertisedAttributes) := by
    intro session
    cases session
    simp [SessionInfo.write]
  have hiff := self.sessions_of_fails_iff (.helloExchanged hello) .transportConnected rfl rfl
    (by intro state; cases state <;> decide)
  simp only [hwrite] at hiff
  constructor
  . intro h
    exact hiff.mp fun hfails => (h hfails).sessions
  . intro h hfails
    have hframe : self.step (.helloExchanged hello) = _ := self.helloExchanged_frame hello
    refine ⟨hiff.mpr h hfails, ?_, ?_, ?_, ?_⟩ <;> rw [hframe]
    intro k
    rfl

theorem undone_register_iff (req : RegisterRequest) (sessionId : Uuid)
    : (self.succeeds (.register deviceId req sessionId) = false →
        Undone self (self.step (.register deviceId req sessionId)))
        ↔
      self.AtomicCall (.register deviceId req sessionId) := by
  have hwrite : ∀ session : SessionInfo,
      session.write (F := F) (.register deviceId req sessionId) = session
        ↔
      session.sessionId = some sessionId := by
    intro session
    cases session
    simp [SessionInfo.write, eq_comm]
  have hiff := self.sessions_of_fails_iff (.register deviceId req sessionId) .authenticated rfl rfl
    (by intro state; cases state <;> decide)
  simp only [hwrite] at hiff
  have hframe : self.step (.register deviceId req sessionId)
      = { self with
          sessions := (self.step (.register deviceId req sessionId)).sessions
          metrics := (self.step (.register deviceId req sessionId)).metrics } := by
    simp only [step, exec, void]
    rcases self.register_spec deviceId req sessionId with
      ⟨-, e, metrics, h⟩ | ⟨session, -, -, metrics, h⟩
    . rw [h]
    . rw [h]
      dsimp only
      rw [changeSessionState_frame]
  constructor
  . intro h
    exact hiff.mp fun hfails => (h hfails).sessions
  . intro h hfails
    have hok : (self.register deviceId req sessionId).1.isOk = false := by
      rw [← hfails]
      simp only [succeeds, exec, void]
      cases (self.register deviceId req sessionId).1 <;> rfl
    refine ⟨hiff.mpr h hfails, ?_, ?_, ?_, ?_⟩
    . rw [hframe]
    . rw [hframe]
    . intro k
      rw [hframe]
    . rw [hframe]
      dsimp only
      congr 1
      exact register_metrics hok

theorem undone_activate_iff
    : (self.succeeds (.activate deviceId) = false → Undone self (self.step (.activate deviceId)))
        ↔
      self.AtomicCall (.activate deviceId) := by
  have hsucceeds : self.succeeds (.activate deviceId) = false
      ↔ self.stateOf? deviceId ≠ some .sceneSynced := by
    rw [succeeds_iff rfl rfl rfl]
    cases self.stateOf? deviceId with
    | none => simp
    | some state => cases state <;> simp [SessionState.canTransitionTo]
  simp only [AtomicCall, or_iff_not_imp_left, ← hsucceeds]
  apply imp_congr_right
  intro hfails
  constructor
  . intro h
    have hdevices := h.connectedDevices
    rw [step_connectedDevices] at hdevices
    exact Finset.insert_eq_self.mp hdevices
  . intro hmem
    have hsame : { self with runtime := self.runtime.registerDeviceConnected deviceId } = self := by
      simp only [RuntimeCore.registerDeviceConnected, Finset.insert_eq_of_mem hmem]
    simp only [succeeds, exec, step, activate, hsame] at hfails ⊢
    exact self.undone_changeSessionState deviceId .active hfails

theorem undone_closeSession_iff (nowNs : Nat)
    : (self.succeeds (.closeSession deviceId nowNs) = false →
        Undone self (self.step (.closeSession deviceId nowNs)))
        ↔
      self.AtomicCall (.closeSession deviceId nowNs) := by
  have hsucceeds : self.succeeds (.closeSession deviceId nowNs) = false
      ↔ ¬ (self.stateOf? deviceId).any (fun state => state.canTransitionTo .closed) = true := by
    rw [succeeds_iff rfl rfl rfl, Bool.not_eq_true]
  simp only [AtomicCall, or_iff_not_imp_left, ← hsucceeds]
  apply imp_congr_right
  intro hfails
  have hframe : self.step (.closeSession deviceId nowNs)
      = { self with
          sessions := (self.step (.closeSession deviceId nowNs)).sessions
          runtime := self.runtime.registerDeviceDisconnected deviceId nowNs
          videoPeers := self.videoPeers.shiftRemove deviceId } :=
    changeSessionState_frame _ deviceId .closed
  have hmappings := self.runtime.mappings_registerDeviceDisconnected_iff deviceId nowNs
  have hpeers : (∀ k, (self.videoPeers.shiftRemove deviceId).get? k = self.videoPeers.get? k)
      ↔ self.videoPeers.get? deviceId = none := by
    simp only [IndexMap.get?_shiftRemove]
    constructor
    . intro h
      simpa using (h deviceId).symm
    . intro h k
      split
      . next hk => rw [hk, h]
      . rfl
  constructor
  . intro h
    refine ⟨?_, ?_, ?_⟩
    . have hdevices := h.connectedDevices
      rw [step_connectedDevices] at hdevices
      exact Finset.erase_eq_self.mp hdevices
    . have hsame := h.mappings
      rw [hframe] at hsame
      exact hmappings.mp hsame
    . have hsame := h.videoPeers
      rw [hframe] at hsame
      exact hpeers.mp hsame
  . rintro ⟨hdevices, hleases, hpeer⟩
    refine ⟨?_, ?_, ?_, ?_, ?_⟩
    . rw [sessions_of_fails rfl rfl hfails]
      intro _ session _
      rfl
    . rw [step_connectedDevices]
      exact Finset.erase_eq_self.mpr hdevices
    . rw [hframe]
      exact hmappings.mpr hleases
    . rw [hframe]
      exact hpeers.mpr hpeer
    . rw [hframe]
      rfl

end Calls

theorem undone_iff_atomicCall (self : ServerState F) {op : ServerOp F} {deviceId : Uuid}
    (hop : op.sessionOf? = some deviceId)
    : (self.succeeds op = false → Undone self (self.step op)) ↔ self.AtomicCall op := by
  cases op with
  | discovered _ deviceName =>
    refine iff_of_true ?_ trivial
    simp only [succeeds, step, exec]
    rcases self.discovered_spec _ deviceName with ⟨-, e, h⟩ | ⟨-, h⟩
    . rw [h]
      exact fun _ => ⟨fun _ => rfl, rfl, rfl, fun _ => rfl, rfl⟩
    . rw [h]
      exact fun hfails => by cases hfails
  | transportConnected =>
    exact iff_of_true (self.undone_changeSessionState _ .transportConnected) trivial
  | authenticate => exact iff_of_true (self.undone_changeSessionState _ .authenticated) trivial
  | sceneSynced => exact iff_of_true (self.undone_changeSessionState _ .sceneSynced) trivial
  | helloExchanged hello => exact self.undone_helloExchanged_iff hello
  | register _ req sessionId => exact self.undone_register_iff _ req sessionId
  | activate => exact self.undone_activate_iff _
  | closeSession _ nowNs => exact self.undone_closeSession_iff _ nowNs
  | _ => cases hop

/--
A device that is active registers again: the call fails, and it changes the session identifier
unless it comes with the old one.
-/
theorem undone_iff_atomicCall_panelHandshake
    : let s := Run.run step (new .default) panelHandshake
      let again (sessionId : Uuid) : ServerOp Floats.rational := .register 7 ⟨none, none⟩ sessionId
      (s.succeeds (again 60) = false ∧ Undone s (s.step (again 60)))
        ∧ (s.succeeds (again 61) = false ∧ ¬ Undone s (s.step (again 61))) := by
  intro s again
  have hsame : s.succeeds (again 60) = false := by decide
  have hother : s.succeeds (again 61) = false := by decide
  refine ⟨⟨hsame, ?_⟩, hother, ?_⟩
  . have hatomic : s.AtomicCall (again 60) := by
      rintro - session hsession
      cases hsession
      exact .inr rfl
    exact (undone_iff_atomicCall s rfl).mpr hatomic hsame
  . intro hundone
    have hatomic := (undone_iff_atomicCall s rfl).mp fun _ => hundone
    have hwritten := hatomic rfl _ rfl
    revert hwritten
    decide

/--
`activate` for a device without a session fails, but the device is connected from then on.
-/
theorem undone_fails
    : let s : ServerState Floats.rational := new .default
      ¬ (s.succeeds (.activate 7) = false → Undone s (s.step (.activate 7))) := by
  intro s h
  have hdevices := (h (by decide)).connectedDevices
  revert hdevices
  decide

end ServerState

end MotionStage
