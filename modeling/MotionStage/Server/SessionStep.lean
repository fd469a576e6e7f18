import MotionStage.Server.Op

/-!
This module says once what the session calls do: which session they write, what they check first,
when they succeed, and what they leave alone.
-/

namespace MotionStage

variable {F : Floats}

namespace SessionInfo

def fresh (deviceId : Uuid) (deviceName : String) : SessionInfo where
  deviceId := deviceId
  deviceName := deviceName
  sessionId := none
  roles := []
  features := []
  advertisedAttributes := []
  state := .discovered

/--
A transition that is not allowed leaves the session as it is.
-/
def advance (next : SessionState) (session : SessionInfo) : SessionInfo :=
  if session.state.canTransitionTo next then { session with state := next } else session

def write : ServerOp F → SessionInfo → SessionInfo
  | .helloExchanged hello, session =>
    { session with
      roles := hello.roles
      features := hello.features
      advertisedAttributes := hello.advertisedAttributes }
  | .register _ _ sessionId, session => { session with sessionId := some sessionId }
  | _, session => session

@[simp]
theorem write_state (op : ServerOp F) (session : SessionInfo)
    : (session.write op).state = session.state := by
  unfold write
  split <;> rfl

theorem advance_state (next : SessionState) (session : SessionInfo)
    : (session.advance next).state
        =
      if session.state.canTransitionTo next then next else session.state := by
  unfold advance
  split <;> rfl

@[simp]
theorem advance_sessionId (next : SessionState) (session : SessionInfo)
    : (session.advance next).sessionId = session.sessionId := by
  unfold advance
  split <;> rfl

end SessionInfo

namespace ServerOp

def nextState? : ServerOp F → Option SessionState
  | .transportConnected _ => some .transportConnected
  | .helloExchanged _ => some .helloExchanged
  | .authenticate _ => some .authenticated
  | .register _ _ _ => some .registered
  | .sceneSynced _ => some .sceneSynced
  | .activate _ => some .active
  | .closeSession _ _ => some .closed
  | _ => none

def sessionAfter (op : ServerOp F) (session : Option SessionInfo) : Option SessionInfo :=
  match op, op.nextState? with
  | .discovered deviceId deviceName, _ => some (.fresh deviceId deviceName)
  | _, some next => session.map fun session => (session.write op).advance next
  | _, none => session

def admittedBy (op : ServerOp F) (session : Option SessionInfo) : Bool :=
  match op.nextState? with
  | some next => session.any fun session => session.state.canTransitionTo next
  | none => true

theorem session_cases {op : ServerOp F} {deviceId : Uuid} (hop : op.sessionOf? = some deviceId)
    : (∃ deviceName, op = .discovered deviceId deviceName)
        ∨
      (∃ next, op.nextState? = some next
        ∧ ∀ session : Option SessionInfo,
          op.sessionAfter session = session.map fun session => (session.write op).advance next) := by
  cases op with
  | discovered _ deviceName => cases hop; exact .inl ⟨deviceName, rfl⟩
  | transportConnected => exact .inr ⟨_, rfl, fun _ => rfl⟩
  | helloExchanged => exact .inr ⟨_, rfl, fun _ => rfl⟩
  | authenticate => exact .inr ⟨_, rfl, fun _ => rfl⟩
  | register => exact .inr ⟨_, rfl, fun _ => rfl⟩
  | sceneSynced => exact .inr ⟨_, rfl, fun _ => rfl⟩
  | activate => exact .inr ⟨_, rfl, fun _ => rfl⟩
  | closeSession => exact .inr ⟨_, rfl, fun _ => rfl⟩
  | _ => cases hop

end ServerOp

namespace ServerState

def acceptsRegister (self : ServerState F) (deviceId : Uuid) (req : RegisterRequest) : Bool :=
  (self.ensureAuth req).isOk
    && (self.sessions.get? deviceId).any fun session =>
      (self.enforceUniqueDeviceName deviceId session.deviceName).isOk
        && !(self.negotiatedFeatures session).isEmpty

def passes (self : ServerState F) : ServerOp F → Bool
  | .discovered deviceId _ => self.sessions.contains deviceId || self.enforceCapacity.isOk
  | .helloExchanged hello => (checkHello hello).isOk
  | .register deviceId req _ => self.acceptsRegister deviceId req
  | _ => true

section Calls

variable (self : ServerState F) (deviceId k : Uuid)

theorem changeSessionState_get? (next : SessionState)
    : (self.changeSessionState deviceId next).2.sessions.get? k
        =
      if deviceId = k then
        (self.sessions.get? k).map fun session => session.advance next
      else
        self.sessions.get? k := by
  unfold changeSessionState
  by_cases hk : deviceId = k
  . subst hk
    simp only [↓reduceIte]
    split
    . next h => simp [h]
    . next session h =>
      split
      . next hno => simp_all [SessionInfo.advance]
      . next hyes => simp_all [SessionInfo.advance]
  . simp only [hk, ↓reduceIte]
    split
    . rfl
    . split
      . rfl
      . exact IndexMap.get?_modify_of_ne _ _ fun h => hk h.symm

theorem changeSessionState_isOk (next : SessionState)
    : (self.changeSessionState deviceId next).1.isOk
        =
      (self.sessions.get? deviceId).any fun session => session.state.canTransitionTo next := by
  unfold changeSessionState
  split
  . next h => simp [h, Except.isOk, Except.toBool]
  . next session h =>
    split
    . next hno => simp_all [Except.isOk, Except.toBool]
    . next hyes => simp_all [Except.isOk, Except.toBool]

theorem changeSessionState_frame (next : SessionState)
    : (self.changeSessionState deviceId next).2
        =
      { self with sessions := (self.changeSessionState deviceId next).2.sessions } := by
  unfold changeSessionState
  split
  . rfl
  . split <;> rfl

theorem discovered_spec (deviceName : String)
    : (self.passes (.discovered deviceId deviceName) = false
        ∧ ∃ e, self.discovered deviceId deviceName = (.error e, self))
        ∨
      (self.passes (.discovered deviceId deviceName) = true
        ∧ self.discovered deviceId deviceName
            =
          (.ok (),
            { self with
              sessions := self.sessions.insert deviceId (.fresh deviceId deviceName) })) := by
  simp only [discovered, passes]
  cases hknown : self.sessions.contains deviceId with
  | true => exact .inr ⟨rfl, rfl⟩
  | false =>
    cases hcapacity : self.enforceCapacity with
    | error e => exact .inl ⟨rfl, e, rfl⟩
    | ok _ => exact .inr ⟨rfl, rfl⟩

theorem helloExchanged_get? (hello : ClientHello)
    : (self.helloExchanged hello).2.sessions.get? k
        =
      if hello.deviceId = k ∧ (checkHello hello).isOk = true then
        (self.sessions.get? k).map fun session =>
          (session.write (F := F) (.helloExchanged hello)).advance .helloExchanged
      else
        self.sessions.get? k := by
  unfold helloExchanged
  split
  . next e h => simp [h, Except.isOk, Except.toBool]
  . next h =>
    simp only [h, Except.isOk, Except.toBool, and_true]
    split
    . next hnone =>
      split
      . next hk => subst hk; simp [hnone]
      . rfl
    . rw [changeSessionState_get?]
      split
      . next hk => subst hk; simp [SessionInfo.write, Function.comp_def]
      . next hk => exact IndexMap.get?_modify_of_ne _ _ fun h => hk h.symm

theorem helloExchanged_isOk (hello : ClientHello)
    : (self.helloExchanged hello).1.isOk
        =
      ((checkHello hello).isOk
        && (self.sessions.get? hello.deviceId).any fun session =>
          session.state.canTransitionTo .helloExchanged) := by
  unfold helloExchanged
  split
  . next e h => simp [h, Except.isOk, Except.toBool]
  . next h =>
    split
    . next hnone => simp [hnone, Except.isOk, Except.toBool]
    . next hsome =>
      rw [changeSessionState_isOk]
      simp [h, hsome, Except.isOk, Except.toBool]

theorem helloExchanged_frame (hello : ClientHello)
    : (self.helloExchanged hello).2
        =
      { self with sessions := (self.helloExchanged hello).2.sessions } := by
  unfold helloExchanged
  split
  . rfl
  . split
    . rfl
    . dsimp only
      rw [changeSessionState_frame]

theorem register_spec (req : RegisterRequest) (sessionId : Uuid)
    : (self.acceptsRegister deviceId req = false
        ∧ ∃ e metrics, self.register deviceId req sessionId
            =
          (.error e, { self with metrics := metrics }))
        ∨
      (∃ session, self.acceptsRegister deviceId req = true
        ∧ self.sessions.get? deviceId = some session
        ∧ ∃ metrics,
          let changed :=
            { self with
              sessions := self.sessions.modify deviceId fun session =>
                { session with sessionId := some sessionId } }.changeSessionState deviceId .registered
          self.register deviceId req sessionId
            =
          (changed.1.map fun _ => ⟨sessionId, self.negotiatedFeatures session⟩,
            { changed.2 with metrics := metrics })) := by
  unfold register
  split
  . next hauth =>
    exact .inl ⟨by simp [acceptsRegister, hauth, Except.isOk, Except.toBool], _, _, rfl⟩
  . next hauth =>
    split
    . next hnone => exact .inl ⟨by simp [acceptsRegister, hnone], _, _, rfl⟩
    . next session hsession =>
      split
      . next hname =>
        refine .inl ⟨?_, _, _, rfl⟩
        simp [acceptsRegister, hsession, hname, Except.isOk, Except.toBool]
      . next hname =>
        dsimp only
        split
        . next hempty =>
          refine .inl ⟨?_, _, _, rfl⟩
          simp only [acceptsRegister, hsession, Option.any_some, hempty, Bool.not_true,
            Bool.and_false]
        . next hfeatures =>
          simp only [Bool.not_eq_true] at hfeatures
          refine .inr ⟨session, ?_, hsession, ?_⟩
          . simp [acceptsRegister, hauth, hsession, hname, hfeatures, Except.isOk, Except.toBool]
          . split
            . next h => exact ⟨_, by rw [h]; rfl⟩
            . next h => exact ⟨_, by rw [h]; rfl⟩

theorem register_get? (req : RegisterRequest) (sessionId : Uuid)
    : (self.register deviceId req sessionId).2.sessions.get? k
        =
      if deviceId = k ∧ self.acceptsRegister deviceId req = true then
        (self.sessions.get? k).map fun session =>
          (session.write (F := F) (.register deviceId req sessionId)).advance .registered
      else
        self.sessions.get? k := by
  rcases self.register_spec deviceId req sessionId with
    ⟨hno, e, metrics, h⟩ | ⟨session, hyes, hsession, metrics, h⟩
  . simp [h, hno]
  . simp only [h, hyes, and_true]
    rw [changeSessionState_get?]
    split
    . next hk => subst hk; simp [SessionInfo.write, Function.comp_def]
    . next hk => exact IndexMap.get?_modify_of_ne _ _ fun h => hk h.symm

theorem register_isOk (req : RegisterRequest) (sessionId : Uuid)
    : (self.register deviceId req sessionId).1.isOk
        =
      (self.acceptsRegister deviceId req
        && (self.sessions.get? deviceId).any fun session =>
          session.state.canTransitionTo .registered) := by
  rcases self.register_spec deviceId req sessionId with
    ⟨hno, e, metrics, h⟩ | ⟨session, hyes, hsession, metrics, h⟩
  . simp [h, hno, Except.isOk, Except.toBool]
  . have hchange := changeSessionState_isOk
      { self with
        sessions := self.sessions.modify deviceId fun session =>
          { session with sessionId := some sessionId } } deviceId .registered
    rw [h, hyes]
    simp only [IndexMap.get?_modify_self, hsession, Option.map_some, Option.any_some,
      Bool.true_and] at hchange ⊢
    rw [← hchange]
    cases (changeSessionState _ deviceId .registered).1 <;> rfl

end Calls

theorem get?_step (self : ServerState F) (op : ServerOp F) (k : Uuid)
    : (self.step op).sessions.get? k
        =
      if op.sessionOf? = some k ∧ self.passes op = true then
        op.sessionAfter (self.sessions.get? k)
      else
        self.sessions.get? k := by
  cases op with
  | discovered deviceId deviceName =>
    simp only [ServerOp.sessionOf?, ServerOp.sessionAfter, Option.some.injEq, step, exec]
    rcases self.discovered_spec deviceId deviceName with ⟨hno, e, h⟩ | ⟨hyes, h⟩
    . simp [h, hno]
    . simp [h, hyes, IndexMap.get?_insert, eq_comm]
  | transportConnected deviceId =>
    simp only [step, exec, transportConnected, changeSessionState_get?]
    simp [ServerOp.sessionOf?, ServerOp.sessionAfter, ServerOp.nextState?, SessionInfo.write, passes]
  | helloExchanged hello =>
    simp only [step, exec, helloExchanged_get?]
    simp [ServerOp.sessionOf?, ServerOp.sessionAfter, ServerOp.nextState?, passes]
  | authenticate deviceId =>
    simp only [step, exec, authenticate, changeSessionState_get?]
    simp [ServerOp.sessionOf?, ServerOp.sessionAfter, ServerOp.nextState?, SessionInfo.write, passes]
  | register deviceId req sessionId =>
    simp only [step, exec, void, register_get?]
    simp [ServerOp.sessionOf?, ServerOp.sessionAfter, ServerOp.nextState?, passes]
  | sceneSynced deviceId =>
    simp only [step, exec, sceneSynced, changeSessionState_get?]
    simp [ServerOp.sessionOf?, ServerOp.sessionAfter, ServerOp.nextState?, SessionInfo.write, passes]
  | activate deviceId =>
    simp only [step, exec, activate, changeSessionState_get?]
    simp [ServerOp.sessionOf?, ServerOp.sessionAfter, ServerOp.nextState?, SessionInfo.write, passes]
  | closeSession deviceId nowNs =>
    simp only [step, exec, closeSession, changeSessionState_get?]
    simp [ServerOp.sessionOf?, ServerOp.sessionAfter, ServerOp.nextState?, SessionInfo.write, passes]
  -- the other calls have no session, their effect says so
  | _ =>
    rw [(effect_step rfl).sessions]
    simp [ServerOp.sessionOf?]

theorem get?_step_of_ne {self : ServerState F} {op : ServerOp F} {k : Uuid}
    (h : op.sessionOf? ≠ some k)
    : (self.step op).sessions.get? k = self.sessions.get? k := by
  rw [get?_step]
  simp [h]

theorem succeeds_eq {self : ServerState F} {op : ServerOp F} {k : Uuid}
    (hop : op.sessionOf? = some k)
    : self.succeeds op = (self.passes op && op.admittedBy (self.sessions.get? k)) := by
  cases op with
  | discovered deviceId deviceName =>
    simp only [succeeds, exec, ServerOp.admittedBy, ServerOp.nextState?, Bool.and_true]
    rcases self.discovered_spec deviceId deviceName with ⟨hno, e, h⟩ | ⟨hyes, h⟩
    . simp [h, hno, Except.isOk, Except.toBool]
    . simp [h, hyes, Except.isOk, Except.toBool]
  | transportConnected deviceId =>
    cases hop
    simp only [succeeds, exec, transportConnected, changeSessionState_isOk]
    simp [ServerOp.admittedBy, ServerOp.nextState?, passes]
  | helloExchanged hello =>
    cases hop
    simp only [succeeds, exec, helloExchanged_isOk]
    simp [ServerOp.admittedBy, ServerOp.nextState?, passes]
  | authenticate deviceId =>
    cases hop
    simp only [succeeds, exec, authenticate, changeSessionState_isOk]
    simp [ServerOp.admittedBy, ServerOp.nextState?, passes]
  | register deviceId req sessionId =>
    cases hop
    have hvoid : (void (self.register k req sessionId)).1.isOk
        = (self.register k req sessionId).1.isOk := by
      simp only [void]
      cases (self.register k req sessionId).1 <;> rfl
    simp only [succeeds, exec, hvoid, register_isOk]
    simp [ServerOp.admittedBy, ServerOp.nextState?, passes]
  | sceneSynced deviceId =>
    cases hop
    simp only [succeeds, exec, sceneSynced, changeSessionState_isOk]
    simp [ServerOp.admittedBy, ServerOp.nextState?, passes]
  | activate deviceId =>
    cases hop
    simp only [succeeds, exec, activate, changeSessionState_isOk]
    simp [ServerOp.admittedBy, ServerOp.nextState?, passes]
  | closeSession deviceId nowNs =>
    cases hop
    simp only [succeeds, exec, closeSession, changeSessionState_isOk]
    simp [ServerOp.admittedBy, ServerOp.nextState?, passes]
  | _ => cases hop

def stateOf? (self : ServerState F) (deviceId : Uuid) : Option SessionState :=
  (self.sessions.get? deviceId).map SessionInfo.state

theorem stateOf?_step_of_ne {self : ServerState F} {op : ServerOp F} {k : Uuid}
    (h : op.sessionOf? ≠ some k)
    : (self.step op).stateOf? k = self.stateOf? k := by
  simp [stateOf?, get?_step_of_ne h]

theorem succeeds_of_canTransitionTo {self : ServerState F} {op : ServerOp F} {k : Uuid}
    {state next : SessionState} (hop : op.sessionOf? = some k) (hnext : op.nextState? = some next)
    (hpasses : self.passes op = true) (hstate : self.stateOf? k = some state)
    (hcan : state.canTransitionTo next = true)
    : self.succeeds op = true ∧ (self.step op).stateOf? k = some next := by
  obtain ⟨session, hsession, rfl⟩ := Option.map_eq_some_iff.mp hstate
  constructor
  . rw [succeeds_eq hop, hpasses]
    simp [ServerOp.admittedBy, hnext, hsession, hcan]
  . rcases ServerOp.session_cases hop with ⟨deviceName, rfl⟩ | ⟨next', hnext', hafter⟩
    . cases hnext
    . rw [hnext, Option.some.injEq] at hnext'
      subst hnext'
      rw [stateOf?, get?_step, if_pos ⟨hop, hpasses⟩, hafter, hsession]
      simp [SessionInfo.advance_state, hcan]

theorem register_of_authenticated {self : ServerState F} {deviceId : Uuid} (req : RegisterRequest)
    (sessionId : Uuid) (hstate : self.stateOf? deviceId = some .authenticated)
    : ((self.register deviceId req sessionId).1.isOk = true
        ∧ (self.register deviceId req sessionId).2.stateOf? deviceId = some .registered)
        ∨
      ((self.register deviceId req sessionId).1.isOk = false
        ∧ self.acceptsRegister deviceId req = false
        ∧ (self.register deviceId req sessionId).2.stateOf? deviceId = some .authenticated) := by
  obtain ⟨session, hsession, hsame⟩ := Option.map_eq_some_iff.mp hstate
  have hcan : session.state.canTransitionTo .registered = true := by rw [hsame]; rfl
  rw [register_isOk, hsession]
  simp only [stateOf?, register_get?, hsession, true_and]
  cases self.acceptsRegister deviceId req with
  | true => exact .inl ⟨by simpa using hcan, by simp [SessionInfo.advance_state, hcan]⟩
  | false => exact .inr ⟨rfl, rfl, by simp [hsame]⟩

theorem handshake_frame (self : ServerState F) {op : ServerOp F} (hop : op.sessionOf? ≠ none)
    (hclose : ∀ deviceId nowNs, op ≠ .closeSession deviceId nowNs)
    : self.step op
        =
      { self with
        runtime := Run.run RuntimeCore.step self.runtime (self.runtimeOps op)
        sessions := (self.step op).sessions
        metrics := (self.step op).metrics } := by
  cases op with
  | discovered deviceId deviceName =>
    simp only [step, exec]
    rcases self.discovered_spec deviceId deviceName with ⟨-, e, h⟩ | ⟨-, h⟩
    . rw [h]; rfl
    . rw [h]; rfl
  | helloExchanged hello =>
    simp only [step, exec]
    rw [helloExchanged_frame]
    rfl
  | register deviceId req sessionId =>
    simp only [step, exec, void]
    rcases self.register_spec deviceId req sessionId with
      ⟨-, e, metrics, h⟩ | ⟨session, -, -, metrics, h⟩
    . rw [h]; rfl
    . rw [h]
      dsimp only
      rw [changeSessionState_frame]
      rfl
  | transportConnected deviceId | authenticate deviceId | sceneSynced deviceId
  | activate deviceId =>
    simp only [step, exec, transportConnected, authenticate, sceneSynced, activate]
    rw [changeSessionState_frame]
    rfl
  | closeSession deviceId nowNs => exact absurd rfl (hclose deviceId nowNs)
  | _ => exact absurd rfl hop

theorem step_frame (self : ServerState F) (op : ServerOp F)
    : (self.step op).config = self.config
        ∧ (self.step op).runtime = Run.run RuntimeCore.step self.runtime (self.runtimeOps op)
        ∧ (self.step op).heldFrames = self.heldAfter op := by
  by_cases hop : op.sessionOf? = none
  . have heffect : Effect self _ _ _ := effect_step hop
    exact ⟨heffect.config, heffect.runtime, heffect.frames⟩
  . have hheld : self.heldAfter op = self.heldFrames := by
      apply heldAfter_eq_heldFrames
      . cases op <;> first | rfl | exact absurd rfl hop
      . intro path nowNs id h
        subst h
        exact hop rfl
      . intro nowNs written h
        subst h
        exact hop rfl
    rw [hheld]
    by_cases hclose : ∀ deviceId nowNs, op ≠ .closeSession deviceId nowNs
    . rw [handshake_frame self hop hclose]
      exact ⟨rfl, rfl, rfl⟩
    . simp only [ne_eq, not_forall, not_not] at hclose
      obtain ⟨deviceId, nowNs, rfl⟩ := hclose
      simp only [step, exec, closeSession]
      rw [changeSessionState_frame]
      exact ⟨rfl, rfl, rfl⟩

def devicesAfter (self : ServerState F) : ServerOp F → Finset Uuid
  | .activate deviceId => insert deviceId self.runtime.connectedDevices
  | .closeSession deviceId _ => self.runtime.connectedDevices.erase deviceId
  | _ => self.runtime.connectedDevices

theorem step_connectedDevices (self : ServerState F) (op : ServerOp F)
    : (self.step op).runtime.connectedDevices = self.devicesAfter op := by
  rw [(self.step_frame op).2.1]
  cases op with
  | resetSceneToBaseline sceneId | commitSceneBaseline sceneId =>
    cases h : self.resolveSceneForBaseline sceneId <;>
      simp [runtimeOps, devicesAfter, h, Except.toOption, RuntimeCore.step_connectedDevices,
        RuntimeCore.devicesAfter]
  | commitObjectBaseline sceneId objectId =>
    cases h : self.resolveSceneForBaseline sceneId <;>
      simp [runtimeOps, devicesAfter, h, Except.toOption, RuntimeCore.step_connectedDevices,
        RuntimeCore.devicesAfter]
  | startRecording path nowNs recordingId =>
    simp only [runtimeOps]
    split <;>
      simp [devicesAfter, RuntimeCore.step_connectedDevices, RuntimeCore.devicesAfter]
  | stopRecording nowNs written =>
    simp only [runtimeOps]
    split <;>
      simp [devicesAfter, RuntimeCore.step_connectedDevices, RuntimeCore.devicesAfter]
  | schedulerTick nowNs =>
    simp only [runtimeOps]
    split <;>
      simp [devicesAfter, RuntimeCore.step_connectedDevices, RuntimeCore.devicesAfter]
  | _ =>
    simp [runtimeOps, devicesAfter, RuntimeCore.step_connectedDevices, RuntimeCore.devicesAfter]

theorem mem_connectedDevices_step_of_ne {self : ServerState F} {op : ServerOp F} {k : Uuid}
    (h : op.sessionOf? ≠ some k)
    : k ∈ (self.step op).runtime.connectedDevices ↔ k ∈ self.runtime.connectedDevices := by
  rw [step_connectedDevices]
  cases op with
  | activate deviceId =>
    have hne : k ≠ deviceId := fun heq => h (congrArg some heq.symm)
    simp [devicesAfter, hne]
  | closeSession deviceId nowNs =>
    have hne : k ≠ deviceId := fun heq => h (congrArg some heq.symm)
    simp [devicesAfter, hne]
  | _ => rfl

theorem stateOf?_step_of_succeeds {self : ServerState F} {op : ServerOp F} {k : Uuid}
    {next : SessionState} (hop : op.sessionOf? = some k) (hnext : op.nextState? = some next)
    (hok : self.succeeds op = true)
    : (self.step op).stateOf? k = some next := by
  rw [succeeds_eq hop, Bool.and_eq_true] at hok
  obtain ⟨hpasses, hadmitted⟩ := hok
  simp only [ServerOp.admittedBy, hnext, Option.any_eq_true] at hadmitted
  obtain ⟨session, hsession, hcan⟩ := hadmitted
  have hstate : self.stateOf? k = some session.state := by simp [stateOf?, hsession]
  exact (succeeds_of_canTransitionTo hop hnext hpasses hstate hcan).2

def sessionIdOf? (self : ServerState F) (deviceId : Uuid) : Option Uuid :=
  (self.sessions.get? deviceId).bind SessionInfo.sessionId

theorem sessionIdOf?_step {self : ServerState F} {op : ServerOp F} {k : Uuid}
    (hdiscovered : ∀ deviceName, op ≠ .discovered k deviceName)
    (hregister : ∀ req sessionId, op = .register k req sessionId →
      self.acceptsRegister k req = false)
    : (self.step op).sessionIdOf? k = self.sessionIdOf? k := by
  unfold sessionIdOf?
  rw [get?_step]
  split
  . next hcall =>
    rcases ServerOp.session_cases hcall.1 with ⟨deviceName, rfl⟩ | ⟨next, hnext, hafter⟩
    . exact absurd rfl (hdiscovered deviceName)
    . rw [hafter]
      cases self.sessions.get? k with
      | none => rfl
      | some session =>
        cases op with
        | register _ req sessionId =>
          cases hcall.1
          have hpasses : self.acceptsRegister k req = true := hcall.2
          simp [hregister req sessionId rfl] at hpasses
        | _ => simp [SessionInfo.write]
  . rfl

theorem register_ok {self : ServerState F} {deviceId sessionId : Uuid} {req : RegisterRequest}
    {accepted : RegisterAccepted} (h : (self.register deviceId req sessionId).1 = .ok accepted)
    : (self.register deviceId req sessionId).2.sessionIdOf? deviceId = some accepted.sessionId := by
  rcases self.register_spec deviceId req sessionId with
    ⟨-, e, metrics, hspec⟩ | ⟨session, hyes, hsession, metrics, hspec⟩
  . rw [hspec] at h
    cases h
  . have hid : accepted.sessionId = sessionId := by
      rw [hspec] at h
      simp only [Except.map] at h
      split at h
      . cases h
      . cases h
        rfl
    rw [sessionIdOf?, register_get?, if_pos ⟨rfl, hyes⟩, hsession, hid]
    simp [SessionInfo.write]

theorem stateOf?_step_of_active {self : ServerState F} {op : ServerOp F} {k : Uuid}
    (hactive : self.stateOf? k = some .active)
    (hdiscovered : ∀ deviceName, op ≠ .discovered k deviceName)
    (hclose : ∀ nowNs, op ≠ .closeSession k nowNs)
    : (self.step op).stateOf? k = some .active := by
  rw [← hactive]
  unfold stateOf?
  rw [get?_step]
  split
  . next hcall =>
    rcases ServerOp.session_cases hcall.1 with ⟨deviceName, rfl⟩ | ⟨next, hnext, hafter⟩
    . exact absurd rfl (hdiscovered deviceName)
    . obtain ⟨session, hsession, hstate⟩ := Option.map_eq_some_iff.mp hactive
      have hcan : session.state.canTransitionTo next = false := by
        rw [hstate]
        cases op with
        | closeSession _ nowNs => cases hcall.1; exact absurd rfl (hclose nowNs)
        | _ => cases hnext <;> rfl
      rw [hafter, hsession]
      simp [SessionInfo.advance_state, hcan]
  . rfl

theorem mem_connectedDevices_step {self : ServerState F} {op : ServerOp F} {k : Uuid}
    (h : k ∈ self.runtime.connectedDevices) (hclose : ∀ nowNs, op ≠ .closeSession k nowNs)
    : k ∈ (self.step op).runtime.connectedDevices := by
  rw [step_connectedDevices]
  cases op with
  | activate deviceId => exact Finset.mem_insert_of_mem h
  | closeSession deviceId nowNs =>
    refine Finset.mem_erase.mpr ⟨?_, h⟩
    rintro rfl
    exact hclose nowNs rfl
  | _ => exact h

def panelHello (deviceId : Uuid) (deviceName : String) : ClientHello where
  protocolMajor := 1
  protocolMinor := 3
  deviceId := deviceId
  deviceName := deviceName
  roles := [.motionSource]
  features := [.motion]
  advertisedAttributes := ["button"]

end ServerState

end MotionStage
