import MotionStage.Server.SessionStep

/-!
This module contains the names under which devices are registered: which devices are listed, and
when the check of `register` keeps their names apart.
-/

namespace MotionStage

variable {F : Floats}

theorem SessionState.canTransitionTo_closed (next : SessionState)
    : closed.canTransitionTo next = false := by
  cases next <;> rfl

namespace SessionInfo

theorem write_deviceName (op : ServerOp F) (session : SessionInfo)
    : (session.write op).deviceName = session.deviceName
        ∧ (session.write op).deviceId = session.deviceId := by
  unfold write
  split <;> exact ⟨rfl, rfl⟩

theorem advance_deviceName (next : SessionState) (session : SessionInfo)
    : (session.advance next).deviceName = session.deviceName
        ∧ (session.advance next).deviceId = session.deviceId := by
  unfold advance
  split <;> exact ⟨rfl, rfl⟩

theorem advance_ne_closed {next : SessionState} {session : SessionInfo}
    (h : (session.advance next).state ≠ .closed)
    : session.state ≠ .closed := by
  intro hclosed
  rw [advance_state, hclosed, SessionState.canTransitionTo_closed] at h
  exact h rfl

end SessionInfo

namespace ServerState

/--
The device has been registered under the name: its session is not closed and has an identifier.
-/
def Listed (self : ServerState F) (deviceId : Uuid) (deviceName : String) : Prop :=
  ∃ session, self.sessions.get? deviceId = some session ∧ session.state ≠ .closed
    ∧ session.sessionId.isSome = true ∧ session.deviceName = deviceName

structure NamesApart (s : ServerState F) : Prop where
  unique : ∀ d₁ d₂ n₁ n₂, s.Listed d₁ n₁ → s.Listed d₂ n₂ → Text.trim n₁ = Text.trim n₂ → d₁ = d₂
  nonempty : ∀ d n, s.Listed d n → Text.trim n ≠ ""

/--
A device that registers does not meet a listed name that is equal to its own name once both are
trimmed, and that was not trimmed itself.
-/
def RegistersApart (self : ServerState F) : ServerOp F → Prop
  | .register deviceId req _ =>
    self.acceptsRegister deviceId req = true
      → ∀ session, self.sessions.get? deviceId = some session → session.state ≠ .closed
      → ∀ other name, other ≠ deviceId → self.Listed other name
      → Text.trim name = Text.trim session.deviceName → name = Text.trim name
  | _ => True

def Keyed (self : ServerState F) : Prop :=
  ∀ deviceId session, self.sessions.get? deviceId = some session → session.deviceId = deviceId

theorem keyed_step {self : ServerState F} (h : self.Keyed) (op : ServerOp F)
    : (self.step op).Keyed := by
  intro k session hsession
  rw [get?_step] at hsession
  split at hsession
  . next hcall =>
    rcases ServerOp.session_cases hcall.1 with ⟨deviceName, rfl⟩ | ⟨next, hnext, hafter⟩
    . cases hsession
      rfl
    . rw [hafter, Option.map_eq_some_iff] at hsession
      obtain ⟨before, hbefore, rfl⟩ := hsession
      rw [(SessionInfo.advance_deviceName _ _).2, (SessionInfo.write_deviceName _ _).2]
      exact h k before hbefore
  . exact h k session hsession

theorem enforceUniqueDeviceName_isOk_iff {self : ServerState F} (h : self.Keyed)
    {deviceId : Uuid} {deviceName : String}
    : (self.enforceUniqueDeviceName deviceId deviceName).isOk = true
        ↔
      Text.trim deviceName ≠ ""
        ∧ ∀ other, other ≠ deviceId → ¬ self.Listed other (Text.trim deviceName) := by
  unfold enforceUniqueDeviceName
  dsimp only
  split
  . next hempty =>
    simp only [String.isEmpty_iff] at hempty
    simp [hempty, Except.isOk, Except.toBool]
  . next hempty =>
    simp only [String.isEmpty_iff] at hempty
    simp only [ne_eq, hempty, not_false_eq_true, true_and]
    split
    . next hany =>
      simp only [Except.isOk, Except.toBool, Bool.false_eq_true, false_iff, not_forall, not_not]
      obtain ⟨session, hmem, hsession⟩ := List.any_eq_true.mp hany
      simp only [Bool.and_eq_true, decide_eq_true_eq, beq_iff_eq] at hsession
      obtain ⟨⟨⟨hne, hstate⟩, hid⟩, hname⟩ := hsession
      obtain ⟨k, hk⟩ := IndexMap.mem_values.mp hmem
      refine ⟨k, ?_, session, hk, hstate, hid, hname⟩
      rw [← h k session hk]
      exact hne
    . next hany =>
      simp only [Except.isOk, Except.toBool, true_iff]
      rintro other hne ⟨session, hk, hstate, hid, hname⟩
      apply hany
      refine List.any_eq_true.mpr ⟨session, IndexMap.mem_values.mpr ⟨other, hk⟩, ?_⟩
      simp [h other session hk, hne, hstate, hid, hname]

theorem acceptsRegister_name {self : ServerState F} {deviceId : Uuid} {req : RegisterRequest}
    {session : SessionInfo} (h : self.acceptsRegister deviceId req = true)
    (hsession : self.sessions.get? deviceId = some session)
    : (self.enforceUniqueDeviceName deviceId session.deviceName).isOk = true := by
  simp only [acceptsRegister, hsession, Option.any_some, Bool.and_eq_true] at h
  exact h.2.1

theorem listed_step {self : ServerState F} {op : ServerOp F} {k : Uuid} {name : String}
    (h : (self.step op).Listed k name)
    : self.Listed k name
        ∨ ∃ req sessionId session, op = .register k req sessionId
            ∧ self.acceptsRegister k req = true ∧ self.sessions.get? k = some session
            ∧ session.state ≠ .closed ∧ session.deviceName = name := by
  obtain ⟨after, hafter, hstate, hid, hname⟩ := h
  rw [get?_step] at hafter
  split at hafter
  . next hcall =>
    rcases ServerOp.session_cases hcall.1 with ⟨deviceName, rfl⟩ | ⟨next, -, hwrite⟩
    . cases hafter
      cases hid
    . rw [hwrite, Option.map_eq_some_iff] at hafter
      obtain ⟨session, hsession, rfl⟩ := hafter
      have hopen : session.state ≠ .closed := by
        simpa using SessionInfo.advance_ne_closed hstate
      rw [(SessionInfo.advance_deviceName _ _).1, (SessionInfo.write_deviceName _ _).1] at hname
      rw [SessionInfo.advance_sessionId] at hid
      cases op with
      | register deviceId req sessionId =>
        cases hcall.1
        exact .inr ⟨req, sessionId, session, rfl, hcall.2, hsession, hopen, hname⟩
      | _ => exact .inl ⟨session, hsession, hopen, hid, hname⟩
  . exact .inl ⟨after, hafter, hstate, hid, hname⟩

theorem listed_register {self : ServerState F} {deviceId : Uuid} {req : RegisterRequest}
    {sessionId : Uuid} {session : SessionInfo} (hpasses : self.acceptsRegister deviceId req = true)
    (hsession : self.sessions.get? deviceId = some session) (hopen : session.state ≠ .closed)
    : (self.step (.register deviceId req sessionId)).Listed deviceId session.deviceName := by
  refine ⟨(session.write (F := F) (.register deviceId req sessionId)).advance .registered, ?_, ?_,
    ?_, ?_⟩
  . rw [get?_step, if_pos ⟨rfl, hpasses⟩, hsession]
    rfl
  . rw [SessionInfo.advance_state, SessionInfo.write_state]
    split
    . decide
    . exact hopen
  . rw [SessionInfo.advance_sessionId]
    rfl
  . rw [(SessionInfo.advance_deviceName _ _).1, (SessionInfo.write_deviceName _ _).1]

theorem listed_step_of_ne {self : ServerState F} {op : ServerOp F} {k : Uuid} {name : String}
    (h : op.sessionOf? ≠ some k)
    : (self.step op).Listed k name ↔ self.Listed k name := by
  unfold Listed
  rw [get?_step_of_ne h]

theorem namesApart_step_iff {self : ServerState F} (hkeyed : self.Keyed) (h : self.NamesApart)
    (op : ServerOp F)
    : (self.step op).NamesApart ↔ self.RegistersApart op := by
  constructor
  . intro hnext
    cases op with
    | register deviceId req sessionId =>
      intro hpasses session hsession hopen other name hne hother hsame
      -- the two would be listed together after the call
      have hsame' := hnext.unique other deviceId name session.deviceName
        ((listed_step_of_ne (by simpa [ServerOp.sessionOf?] using Ne.symm hne)).mpr hother)
        (listed_register hpasses hsession hopen) hsame
      exact absurd hsame' hne
    | _ => trivial
  . intro hapart
    -- a name that has just been listed is not the name of another listed device
    have hnew : ∀ d n other name, ¬ self.Listed d n → (self.step op).Listed d n →
        self.Listed other name → other ≠ d → Text.trim name ≠ Text.trim n := by
      intro d n other name hnot hd hother hne hsame
      obtain ⟨req, sessionId, session, rfl, hpasses, hsession, hopen, rfl⟩ :=
        (listed_step hd).resolve_left hnot
      obtain ⟨-, hfree⟩ := (enforceUniqueDeviceName_isOk_iff hkeyed).mp
        (acceptsRegister_name hpasses hsession)
      have htrimmed := hapart hpasses session hsession hopen other name hne hother hsame
      apply hfree other hne
      rw [← hsame, ← htrimmed]
      exact hother
    constructor
    . intro d₁ d₂ n₁ n₂ h₁ h₂ hsame
      by_contra hne
      by_cases hold₁ : self.Listed d₁ n₁
      . by_cases hold₂ : self.Listed d₂ n₂
        . exact hne (h.unique d₁ d₂ n₁ n₂ hold₁ hold₂ hsame)
        . exact hnew d₂ n₂ d₁ n₁ hold₂ h₂ hold₁ hne hsame
      . obtain ⟨req, sessionId, session, rfl, -⟩ := (listed_step h₁).resolve_left hold₁
        -- a call registers one device, so the other one was listed before
        have hold₂ : self.Listed d₂ n₂ :=
          (listed_step_of_ne (by simpa [ServerOp.sessionOf?] using hne)).mp h₂
        exact hnew d₁ n₁ d₂ n₂ hold₁ h₁ hold₂ (Ne.symm hne) hsame.symm
    . intro d n hd
      rcases listed_step hd with hold | ⟨req, sessionId, session, rfl, hpasses, hsession, -, rfl⟩
      . exact h.nonempty d n hold
      . exact ((enforceUniqueDeviceName_isOk_iff hkeyed).mp
          (acceptsRegister_name hpasses hsession)).1

theorem namesApart_run_iff (config : ServerConfig) (ops : List (ServerOp F))
    : Run.AllStates step NamesApart (new config) ops
        ↔
      Run.AllSteps step RegistersApart (new config) ops := by
  apply Run.allStates_iff_allSteps_of_invariant (I := Keyed)
  . intro s op hkeyed
    exact keyed_step hkeyed op
  . intro s op hkeyed h
    exact namesApart_step_iff hkeyed h op
  . intro deviceId session h
    cases h
  . constructor
    . rintro d₁ d₂ n₁ n₂ ⟨session, h, -⟩
      cases h
    . rintro d n ⟨session, h, -⟩
      cases h

def registration (deviceId : Uuid) (deviceName : String) (sessionId : Uuid)
    : List (ServerOp Floats.rational) :=
  [.discovered deviceId deviceName, .transportConnected deviceId,
    .helloExchanged (panelHello deviceId deviceName), .authenticate deviceId,
    .register deviceId ⟨none, none⟩ sessionId]

/--
The stored name is not trimmed, so the trimmed name of the second device is not found in it.
-/
theorem namesApart_fails
    : ¬ (Run.run step (new .default)
          (registration 7 " cam" 70 ++ registration 8 "cam" 80)).NamesApart := by
  intro h
  have hsame := h.unique 7 8 " cam" "cam"
    ⟨_, rfl, by decide, by decide, by decide⟩ ⟨_, rfl, by decide, by decide, by decide⟩ (by decide)
  exact absurd hsame (by decide)

end ServerState

end MotionStage
