import MotionStage.Server.Admission

/-!
This module contains who is there. The sessions of the server and the connected devices of the
runtime are two records of it, and the sessions are what the capacity of the server counts.
-/

namespace MotionStage

variable {F : Floats}

namespace ServerState

theorem stateOf?_step_of_nextState? {self : ServerState F} {op : ServerOp F} {k : Uuid}
    {next : SessionState} (hop : op.sessionOf? = some k) (hnext : op.nextState? = some next)
    : (self.step op).stateOf? k
        =
      (self.stateOf? k).map fun state =>
        if self.passes op = true ∧ state.canTransitionTo next = true then next else state := by
  rcases ServerOp.session_cases hop with ⟨deviceName, rfl⟩ | ⟨next', hnext', hafter⟩
  . cases hnext
  . rw [hnext, Option.some.injEq] at hnext'
    subst hnext'
    simp only [stateOf?, get?_step, hop, true_and, hafter]
    cases self.sessions.get? k with
    | none => simp
    | some session =>
      cases hpasses : self.passes op <;> simp [SessionInfo.advance_state]

theorem stateOf?_discovered (self : ServerState F) (deviceId : Uuid) (deviceName : String)
    : (self.step (.discovered deviceId deviceName)).stateOf? deviceId
        =
      if self.passes (.discovered deviceId deviceName) then
        some .discovered
      else
        self.stateOf? deviceId := by
  simp only [stateOf?, get?_step, ServerOp.sessionOf?, true_and]
  split <;> rfl

section Presence

def PresenceAgrees (self : ServerState F) : Prop :=
  ∀ deviceId, deviceId ∈ self.runtime.connectedDevices ↔ self.stateOf? deviceId = some .active

/--
The calls that keep the two records in agreement: a device that is active is not discovered again,
and only a device with a synced scene is activated.
-/
def KeepsPresence (self : ServerState F) : ServerOp F → Prop
  | .discovered deviceId _ => self.stateOf? deviceId ≠ some .active
  | .activate deviceId =>
    self.stateOf? deviceId = some .sceneSynced ∨ self.stateOf? deviceId = some .active
  | _ => True

theorem presenceAgrees_step_iff {self : ServerState F} {op : ServerOp F} {k : Uuid}
    (h : self.PresenceAgrees) (hop : op.sessionOf? = some k)
    : (self.step op).PresenceAgrees
        ↔
      (k ∈ (self.step op).runtime.connectedDevices
        ↔ (self.step op).stateOf? k = some .active) := by
  constructor
  . intro hstep
    exact hstep k
  . intro hk deviceId
    by_cases heq : deviceId = k
    . rw [heq]
      exact hk
    . have hne : op.sessionOf? ≠ some deviceId := by
        rw [hop]
        exact fun hsome => heq (Option.some.inj hsome).symm
      rw [mem_connectedDevices_step_of_ne hne, stateOf?_step_of_ne hne]
      exact h deviceId

theorem presenceAgrees_discovered {self : ServerState F} (h : self.PresenceAgrees)
    (deviceId : Uuid) (deviceName : String)
    : (self.step (.discovered deviceId deviceName)).PresenceAgrees
        ↔
      self.stateOf? deviceId ≠ some .active := by
  rw [presenceAgrees_step_iff h rfl, step_connectedDevices, stateOf?_discovered]
  simp only [devicesAfter, h deviceId]
  by_cases hactive : self.stateOf? deviceId = some .active
  . -- the session exists, so the call passes and starts it over
    obtain ⟨session, hsession, -⟩ := Option.map_eq_some_iff.mp hactive
    have hpasses : self.passes (.discovered deviceId deviceName) = true := by
      simp [passes, IndexMap.contains, hsession]
    simp [hactive, hpasses]
  . split <;> simp [hactive]

theorem presenceAgrees_activate {self : ServerState F} (h : self.PresenceAgrees) (deviceId : Uuid)
    : (self.step (.activate deviceId)).PresenceAgrees
        ↔
      (self.stateOf? deviceId = some .sceneSynced ∨ self.stateOf? deviceId = some .active) := by
  rw [presenceAgrees_step_iff h rfl, step_connectedDevices, stateOf?_step_of_nextState? rfl rfl]
  simp only [devicesAfter, Finset.mem_insert_self, true_iff, passes, true_and]
  cases self.stateOf? deviceId with
  | none => simp
  | some state => cases state <;> simp [SessionState.canTransitionTo]

theorem presenceAgrees_closeSession {self : ServerState F} (h : self.PresenceAgrees)
    (deviceId : Uuid) (nowNs : Nat)
    : (self.step (.closeSession deviceId nowNs)).PresenceAgrees := by
  rw [presenceAgrees_step_iff h rfl, step_connectedDevices, stateOf?_step_of_nextState? rfl rfl]
  simp only [devicesAfter, Finset.notMem_erase, false_iff, passes, true_and]
  cases self.stateOf? deviceId with
  | none => simp
  | some state => cases state <;> simp [SessionState.canTransitionTo]

theorem presenceAgrees_handshake {self : ServerState F} {op : ServerOp F} {k : Uuid}
    {next : SessionState} (h : self.PresenceAgrees) (hop : op.sessionOf? = some k)
    (hnext : op.nextState? = some next) (hactive : next ≠ .active) (hclosed : next ≠ .closed)
    (hdevices : self.devicesAfter op = self.runtime.connectedDevices)
    : (self.step op).PresenceAgrees := by
  rw [presenceAgrees_step_iff h hop, step_connectedDevices, hdevices, h k,
    stateOf?_step_of_nextState? hop hnext]
  cases self.stateOf? k with
  | none => simp
  | some state =>
    simp only [Option.map_some, Option.some.injEq]
    split
    . next hcan =>
      have hstate : state ≠ .active := by
        rintro rfl
        have := hcan.2
        cases next <;> simp_all [SessionState.canTransitionTo]
      simp [hstate, hactive]
    . rfl

theorem presenceAgrees_step {self : ServerState F} {op : ServerOp F} (h : self.PresenceAgrees)
    : (self.step op).PresenceAgrees ↔ self.KeepsPresence op := by
  cases op with
  | discovered deviceId deviceName => exact presenceAgrees_discovered h deviceId deviceName
  | activate deviceId => exact presenceAgrees_activate h deviceId
  | closeSession deviceId nowNs =>
    exact iff_of_true (presenceAgrees_closeSession h deviceId nowNs) trivial
  | transportConnected | helloExchanged | authenticate | register | sceneSynced =>
    refine iff_of_true ?_ trivial
    exact presenceAgrees_handshake h rfl rfl (by decide) (by decide) rfl
  | _ =>
    refine iff_of_true ?_ trivial
    intro k
    rw [mem_connectedDevices_step_of_ne (by simp [ServerOp.sessionOf?]),
      stateOf?_step_of_ne (by simp [ServerOp.sessionOf?])]
    exact h k

theorem presenceAgrees_run_iff (config : ServerConfig) (ops : List (ServerOp F))
    : Run.AllStates step PresenceAgrees (new config) ops
        ↔
      Run.AllSteps step KeepsPresence (new config) ops := by
  apply Run.allStates_iff_allSteps
  . intro s op h
    exact presenceAgrees_step h
  . intro deviceId
    simp [new, RuntimeCore.new, stateOf?]

/--
An active device that is discovered again starts over, but stays connected.
-/
theorem presenceAgrees_fails
    : ¬ (Run.run step (new .default) (panelHandshake ++ [.discovered 7 "panel"])).PresenceAgrees := by
  intro h
  have hactive := (h 7).mp (by decide)
  revert hactive
  decide

end Presence

section Capacity

def openSessions (self : ServerState F) : Nat :=
  self.sessions.values.countP fun session => session.state ≠ .closed

def openDevices (self : ServerState F) : Finset Uuid :=
  self.sessions.keysWhere fun session => session.state ≠ .closed

/--
The calls that respect the capacity: a device whose session is closed is only discovered again when
there is room for it.
-/
def KeepsCapacity (self : ServerState F) : ServerOp F → Prop
  | .discovered deviceId _ =>
    self.stateOf? deviceId = some .closed → self.openSessions < self.config.maxSessions
  | _ => True

theorem card_openDevices (self : ServerState F) : self.openDevices.card = self.openSessions :=
  IndexMap.card_keysWhere _ _

theorem mem_openDevices {self : ServerState F} {deviceId : Uuid}
    : deviceId ∈ self.openDevices ↔ ∃ state, self.stateOf? deviceId = some state ∧ state ≠ .closed := by
  simp [openDevices, IndexMap.mem_keysWhere, stateOf?]

theorem mem_openDevices_step_of_ne {self : ServerState F} {op : ServerOp F} {k : Uuid}
    (h : op.sessionOf? ≠ some k)
    : k ∈ (self.step op).openDevices ↔ k ∈ self.openDevices := by
  simp only [mem_openDevices, stateOf?_step_of_ne h]

theorem not_mem_openDevices_step {self : ServerState F} {op : ServerOp F} {k : Uuid}
    (hdiscovered : ∀ deviceName, op ≠ .discovered k deviceName) (h : k ∉ self.openDevices)
    : k ∉ (self.step op).openDevices := by
  by_cases hop : op.sessionOf? = some k
  . rcases ServerOp.session_cases hop with ⟨deviceName, rfl⟩ | ⟨next, hnext, -⟩
    . exact absurd rfl (hdiscovered deviceName)
    . rw [mem_openDevices] at h ⊢
      rw [stateOf?_step_of_nextState? hop hnext]
      cases hstate : self.stateOf? k with
      | none => simp
      | some state =>
        -- a closed session has no transition left
        have hclosed : state = .closed := by
          by_contra hne
          exact h ⟨state, hstate, hne⟩
        subst hclosed
        simp [SessionState.canTransitionTo]
  . rw [mem_openDevices_step_of_ne hop]
    exact h

theorem openDevices_step_subset {self : ServerState F} {op : ServerOp F}
    (h : ∀ deviceId deviceName, op = .discovered deviceId deviceName →
      deviceId ∈ self.openDevices ∨ self.passes op = false)
    : (self.step op).openDevices ⊆ self.openDevices := by
  intro k hk
  by_contra hnot
  by_cases hop : op.sessionOf? = some k
  . rcases ServerOp.session_cases hop with ⟨deviceName, rfl⟩ | ⟨next, hnext, -⟩
    . rcases h k deviceName rfl with hopen | hpasses
      . exact hnot hopen
      . rw [mem_openDevices, stateOf?_discovered, hpasses] at hk
        exact hnot (mem_openDevices.mpr (by simpa using hk))
    . refine not_mem_openDevices_step ?_ hnot hk
      rintro deviceName rfl
      cases hnext
  . exact hnot ((mem_openDevices_step_of_ne hop).mp hk)

theorem openDevices_discovered {self : ServerState F} {deviceId : Uuid} {deviceName : String}
    (hpasses : self.passes (.discovered deviceId deviceName) = true)
    : (self.step (.discovered deviceId deviceName)).openDevices
        =
      insert deviceId self.openDevices := by
  ext k
  by_cases hk : k = deviceId
  . subst hk
    simp [mem_openDevices, stateOf?_discovered, hpasses]
  . have hne : (ServerOp.discovered (F := F) deviceId deviceName).sessionOf? ≠ some k :=
      fun h => hk (Option.some.inj h).symm
    simp [mem_openDevices_step_of_ne hne, hk]

def WithinCapacity (self : ServerState F) : Prop := self.openSessions ≤ self.config.maxSessions

theorem passes_discovered (self : ServerState F) (deviceId : Uuid) (deviceName : String)
    : self.passes (.discovered deviceId deviceName) = true
        ↔
      self.stateOf? deviceId ≠ none ∨ self.openSessions < self.config.maxSessions := by
  have hcapacity : self.enforceCapacity.isOk = true
      ↔ self.openSessions < self.config.maxSessions := by
    simp only [enforceCapacity, openSessions]
    split
    . next hfull => simpa [Except.isOk, Except.toBool] using hfull
    . next hroom => simpa [Except.isOk, Except.toBool] using hroom
  simp only [passes, Bool.or_eq_true, hcapacity, IndexMap.contains, stateOf?]
  cases self.sessions.get? deviceId <;> simp

theorem withinCapacity_of_subset {self : ServerState F} {op : ServerOp F} (h : self.WithinCapacity)
    (hsub : (self.step op).openDevices ⊆ self.openDevices)
    : (self.step op).WithinCapacity := by
  have hcard := Finset.card_le_card hsub
  rw [card_openDevices, card_openDevices] at hcard
  rw [WithinCapacity, (self.step_frame op).1]
  exact hcard.trans h

theorem withinCapacity_discovered {self : ServerState F} (h : self.WithinCapacity)
    (deviceId : Uuid) (deviceName : String)
    : (self.step (.discovered deviceId deviceName)).WithinCapacity
        ↔
      self.KeepsCapacity (.discovered deviceId deviceName) := by
  have hsub : deviceId ∈ self.openDevices
      ∨ self.passes (.discovered deviceId deviceName) = false →
      (self.step (.discovered deviceId deviceName)).WithinCapacity := by
    intro hsub
    apply withinCapacity_of_subset h
    apply openDevices_step_subset
    rintro _ _ ⟨⟩
    exact hsub
  by_cases hopen : deviceId ∈ self.openDevices
  . refine iff_of_true (hsub (.inl hopen)) ?_
    intro hclosed
    obtain ⟨state, hstate, hne⟩ := mem_openDevices.mp hopen
    rw [hclosed] at hstate
    exact absurd (Option.some.inj hstate).symm hne
  . by_cases hpasses : self.passes (.discovered deviceId deviceName) = true
    . -- one more session is open now
      have hcard := congrArg Finset.card (openDevices_discovered hpasses)
      rw [Finset.card_insert_of_notMem hopen, card_openDevices, card_openDevices] at hcard
      rw [WithinCapacity, hcard, (self.step_frame _).1, Nat.add_one_le_iff]
      constructor
      . intro hroom _
        exact hroom
      . intro hkeeps
        rcases (self.passes_discovered deviceId deviceName).mp hpasses with hsome | hroom
        . apply hkeeps
          obtain ⟨state, hstate⟩ := Option.ne_none_iff_exists'.mp hsome
          by_contra hne
          rw [hstate, Option.some.injEq] at hne
          exact hopen (mem_openDevices.mpr ⟨state, hstate, hne⟩)
        . exact hroom
    . refine iff_of_true (hsub (.inr (by simpa using hpasses))) ?_
      intro hclosed
      exfalso
      apply hpasses
      rw [passes_discovered]
      exact .inl (by simp [hclosed])

theorem withinCapacity_step {self : ServerState F} {op : ServerOp F} (h : self.WithinCapacity)
    : (self.step op).WithinCapacity ↔ self.KeepsCapacity op := by
  by_cases hop : ∃ deviceId deviceName, op = .discovered deviceId deviceName
  . obtain ⟨deviceId, deviceName, rfl⟩ := hop
    exact withinCapacity_discovered h deviceId deviceName
  . have hkeeps : self.KeepsCapacity op := by
      cases op with
      | discovered deviceId deviceName => exact absurd ⟨deviceId, deviceName, rfl⟩ hop
      | _ => trivial
    refine iff_of_true (withinCapacity_of_subset h (openDevices_step_subset ?_)) hkeeps
    intro deviceId deviceName heq
    exact absurd ⟨deviceId, deviceName, heq⟩ hop

theorem withinCapacity_run_iff (config : ServerConfig) (ops : List (ServerOp F))
    : Run.AllStates step WithinCapacity (new config) ops
        ↔
      Run.AllSteps step KeepsCapacity (new config) ops := by
  apply Run.allStates_iff_allSteps
  . intro s op h
    exact withinCapacity_step h
  . exact Nat.zero_le _

/--
`discovered` does not count the sessions when the device has one already, even if it is closed.
-/
theorem withinCapacity_fails
    : ¬ (Run.run step (new (F := Floats.rational) { ServerConfig.default with maxSessions := 1 })
          [.discovered 7 "panel", .transportConnected 7, .closeSession 7 5, .discovered 8 "desk",
            .discovered 7 "panel"]).WithinCapacity := by
  unfold WithinCapacity
  decide

end Capacity

end ServerState

end MotionStage
