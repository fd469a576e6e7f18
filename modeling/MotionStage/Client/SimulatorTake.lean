import MotionStage.Client.Simulator

/-!
This module contains what the simulator knows of its recording: it keeps a flag and a path beside the
recording of its server, and what it does next depends on the flag.
-/

namespace MotionStage

variable {F : Floats}

def ServerState.takePath? (self : ServerState F) : Option String :=
  self.activeRecording.map ActiveRecording.path

namespace Simulate

def SimulatorState.take (state : SimulatorState F) : Bool × Option String :=
  (state.recording, state.activeRecordPath)

def takeAfter (server : ServerState F) (state : SimulatorState F) (input : CommandInput F)
    : SimulationCommand F → Bool × Option String
  | .recordStart path =>
    if !state.recording && input.created.isOk
        && (Run.run ServerState.step server (preparing state input)).runtime.activeScene.isSome then
      (true, some (path.getD state.defaultRecordPath))
    else
      state.take
  | .recordStop =>
    if state.recording && server.activeRecording.isSome && input.written.isOk then
      (false, none)
    else
      state.take
  | _ => state.take

section Calls

variable {R : SineFloats F} {server : ServerState F} {state : SimulatorState F}
  {command : SimulationCommand F} {input : CommandInput F}

theorem stopRecording_isOk (server : ServerState F) (nowNs : Nat) (written : Except String Unit)
    : (server.stopRecording nowNs written).1.isOk
        =
      (server.activeRecording.isSome && written.isOk) := by
  have hlive (s : ServerState F) : (s.withRuntime (s.runtime.setMode .live)).1 = .ok () := by
    simp only [ServerState.withRuntime, RuntimeCore.setMode]
    cases s.runtime.mode <;> rfl
  unfold ServerState.stopRecording
  cases server.activeRecording with
  | none => rfl
  | some recording =>
    cases written with
    | error e => rfl
    | ok u =>
      simp only [RecordingWriter.finish]
      split
      . next h =>
        have hcontra := hlive { server with activeRecording := none }
        rw [h] at hcontra
        cases hcontra
      . rfl

theorem take_handleCommand
    : (handleCommand R (some server) state command input).2.1.take
        =
      takeAfter server state input command := by
  cases command with
  | start | mode mode =>
    simp only [handleCommand, takeAfter]
    split <;> rfl
  | stop =>
    simp only [handleCommand, takeAfter]
    split
    . rfl
    . split <;> rfl
  | recordStart path =>
    simp only [handleCommand, takeAfter, prepareRecording_eq]
    split
    . next h => simp [h]
    . next h =>
      cases input.created with
      | error e => simp [Except.isOk, Except.toBool, SimulatorState.take]
      | ok u =>
        cases hscene :
            (Run.run ServerState.step server (preparing state input)).runtime.activeScene with
        | none =>
          simp [ServerState.startRecording_of_none hscene, SimulatorState.take]
        | some sceneId =>
          simp [ServerState.startRecording_of_some hscene, h, SimulatorState.take, Except.isOk,
            Except.toBool]
  | recordStop =>
    have hok := stopRecording_isOk server input.nowNs input.written
    simp only [handleCommand, takeAfter]
    cases hrecording : state.recording with
    | false => simp
    | true =>
      simp only [Bool.not_true, Bool.false_eq_true, ↓reduceIte, Bool.true_and, ← hok]
      split
      . next h => rw [h]; rfl
      . next h => rw [h]; rfl
  | amp value | freq value =>
    simp only [handleCommand, takeAfter]
    split <;> rfl
  | _ => rfl

theorem take_handleCommand_none
    : (handleCommand R none state command input).2.1.take = state.take := by
  cases command with
  | start | mode mode =>
    simp only [handleCommand]
    split <;> rfl
  | stop =>
    simp only [handleCommand]
    split
    . rfl
    . split <;> rfl
  | amp value | freq value =>
    simp only [handleCommand]
    split <;> rfl
  | _ => rfl

end Calls

/--
The simulator knows whether its server records, and where to.
-/
def Agrees (state : SimulatorState F) (server : Option (ServerState F)) : Prop :=
  let path := server.bind ServerState.takePath?
  state.take = (path.isSome, path)

/--
The simulator believes in a recording that its server does not have.
-/
def Stuck (state : SimulatorState F) (server : Option (ServerState F)) : Prop :=
  state.recording = true ∧ ∃ s, server = some s ∧ s.activeRecording = none

theorem Agrees.congr {state state' : SimulatorState F} {server : Option (ServerState F)}
    (h : Agrees state server) (htake : state'.take = state.take)
    : Agrees state' server :=
  htake.trans h

theorem Stuck.congr {state state' : SimulatorState F} {server : Option (ServerState F)}
    (h : Stuck state server) (htake : state'.take = state.take)
    : Stuck state' server :=
  ⟨(congrArg Prod.fst htake).trans h.1, h.2⟩

section Steps

variable {R : SineFloats F} {server : ServerState F} {state : SimulatorState F}
  {command : SimulationCommand F} {input : CommandInput F}

theorem Agrees.recording {server : Option (ServerState F)} (h : Agrees state server)
    : state.recording = (server.bind ServerState.takePath?).isSome :=
  congrArg Prod.fst h

theorem takePath?_step {op : ServerOp F} (hop : ServerState.DuringTake op) (server : ServerState F)
    : (server.step op).takePath? = server.takePath? := by
  rw [ServerState.takePath?, server.step_activeRecording hop, Option.map_map]
  rfl

theorem takePath?_setMode (server : ServerState F) (mode : Mode) (nowNs : Nat)
    : (server.step (.setMode mode nowNs)).takePath? = server.takePath? :=
  takePath?_step (show ServerState.DuringTake (.setMode mode nowNs : ServerOp F) from trivial) server

theorem takePath?_run {ops : List (ServerOp F)} (hops : ∀ op ∈ ops, ServerState.DuringTake op)
    (server : ServerState F)
    : (Run.run ServerState.step server ops).takePath? = server.takePath? := by
  induction ops generalizing server with
  | nil => rfl
  | cons op ops ih =>
    rw [Run.run_cons, ih (fun op hop => hops op (List.mem_cons_of_mem _ hop)),
      takePath?_step (hops op List.mem_cons_self)]

theorem duringTake_preparing {op : ServerOp F} (hop : op ∈ preparing state input)
    : ServerState.DuringTake op := by
  unfold preparing at hop
  rcases List.mem_append.mp hop with hop | hop
  . split at hop
    . cases hop
    . rw [List.mem_singleton.mp hop]
      trivial
  . obtain ⟨other, -, rfl⟩ := List.mem_map.mp hop
    exact other.property

theorem takePath?_startRecording (server : ServerState F) (path : String) (nowNs : Nat)
    (recordingId : Uuid)
    : (server.step (.startRecording path nowNs recordingId)).takePath?
        =
      if server.runtime.activeScene.isSome then some path else server.takePath? := by
  cases hscene : server.runtime.activeScene with
  | none =>
    simp [ServerState.step, ServerState.exec, ServerState.void,
      ServerState.startRecording_of_none hscene, ServerState.takePath?]
  | some sceneId =>
    simp [ServerState.step, ServerState.exec, ServerState.void,
      ServerState.startRecording_of_some hscene, ServerState.takePath?]

theorem takePath?_stopRecording (server : ServerState F) (nowNs : Nat) (written : Except String Unit)
    : (server.step (.stopRecording nowNs written)).takePath? = none := by
  rw [ServerState.takePath?, ServerState.activeRecording_stopRecording, Option.map_none]

theorem agrees_handleCommand (h : Agrees state (some server)) (command : SimulationCommand F)
    (input : CommandInput F)
    : let r := handleCommand R (some server) state command input
      ((state.recording = true → command.isRecordStop = true → input.written.isOk = true)
          ∧ Agrees r.2.1 r.2.2)
        ∨
      (state.recording = true ∧ command.isRecordStop = true ∧ input.written.isOk = false
          ∧ Stuck r.2.1 r.2.2) := by
  simp only [Agrees, Stuck, take_handleCommand, server_handleCommand, Option.bind_some]
  have htake : state.take = (server.takePath?.isSome, server.takePath?) := h
  have hrecording : state.recording = server.takePath?.isSome := h.recording
  cases command with
  | recordStart path =>
    refine .inl ⟨fun _ hstop => (by cases hstop), ?_⟩
    cases hflag : state.recording with
    | true => simpa [takeAfter, commandOps, hflag] using htake
    | false =>
      rw [hflag] at hrecording
      have hpath : server.takePath? = none := by simpa using hrecording.symm
      have hnone : (Run.run ServerState.step server (preparing state input)).takePath? = none := by
        rw [takePath?_run (fun op hop => duringTake_preparing hop), hpath]
      rw [hpath] at htake
      simp only [takeAfter, commandOps, hflag, Bool.false_eq_true, ↓reduceIte, Bool.not_false,
        Bool.true_and, Run.run_append]
      cases input.created.isOk with
      | false =>
        simp only [Bool.false_and, Bool.false_eq_true, ↓reduceIte, Run.run_nil, hnone, htake]
      | true =>
        simp only [Bool.true_and, ↓reduceIte, Run.run_cons, Run.run_nil, takePath?_startRecording,
          hnone]
        split
        . rfl
        . exact htake
  | recordStop =>
    cases hflag : state.recording with
    | false =>
      refine .inl ⟨fun hcontra => (by cases hcontra), ?_⟩
      simpa [takeAfter, commandOps, hflag] using htake
    | true =>
      have hactive : server.activeRecording.isSome = true := by
        rw [hflag] at hrecording
        simpa [ServerState.takePath?] using hrecording.symm
      cases hwritten : input.written.isOk with
      | true =>
        refine .inl ⟨fun _ _ => rfl, ?_⟩
        simp [takeAfter, commandOps, hflag, hactive, hwritten, takePath?_stopRecording]
      | false =>
        refine .inr ⟨rfl, rfl, rfl, ?_, _, rfl, ?_⟩
        . have hsame : (handleCommand R (some server) state .recordStop input).2.1.take = _ :=
            take_handleCommand
          simpa [SimulatorState.take, takeAfter, hwritten, hflag] using congrArg Prod.fst hsame
        . simp [commandOps, hflag, ServerState.activeRecording_stopRecording]
  | start | mode mode =>
    refine .inl ⟨fun _ hstop => (by cases hstop), ?_⟩
    simpa [takeAfter, commandOps, takePath?_setMode] using htake
  | stop =>
    refine .inl ⟨fun _ hstop => (by cases hstop), ?_⟩
    cases hflag : state.recording with
    | true => simpa [takeAfter, commandOps, hflag] using htake
    | false => simpa [takeAfter, commandOps, hflag, takePath?_setMode] using htake
  | _ => exact .inl ⟨fun _ hstop => (by cases hstop), htake⟩

theorem stuck_handleCommand (h : Stuck state (some server))
    : let r := handleCommand R (some server) state command input
      Stuck r.2.1 r.2.2 := by
  obtain ⟨hflag, s, hs, hnone⟩ := h
  cases hs
  have hpath {s : ServerState F} : s.takePath? = none ↔ s.activeRecording = none := by
    simp [ServerState.takePath?]
  have htake : (handleCommand R (some server) state command input).2.1.take = state.take := by
    rw [take_handleCommand]
    cases command <;> simp [takeAfter, hflag, hnone]
  simp only [Stuck, server_handleCommand]
  refine ⟨(congrArg Prod.fst htake).trans hflag, _, rfl, ?_⟩
  cases command with
  | recordStop => simp [commandOps, hflag, ServerState.activeRecording_stopRecording]
  | recordStart path | stop => simpa [commandOps, hflag] using hnone
  | start | mode mode =>
    rw [← hpath]
    exact (takePath?_setMode server _ _).trans (hpath.mpr hnone)
  | _ => exact hnone

end Steps

namespace Simulation

section Runs

variable {R : SineFloats F} (args : SimulateArgs F) (route : DemoRoute)

theorem runCommand_take (sim : Simulation F) (command : SimulationCommand F)
    (input : CommandInput F)
    : let r := handleCommand R sim.server sim.state command input
      (sim.runCommand R command input).state.take = r.2.1.take
        ∧ (sim.runCommand R command input).server = r.2.2 := by
  unfold runCommand
  split
  . next h => rw [h]; exact ⟨rfl, rfl⟩
  . next h => rw [h]; exact ⟨rfl, rfl⟩

def Writes (R : SineFloats F) (sim : Simulation F) : SimulationEvent F → Prop
  | .line line input =>
    (sim.looping && sim.state.recording) = true → (parseCommand R line).isRecordStop = true →
      input.written.isOk = true
  | _ => True

theorem take_afterMessages (state : SimulatorState F) (messages : List ControlMessage)
    : (messages.foldl SimulatorState.afterMessage state).take = state.take := by
  induction messages generalizing state with
  | nil => rfl
  | cons message messages ih =>
    rw [List.foldl_cons, ih]
    cases message <;> rfl

theorem step_take (sim : Simulation F) {e : SimulationEvent F}
    (he : ∀ line input, e ≠ .line line input)
    : (sim.step R args route e).state.take = sim.state.take
        ∧
      ((sim.step R args route e).server = sim.server
        ∨ ∃ op : OthersOp F, (sim.step R args route e).server
          = sim.server.map fun server => server.step op.val) := by
  cases e with
  | line line input => exact absurd rfl (he line input)
  | others op => exact ⟨rfl, .inr ⟨op, rfl⟩⟩
  | leave => exact ⟨rfl, .inl rfl⟩
  | sampleTick nowNs sent =>
    simp only [step]
    split
    . cases sent <;> exact ⟨rfl, .inl rfl⟩
    . exact ⟨rfl, .inl rfl⟩
  | controlTick ping drained failure =>
    simp only [step]
    split
    . refine ⟨?_, .inl rfl⟩
      have hping : (sim.state.afterPing ping).take = sim.state.take := by
        unfold SimulatorState.afterPing
        split <;> rfl
      rw [← hping, ← take_afterMessages (sim.state.afterPing ping) drained]
      cases failure <;> rfl
    . exact ⟨rfl, .inl rfl⟩

theorem agrees_runCommand {sim : Simulation F} (h : Agrees sim.state sim.server)
    (command : SimulationCommand F) (input : CommandInput F)
    : ((sim.state.recording = true → command.isRecordStop = true → input.written.isOk = true)
          ∧ Agrees (sim.runCommand R command input).state (sim.runCommand R command input).server)
        ∨
      (sim.state.recording = true ∧ command.isRecordStop = true ∧ input.written.isOk = false
        ∧ Stuck (sim.runCommand R command input).state
          (sim.runCommand R command input).server) := by
  obtain ⟨htake, hserver⟩ := sim.runCommand_take (R := R) command input
  rw [hserver]
  obtain ⟨server, state⟩ := sim
  cases server with
  | none =>
    have hflag : state.recording = false := h.recording
    refine .inl ⟨fun hcontra => ?_, ?_⟩
    . rw [hflag] at hcontra
      cases hcontra
    . rw [server_handleCommand_none]
      exact h.congr (htake.trans take_handleCommand_none)
  | some server =>
    rcases agrees_handleCommand (R := R) h command input with
      ⟨hwrites, hagrees⟩ | ⟨hflag, hstop, hwritten, hstuck⟩
    . exact .inl ⟨hwrites, hagrees.congr htake⟩
    . exact .inr ⟨hflag, hstop, hwritten, hstuck.congr htake⟩

theorem stuck_runCommand {sim : Simulation F} (h : Stuck sim.state sim.server)
    (command : SimulationCommand F) (input : CommandInput F)
    : Stuck (sim.runCommand R command input).state (sim.runCommand R command input).server := by
  obtain ⟨htake, hserver⟩ := sim.runCommand_take (R := R) command input
  rw [hserver]
  obtain ⟨server, state⟩ := sim
  obtain ⟨-, s, rfl, -⟩ := id h
  exact (stuck_handleCommand h).congr htake

theorem agrees_step {sim : Simulation F} (h : Agrees sim.state sim.server)
    (e : SimulationEvent F)
    : (sim.Writes R e ∧ Agrees (sim.step R args route e).state (sim.step R args route e).server)
        ∨
      (¬ sim.Writes R e
        ∧ Stuck (sim.step R args route e).state (sim.step R args route e).server) := by
  have hother (he : ∀ line input, e ≠ .line line input)
      : Agrees (sim.step R args route e).state (sim.step R args route e).server := by
    obtain ⟨htake, hserver⟩ := step_take (R := R) args route sim he
    unfold Agrees at h ⊢
    rw [htake, h]
    rcases hserver with hserver | ⟨op, hserver⟩
    . rw [hserver]
    . rw [hserver]
      cases sim.server with
      | none => rfl
      | some server => simp [takePath?_step op.property]
  cases e with
  | line line input =>
    simp only [step, Writes]
    cases hlooping : sim.looping with
    | false => exact .inl ⟨fun hcontra => (by cases hcontra), h⟩
    | true =>
      simp only [Bool.true_and, ↓reduceIte]
      rcases agrees_runCommand (R := R) h (parseCommand R line) input with
        hkept | ⟨hflag, hstop, hwritten, hstuck⟩
      . exact .inl hkept
      . refine .inr ⟨fun hwrites => ?_, hstuck⟩
        rw [hwrites hflag hstop] at hwritten
        cases hwritten
  | _ => exact .inl ⟨trivial, hother (by simp)⟩

theorem stuck_step {sim : Simulation F} (h : Stuck sim.state sim.server) (e : SimulationEvent F)
    : Stuck (sim.step R args route e).state (sim.step R args route e).server := by
  have hother (he : ∀ line input, e ≠ .line line input)
      : Stuck (sim.step R args route e).state (sim.step R args route e).server := by
    obtain ⟨htake, hserver⟩ := step_take (R := R) args route sim he
    refine Stuck.congr ?_ htake
    rcases hserver with hserver | ⟨op, hserver⟩
    . rw [hserver]
      exact h
    . obtain ⟨hflag, s, hs, hnone⟩ := h
      refine ⟨hflag, _, by rw [hserver, hs, Option.map_some], ?_⟩
      rw [s.step_activeRecording op.property, hnone, Option.map_none]
  cases e with
  | line line input =>
    simp only [step]
    split
    . exact stuck_runCommand h (parseCommand R line) input
    . exact h
  | _ => exact hother (by simp)

theorem stopTake_isOk {server : ServerState F} {state : SimulatorState F}
    (h : Agrees state (some server)) (input : CommandInput F)
    : (stopTake server state input).1.isOk = (!state.recording || input.written.isOk) := by
  have hrecording : state.recording = server.takePath?.isSome := h.recording
  unfold stopTake
  cases hflag : state.recording with
  | false => rfl
  | true =>
    have hactive : server.activeRecording.isSome = true := by
      rw [hflag] at hrecording
      simpa [ServerState.takePath?] using hrecording.symm
    simp only [↓reduceIte, ServerState.void, Bool.not_true, Bool.false_or]
    have hok := stopRecording_isOk server input.nowNs input.written
    rw [hactive, Bool.true_and] at hok
    rw [← hok]
    cases (server.stopRecording input.nowNs input.written).1 <;> rfl

theorem shutdown_of_agrees {sim : Simulation F} (h : Agrees sim.state sim.server)
    (input : CommandInput F) (stopped : Except ServerError Unit)
    : (sim.shutdown input stopped).1.isOk = true
        ↔
      (sim.state.recording = true → input.written.isOk = true)
        ∧ (sim.server.isSome = true → stopped.isOk = true) := by
  unfold shutdown
  cases hserver : sim.server with
  | none =>
    have hflag : sim.state.recording = false := by
      rw [hserver] at h
      exact h.recording
    simp [hflag, Except.isOk, Except.toBool]
  | some server =>
    rw [hserver] at h
    have hstop := stopTake_isOk h input
    simp only [Option.isSome_some, true_implies]
    split
    . next htake =>
      rw [htake] at hstop
      obtain ⟨hflag, hwritten⟩ : sim.state.recording = true ∧ input.written.isOk = false := by
        simpa [Except.isOk, Except.toBool] using hstop.symm
      simp only [hflag, hwritten, Bool.false_eq_true, imp_false, not_true_eq_false, false_and,
        iff_false, Bool.not_eq_true]
      rfl
    . next later htake =>
      have hidle : (goIdle (others later input.meanwhile) sim.state input).1 = .ok () := goIdle_isOk
      have hwritten : sim.state.recording = true → input.written.isOk = true := by
        rw [htake] at hstop
        simpa [Except.isOk, Except.toBool, imp_iff_not_or] using hstop.symm
      split
      . next hmode =>
        rw [hmode] at hidle
        cases hidle
      . rw [and_iff_right hwritten]
        cases stopped <;> rfl

theorem shutdown_of_stuck {sim : Simulation F} (h : Stuck sim.state sim.server)
    (input : CommandInput F) (stopped : Except ServerError Unit)
    : sim.shutdown input stopped
        =
      (.error (ServerError.recording "no active recording").display, sim.server) := by
  obtain ⟨hflag, s, hs, hnone⟩ := h
  have hstop : s.stopRecording input.nowNs input.written
      = (.error (.recording "no active recording"), s) := by
    unfold ServerState.stopRecording
    rw [hnone]
  simp only [shutdown, stopTake, hs, hflag, ↓reduceIte, ServerState.void, hstop, Except.map]

/--
In every run the simulator knows the recording of its server, until a `record stop` cannot write the
file. Up to then it leaves in good order if the recording it holds is written and its server stops.
From then on it cannot record any more, and it cannot leave in good order.
-/
theorem agrees_or_stuck (R : SineFloats F) (args : SimulateArgs F) (route : DemoRoute)
    (config : Option ServerConfig) (es : List (SimulationEvent F))
    : let begin : Simulation F := start args (config.map ServerState.new)
      let sim := Run.run (step R args route) begin es
      (Run.AllSteps (step R args route) (Writes R) begin es ∧ Agrees sim.state sim.server
          ∧ ∀ input stopped, (sim.shutdown input stopped).1.isOk = true
            ↔ (sim.state.recording = true → input.written.isOk = true)
              ∧ (sim.server.isSome = true → stopped.isOk = true))
        ∨
      (¬ Run.AllSteps (step R args route) (Writes R) begin es ∧ Stuck sim.state sim.server
          ∧ ∀ input stopped, sim.shutdown input stopped
            = (.error (ServerError.recording "no active recording").display, sim.server)) := by
  intro begin sim
  have hstart : Agrees begin.state begin.server := by
    cases config <;> rfl
  have htrap (s : Simulation F) (e : SimulationEvent F) (h : Stuck s.state s.server) (_ : True)
      : Stuck (s.step R args route e).state (s.step R args route e).server :=
    stuck_step args route h e
  rcases Run.invariant_or_trapped (P := fun s : Simulation F => Agrees s.state s.server)
      (fun _ e h _ => agrees_step args route h e) htrap hstart
      (Run.allSteps_true (step R args route) es) with ⟨hwrites, hagrees⟩ | ⟨hfails, hstuck⟩
  . exact .inl ⟨hwrites, hagrees, shutdown_of_agrees hagrees⟩
  . exact .inr ⟨hfails, hstuck, shutdown_of_stuck hstuck⟩

end Runs

end Simulation

end Simulate

end MotionStage
