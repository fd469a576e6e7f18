import MotionStage.Client.Playing

/-!
This module contains the stream of the simulator: the samples that it sends lie one after the other
on a sine wave, whose amplitude and frequency can be changed while it is sent.
-/

namespace MotionStage

variable {F : Floats}

namespace Simulate

variable {R : SineFloats F} {args : SimulateArgs F} {route : DemoRoute}

structure SimulatorState.Tuned (R : SineFloats F) (state : SimulatorState F) : Prop where
  amplitude : tunable R state.amplitude = true
  frequencyHz : tunable R state.frequencyHz = true

theorem tuned_of_validateArgs (h : validateArgs R args = .ok ())
    : (SimulatorState.new args).Tuned R := by
  unfold validateArgs at h
  split at h
  . cases h
  . split at h
    . cases h
    . next hamplitude =>
      split at h
      . cases h
      . next hfrequency =>
        rw [Bool.not_eq_true', Bool.not_eq_false] at hamplitude hfrequency
        exact ⟨hamplitude, hfrequency⟩

def SimulatorState.wave (state : SimulatorState F) : F.f32 × F.f32 × Nat :=
  (state.amplitude, state.frequencyHz, state.sampleIndex)

theorem SimulatorState.Tuned.congr {state state' : SimulatorState F} (h : state.Tuned R)
    (hwave : state'.wave = state.wave)
    : state'.Tuned R := by
  obtain ⟨hamplitude, hfrequency, -⟩ : state'.amplitude = state.amplitude
      ∧ state'.frequencyHz = state.frequencyHz ∧ state'.sampleIndex = state.sampleIndex := by
    simpa [SimulatorState.wave] using hwave
  exact ⟨hamplitude ▸ h.amplitude, hfrequency ▸ h.frequencyHz⟩

def SimulationCommand.tunes : SimulationCommand F → Bool
  | .amp _ | .freq _ => true
  | _ => false

theorem wave_handleCommand {server : Option (ServerState F)} {state : SimulatorState F}
    {command : SimulationCommand F} {input : CommandInput F} (h : command.tunes = false)
    : (handleCommand R server state command input).2.1.wave = state.wave := by
  cases command with
  | amp value | freq value => cases h
  | start | mode mode =>
    simp only [handleCommand]
    split <;> rfl
  | stop =>
    simp only [handleCommand]
    split
    . rfl
    . split <;> rfl
  | recordStart path =>
    cases server with
    | none => rfl
    | some server =>
      simp only [handleCommand, prepareRecording_eq]
      split
      . rfl
      . cases input.created with
        | error e => rfl
        | ok u => dsimp only; split <;> rfl
  | recordStop =>
    cases server with
    | none => rfl
    | some server =>
      simp only [handleCommand]
      split
      . rfl
      . split <;> rfl
  | _ => rfl

theorem tuned_handleCommand {server : Option (ServerState F)} {state : SimulatorState F}
    (h : state.Tuned R) (command : SimulationCommand F) (input : CommandInput F)
    : (handleCommand R server state command input).2.1.Tuned R
        ∧ (handleCommand R server state command input).2.1.sampleIndex = state.sampleIndex := by
  cases htunes : command.tunes with
  | false =>
    have hwave : (handleCommand R server state command input).2.1.wave = state.wave :=
      wave_handleCommand htunes
    exact ⟨h.congr hwave, congrArg (fun w => w.2.2) hwave⟩
  | true =>
    cases command with
    | amp value =>
      simp only [handleCommand]
      split
      . next hvalue => exact ⟨⟨hvalue, h.frequencyHz⟩, rfl⟩
      . exact ⟨h, rfl⟩
    | freq value =>
      simp only [handleCommand]
      split
      . next hvalue => exact ⟨⟨h.amplitude, hvalue⟩, rfl⟩
      . exact ⟨h, rfl⟩
    | _ => cases htunes

theorem wave_fail (state : SimulatorState F) (message : String)
    : (state.fail message).wave = state.wave :=
  rfl

theorem wave_afterMessages (state : SimulatorState F) (messages : List ControlMessage)
    : (messages.foldl SimulatorState.afterMessage state).wave = state.wave := by
  induction messages generalizing state with
  | nil => rfl
  | cons message messages ih =>
    rw [List.foldl_cons, ih]
    cases message <;> rfl

theorem wave_afterPing (state : SimulatorState F) (ping : Option (Except String Unit))
    : (state.afterPing ping).wave = state.wave := by
  cases ping with
  | none => rfl
  | some sent => cases sent <;> rfl

theorem wave_afterDrain (state : SimulatorState F) (failure : Option String)
    : (state.afterDrain failure).wave = state.wave := by
  cases failure <;> rfl

/--
The simulator has sent the samples from the first to the one before its index, each of them with an
amplitude and a frequency that are finite and not negative.
-/
structure OnWave (R : SineFloats F) (args : SimulateArgs F) (route : DemoRoute) (sim : Simulation F)
    : Prop where
  tuned : sim.state.Tuned R
  index : sim.state.sampleIndex = sim.sent.length
  sent : ∀ k datagram, sim.sent[k]? = some datagram →
    ∃ state : SimulatorState F, ∃ nowNs, state.Tuned R ∧ state.sampleIndex = k
      ∧ datagram = sample R route state args.sampleHz nowNs

theorem OnWave.congr {sim : Simulation F} (h : OnWave R args route sim) {state : SimulatorState F}
    (hwave : state.wave = sim.state.wave) (server : Option (ServerState F)) (looping : Bool)
    : OnWave R args route ⟨server, state, sim.sent, looping⟩ :=
  ⟨h.tuned.congr hwave, (congrArg (fun w => w.2.2) hwave).trans h.index, h.sent⟩

theorem onWave_emitSample {sim : Simulation F} (h : OnWave R args route sim) (nowNs : Nat)
    (sent : Except String Unit)
    : OnWave R args route (sim.emitSample R args route nowNs sent) := by
  cases sent with
  | error e => exact h.congr (wave_fail _ _) _ _
  | ok u =>
    refine ⟨⟨h.tuned.amplitude, h.tuned.frequencyHz⟩, ?_, ?_⟩
    . simp [Simulation.emitSample, h.index]
    . intro k datagram hk
      simp only [Simulation.emitSample] at hk
      rcases Nat.lt_or_ge k sim.sent.length with hbefore | hlast
      . rw [List.getElem?_append_left hbefore] at hk
        exact h.sent k datagram hk
      . rw [List.getElem?_append_right hlast] at hk
        obtain ⟨hindex, hdatagram⟩ := List.getElem?_eq_some_iff.mp hk
        have hk' : k = sim.sent.length := by
          rw [List.length_singleton] at hindex
          omega
        subst hk'
        simp only [Nat.sub_self, List.getElem_cons_zero] at hdatagram
        exact ⟨sim.state, nowNs, h.tuned, h.index, hdatagram.symm⟩

theorem onWave_runCommand {sim : Simulation F} (h : OnWave R args route sim)
    (command : SimulationCommand F) (input : CommandInput F)
    : OnWave R args route (sim.runCommand R command input) := by
  have hkept : (handleCommand R sim.server sim.state command input).2.1.Tuned R
      ∧ (handleCommand R sim.server sim.state command input).2.1.sampleIndex
        = sim.state.sampleIndex :=
    tuned_handleCommand h.tuned command input
  unfold Simulation.runCommand
  split
  . next hresult =>
    rw [hresult] at hkept
    exact ⟨⟨hkept.1.amplitude, hkept.1.frequencyHz⟩, hkept.2.trans h.index, h.sent⟩
  . next hresult =>
    rw [hresult] at hkept
    exact ⟨⟨hkept.1.amplitude, hkept.1.frequencyHz⟩, hkept.2.trans h.index, h.sent⟩

theorem onWave_step {sim : Simulation F} (h : OnWave R args route sim) (e : SimulationEvent F)
    : OnWave R args route (sim.step R args route e) := by
  cases e with
  | others op => exact h.congr rfl _ _
  | leave => exact h.congr rfl _ _
  | sampleTick nowNs sent =>
    simp only [Simulation.step]
    split
    . exact onWave_emitSample h nowNs sent
    . exact h
  | controlTick ping drained failure =>
    simp only [Simulation.step]
    split
    . refine h.congr ?_ _ _
      rw [wave_afterDrain, wave_afterMessages, wave_afterPing]
    . exact h
  | line line input =>
    simp only [Simulation.step]
    split
    . exact onWave_runCommand h _ input
    . exact h

theorem sent_onWave (R : SineFloats F) (args : SimulateArgs F) (route : DemoRoute)
    (server : Option (ServerState F)) (events : List (SimulationEvent F))
    (h : validateArgs R args = .ok ())
    : Run.AllStates (Simulation.step R args route) (OnWave R args route) (.start args server)
        events := by
  refine Run.allStates_of_allSteps (fun _ e hsim _ => onWave_step hsim e) ?_
    (Run.allSteps_true _ events)
  refine ⟨tuned_of_validateArgs h, rfl, ?_⟩
  intro k datagram hk
  cases hk

theorem validateArgs_demoArgs : validateArgs Playing.demoSine Playing.demoArgs = .ok () := by
  have hamplitude : tunable Playing.demoSine Playing.demoArgs.amplitude = true := by decide
  have hfrequency : tunable Playing.demoSine Playing.demoArgs.frequencyHz = true := by
    show (!decide ((1 / 2 : Rat) < ((0 : Nat) : Rat))) = true
    grind
  have houtput : Text.trim Playing.demoArgs.outputAttribute ≠ "" := by decide
  rw [validateArgs, hamplitude, hfrequency, if_neg houtput]
  rfl

theorem sent_onWave_demo
    : (Run.run (Simulation.step Playing.demoSine Playing.demoArgs Playing.demoRoute)
          (.start Playing.demoArgs (some (.new .default))) Playing.demoRun).sent.length = 1
        ∧
      Run.AllStates (Simulation.step Playing.demoSine Playing.demoArgs Playing.demoRoute)
        (OnWave Playing.demoSine Playing.demoArgs Playing.demoRoute)
        (.start Playing.demoArgs (some (.new .default))) Playing.demoRun :=
  ⟨by decide, sent_onWave Playing.demoSine Playing.demoArgs Playing.demoRoute
    (some (.new .default)) Playing.demoRun validateArgs_demoArgs⟩

end Simulate

end MotionStage
