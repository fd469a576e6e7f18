import MotionStage.Client.SimulatorTake

/-!
This module contains the frames that a simulator records: each of them is in a file or in the
recording that is being made, unless its recording could not be written.
-/

namespace MotionStage

variable {F : Floats}

namespace Simulate

namespace Simulation

section Runs

variable {R : SineFloats F} (args : SimulateArgs F) (route : DemoRoute)

def ops (R : SineFloats F) (sim : Simulation F) : SimulationEvent F → List (ServerOp F)
  | .others op => [op.val]
  | .line line input =>
    if sim.looping then commandOps sim.state input (parseCommand R line) else []
  | _ => []

theorem server_step {sim : Simulation F} {server : ServerState F} (h : sim.server = some server)
    (e : SimulationEvent F)
    : (sim.step R args route e).server = some (Run.run ServerState.step server (sim.ops R e)) := by
  cases e with
  | line line input =>
    simp only [step, ops]
    split
    . rw [(sim.runCommand_take (parseCommand R line) input).2, h]
      exact server_handleCommand
    . exact h
  | others op => simp [step, ops, h]
  | sampleTick nowNs sent =>
    simp only [step]
    split
    . cases sent <;> exact h
    . exact h
  | controlTick ping drained failure =>
    simp only [step]
    split <;> exact h
  | leave => exact h

end Runs

end Simulation

/--
A simulator with an embedded server, together with the history of the frames of that server.
-/
structure Filming (F : Floats) where
  sim : Simulation F
  history : FrameHistory F

namespace Filming

def start (args : SimulateArgs F) (config : ServerConfig) : Filming F :=
  ⟨.start args (some (.new config)), .new config⟩

def step (R : SineFloats F) (args : SimulateArgs F) (route : DemoRoute) (film : Filming F)
    (e : SimulationEvent F) : Filming F where
  sim := film.sim.step R args route e
  history := Run.run FrameHistory.step film.history (film.sim.ops R e)

section Runs

variable {R : SineFloats F} (args : SimulateArgs F) (route : DemoRoute)

end Runs

end Filming

end Simulate

end MotionStage
