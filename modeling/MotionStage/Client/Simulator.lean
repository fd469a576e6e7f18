import MotionStage.Client.Discover
import MotionStage.Client.Outputs
import MotionStage.Server.Recorder

/-!
This module contains the loop of the simulator: its commands, its sine wave, and the embedded server
that it steers. With `--connect` there is no embedded server, and a mode is requested over the
control channel.
-/

namespace MotionStage

variable {F : Floats}

/--
The items of `str::split_whitespace`.
-/
def splitWhitespace (s : String) : List String :=
  ((s.toList.splitOnP Text.isWhitespace).filter fun cs => !cs.isEmpty).map String.ofList

/--
What the simulator needs of `f32` besides the operations of the runtime.
-/
structure SineFloats (F : Floats) where
  isFinite : F.f32 → Bool
  sin : F.f32 → F.f32
  pi : F.f32
  fracPi2 : F.f32
  /-- `str::parse` -/
  parse : String → Option F.f32

namespace Simulate

inductive ConnectTarget where
  | address (addr : SocketAddr)
  | discover (serviceName : Option String)

structure SimulateArgs (F : Floats) where
  connect : Option ConnectTarget
  connectTimeoutSecs : Nat
  outputAttribute : String
  sampleHz : Nat
  amplitude : F.f32
  frequencyHz : F.f32
  recordPath : String
  printEvery : Nat

def tunable (R : SineFloats F) (v : F.f32) : Bool :=
  R.isFinite v && !F.f32.lt v (F.f32.ofNat 0)

def validateArgs (R : SineFloats F) (args : SimulateArgs F) : Except String Unit :=
  if args.sampleHz = 0 then
    .error "sample_hz must be greater than zero"
  else if !tunable R args.amplitude then
    .error "amplitude must be a finite number >= 0"
  else if !tunable R args.frequencyHz then
    .error "frequency_hz must be a finite number >= 0"
  else if args.printEvery = 0 then
    .error "print_every must be greater than zero"
  else if (match args.connect with
      | some (.discover _) => args.connectTimeoutSecs == 0
      | _ => false) then
    .error "connect_timeout_secs must be greater than zero for discovery"
  else if Text.trim args.outputAttribute = "" then
    .error "output_attribute must not be empty"
  else
    .ok ()

structure SimulatorState (F : Floats) where
  streaming : Bool
  recording : Bool
  sampleIndex : Nat
  amplitude : F.f32
  frequencyHz : F.f32
  defaultRecordPath : String
  activeRecordPath : Option String
  lastError : Option String

def SimulatorState.new (args : SimulateArgs F) : SimulatorState F where
  streaming := false
  recording := false
  sampleIndex := 0
  amplitude := args.amplitude
  frequencyHz := args.frequencyHz
  defaultRecordPath := args.recordPath
  activeRecordPath := none
  lastError := none

inductive SimulationCommand (F : Floats) where
  | help
  | start
  | stop
  | status
  | recordStart (path : Option String)
  | recordStop
  | mode (mode : Mode)
  | amp (value : F.f32)
  | freq (value : F.f32)
  | quit
  | empty
  | unknown (text : String)

def SimulationCommand.isRecordStop : SimulationCommand F → Bool
  | .recordStop => true
  | _ => false

def parseTunable (R : SineFloats F) (trimmed : String) (make : F.f32 → SimulationCommand F)
    (parts : List String) : SimulationCommand F :=
  match parts.head?.bind R.parse with
  | some v => make v
  | none => .unknown trimmed

def parseCommand (R : SineFloats F) (line : String) : SimulationCommand F :=
  let trimmed := Text.trim line
  match splitWhitespace trimmed with
  | [] => .empty
  | command :: parts =>
    match command with
    | "help" | "h" => .help
    | "start" => .start
    | "stop" => .stop
    | "status" => .status
    | "quit" | "exit" => .quit
    | "record" =>
      match parts with
      | "start" :: parts =>
        let remainder := " ".intercalate parts
        if remainder = "" then .recordStart none else .recordStart (some remainder)
      | "stop" :: _ => .recordStop
      | _ => .unknown trimmed
    | "amp" => parseTunable R trimmed .amp parts
    | "freq" => parseTunable R trimmed .freq parts
    | "mode" =>
      match parts.head? with
      | some "live" => .mode .live
      | some "idle" | some "stop" | some "stopped" => .mode .idle
      | some "record" | some "recording" => .mode .recording
      | _ => .unknown trimmed
    | _ => .unknown trimmed

def sineVec3 (R : SineFloats F) (amplitude frequencyHz seconds : F.f32) : Vector F.f32 3 :=
  let f := F.f32
  let phase := f.mul (f.mul (f.mul seconds frequencyHz) (f.ofNat 2)) R.pi
  #v[f.mul amplitude (R.sin phase), f.mul amplitude (R.sin (f.add phase R.fracPi2)),
    f.mul amplitude (R.sin (f.add phase R.pi))]

def sampleTime (sampleHz index : Nat) : F.f32 :=
  F.f32.div (F.f32.ofNat index) (F.f32.ofNat sampleHz)

/--
The output that the simulator sends, and the attribute that it is mapped to in embedded mode.
-/
structure DemoRoute where
  sourceDevice : Uuid
  sourceOutput : String
  target : Option Target

def sample (R : SineFloats F) (route : DemoRoute) (state : SimulatorState F) (sampleHz nowNs : Nat)
    : ServerState.MotionDatagram F where
  deviceId := route.sourceDevice
  timestampNs := nowNs
  updates := [⟨route.sourceOutput, .vec3f
    (sineVec3 R state.amplitude state.frequencyHz (sampleTime sampleHz state.sampleIndex))⟩]

end Simulate

/--
A call that some other task of the process makes. Only the simulator starts and stops recordings.
-/
abbrev OthersOp (F : Floats) := { op : ServerOp F // ServerState.DuringTake op }

namespace Simulate

/--
What a command draws from its surroundings: the times that its calls read, the fresh identifier,
what the remote server, the directory and the file came to, and what other tasks do to the server
between two calls.
-/
structure CommandInput (F : Floats) where
  modeNs : Nat
  nowNs : Nat
  recordingId : Uuid
  remote : Except String Mode
  created : Except String Unit
  written : Except String Unit
  meanwhile : List (OthersOp F)

def others (server : ServerState F) (ops : List (OthersOp F)) : ServerState F :=
  Run.run ServerState.step server (ops.map Subtype.val)

/--
`set_mode` of the embedded server, or else `request_remote_mode`.
-/
def requestMode (server : Option (ServerState F)) (mode : Mode) (input : CommandInput F)
    : Except String Unit × Option (ServerState F) :=
  match server with
  | some server =>
    let r := server.setMode mode input.modeNs
    (r.1.mapError ServerError.display, some r.2)
  | none => (input.remote.map fun _ => (), none)

/--
The part of `record start` up to the start of the recording.
-/
def prepareRecording (server : ServerState F) (state : SimulatorState F) (input : CommandInput F)
    : Except String Unit × SimulatorState F × ServerState F :=
  if state.streaming then
    (input.created, state, others server input.meanwhile)
  else
    match server.setMode .live input.modeNs with
    | (.error e, server) => (.error e.display, state, server)
    | (.ok (), server) =>
      (input.created, { state with streaming := true }, others server input.meanwhile)

def handleCommand (R : SineFloats F) (server : Option (ServerState F)) (state : SimulatorState F)
    (command : SimulationCommand F) (input : CommandInput F)
    : Except String Bool × SimulatorState F × Option (ServerState F) :=
  match command with
  | .help | .status | .empty | .unknown _ => (.ok true, state, server)
  | .start =>
    match requestMode server .live input with
    | (.error e, server) => (.error e, state, server)
    | (.ok (), server) => (.ok true, { state with streaming := true, lastError := none }, server)
  | .stop =>
    if state.recording then
      (.ok true, state, server)
    else
      let state := { state with streaming := false }
      match requestMode server .idle input with
      | (.error e, server) => (.error e, state, server)
      | (.ok (), server) => (.ok true, state, server)
  | .recordStart path =>
    match server with
    | none => (.ok true, state, none)
    | some server =>
      if state.recording then
        (.ok true, state, some server)
      else
        match prepareRecording server state input with
        | (.error e, state, server) => (.error e, state, some server)
        | (.ok (), state, server) =>
          let path := path.getD state.defaultRecordPath
          match server.startRecording path input.nowNs input.recordingId with
          | (.error e, server) => (.error e.display, state, some server)
          | (.ok _, server) =>
            (.ok true, { state with recording := true, activeRecordPath := some path }, some server)
  | .recordStop =>
    match server with
    | none => (.ok true, state, none)
    | some server =>
      if !state.recording then
        (.ok true, state, some server)
      else
        match server.stopRecording input.nowNs input.written with
        | (.error e, server) => (.error e.display, state, some server)
        | (.ok _, server) =>
          (.ok true, { state with recording := false, activeRecordPath := none }, some server)
  | .amp value =>
    (.ok true, if tunable R value then { state with amplitude := value } else state, server)
  | .freq value =>
    (.ok true, if tunable R value then { state with frequencyHz := value } else state, server)
  | .mode mode =>
    match requestMode server mode input with
    | (.error e, server) => (.error e, state, server)
    | (.ok (), server) => (.ok true, state, server)
  | .quit => (.ok false, state, server)

/--
The simulator in its loop. `sent` is every datagram that it has handed to its connection.
-/
structure Simulation (F : Floats) where
  server : Option (ServerState F)
  state : SimulatorState F
  sent : List (ServerState.MotionDatagram F)
  looping : Bool

/--
The branches of the `select!`, and what other tasks do to the embedded server.
-/
inductive SimulationEvent (F : Floats) where
  | sampleTick (nowNs : Nat) (sent : Except String Unit)
  /-- the heartbeat, if it is due, and what the drain of the control channel came to -/
  | controlTick (ping : Option (Except String Unit)) (drained : List ControlMessage)
    (failure : Option String)
  | line (line : String) (input : CommandInput F)
  /-- the input has come to its end, or the user has interrupted -/
  | leave
  | others (op : OthersOp F)

namespace SimulatorState

def fail (state : SimulatorState F) (message : String) : SimulatorState F :=
  { state with lastError := some message, streaming := false }

def afterPing (state : SimulatorState F) : Option (Except String Unit) → SimulatorState F
  | some (.error e) => state.fail s!"control heartbeat send failed: {e}"
  | _ => state

def afterMessage (state : SimulatorState F) : ControlMessage → SimulatorState F
  | .error code reason =>
    { state with lastError := some s!"control error code={code.debug} reason={reason}" }
  | _ => state

def afterDrain (state : SimulatorState F) : Option String → SimulatorState F
  | some e => state.fail s!"control channel error: recv failed: {e}"
  | none => state

end SimulatorState

namespace Simulation

def start (args : SimulateArgs F) (server : Option (ServerState F)) : Simulation F :=
  ⟨server, .new args, [], true⟩

def emitSample (R : SineFloats F) (args : SimulateArgs F) (route : DemoRoute) (sim : Simulation F)
    (nowNs : Nat) : Except String Unit → Simulation F
  | .error e => { sim with state := sim.state.fail s!"stream error: {e}" }
  | .ok () =>
    { sim with
      state := { sim.state with sampleIndex := sim.state.sampleIndex + 1 }
      sent := sim.sent ++ [sample R route sim.state args.sampleHz nowNs] }

def runCommand (R : SineFloats F) (sim : Simulation F) (command : SimulationCommand F)
    (input : CommandInput F) : Simulation F :=
  match handleCommand R sim.server sim.state command input with
  | (.error e, state, server) =>
    { sim with server := server, state := { state with lastError := some s!"command error: {e}" } }
  | (.ok shouldContinue, state, server) =>
    { sim with server := server, state := state, looping := shouldContinue }

def step (R : SineFloats F) (args : SimulateArgs F) (route : DemoRoute) (sim : Simulation F)
    (e : SimulationEvent F) : Simulation F :=
  match e with
  | .others op => { sim with server := sim.server.map fun server => server.step op.val }
  | .sampleTick nowNs sent =>
    if sim.looping && sim.state.streaming then sim.emitSample R args route nowNs sent else sim
  | .controlTick ping drained failure =>
    if sim.looping then
      let state := drained.foldl SimulatorState.afterMessage (sim.state.afterPing ping)
      { sim with state := state.afterDrain failure }
    else
      sim
  | .line line input => if sim.looping then sim.runCommand R (parseCommand R line) input else sim
  | .leave => { sim with looping := false }

end Simulation

/--
The two steps of `run` after its loop, before it stops the server.
-/
def stopTake (server : ServerState F) (state : SimulatorState F) (input : CommandInput F)
    : Except ServerError Unit × ServerState F :=
  if state.recording then
    ServerState.void (server.stopRecording input.nowNs input.written)
  else
    (.ok (), server)

def goIdle (server : ServerState F) (state : SimulatorState F) (input : CommandInput F)
    : Except ServerError Unit × ServerState F :=
  if state.streaming then server.setMode .idle input.modeNs else (.ok (), server)

/--
What `run` does after its loop. It returns at the first call that fails. The last call is `stop`,
which takes the server out of service before it waits for its tasks and withdraws its advertisement:
`stopped` is what that waiting came to.
-/
def Simulation.shutdown (sim : Simulation F) (input : CommandInput F)
    (stopped : Except ServerError Unit) : Except String Unit × Option (ServerState F) :=
  match sim.server with
  | none => (.ok (), none)
  | some server =>
    match stopTake server sim.state input with
    | (.error e, server) => (.error e.display, some server)
    | (.ok (), server) =>
      match goIdle (others server input.meanwhile) sim.state input with
      | (.error e, server) => (.error e.display, some server)
      | (.ok (), server) =>
        (stopped.mapError ServerError.display, some (server.step (.setRunning false)))

section Calls

variable {R : SineFloats F} {server : ServerState F} {state : SimulatorState F}
  {command : SimulationCommand F} {input : CommandInput F}

def preparing (state : SimulatorState F) (input : CommandInput F) : List (ServerOp F) :=
  (if state.streaming then [] else [.setMode .live input.modeNs]) ++ input.meanwhile.map Subtype.val

def commandOps (state : SimulatorState F) (input : CommandInput F)
    : SimulationCommand F → List (ServerOp F)
  | .start => [.setMode .live input.modeNs]
  | .stop => if state.recording then [] else [.setMode .idle input.modeNs]
  | .mode mode => [.setMode mode input.modeNs]
  | .recordStart path =>
    if state.recording then
      []
    else
      preparing state input ++ if input.created.isOk then
        [.startRecording (path.getD state.defaultRecordPath) input.nowNs input.recordingId]
      else
        []
  | .recordStop => if state.recording then [.stopRecording input.nowNs input.written] else []
  | _ => []

theorem setMode_isOk {mode : Mode} (hmode : mode ≠ .recording) (server : ServerState F) (nowNs : Nat)
    : (server.setMode mode nowNs).1 = .ok () := by
  have hvalid : RuntimeCore.validModeTransition server.runtime.mode mode = true := by
    cases server.runtime.mode <;> cases mode <;> first | rfl | exact absurd rfl hmode
  simp [ServerState.setMode, ServerState.withRuntime, RuntimeCore.setMode, hvalid, Except.mapError]

theorem prepareRecording_eq (server : ServerState F) (state : SimulatorState F)
    (input : CommandInput F)
    : prepareRecording server state input
        =
      (input.created, { state with streaming := true },
        Run.run ServerState.step server (preparing state input)) := by
  unfold prepareRecording preparing others
  split
  . next hstreaming =>
    obtain ⟨streaming⟩ := state
    cases hstreaming
    rfl
  . have hlive := setMode_isOk (show Mode.live ≠ .recording by decide) server input.modeNs
    split
    . next h => rw [h] at hlive; cases hlive
    . next h =>
      rw [Run.run_append]
      simp [Run.run_cons, ServerState.step, ServerState.exec, h]

theorem goIdle_isOk : (goIdle server state input).1 = .ok () := by
  unfold goIdle
  split
  . exact setMode_isOk (by decide) server input.modeNs
  . rfl

theorem requestMode_some (server : ServerState F) (mode : Mode) (input : CommandInput F)
    : requestMode (some server) mode input
        =
      ((server.setMode mode input.modeNs).1.mapError ServerError.display,
        some (server.step (.setMode mode input.modeNs))) :=
  rfl

theorem server_handleCommand
    : (handleCommand R (some server) state command input).2.2
        =
      some (Run.run ServerState.step server (commandOps state input command)) := by
  cases command with
  | start | mode mode =>
    simp only [handleCommand, requestMode_some, commandOps, Run.run_cons, Run.run_nil]
    split <;> simp_all
  | stop =>
    simp only [handleCommand, commandOps]
    split
    . rfl
    . simp only [requestMode_some, Run.run_cons, Run.run_nil]
      split <;> simp_all
  | recordStart path =>
    simp only [handleCommand, commandOps, prepareRecording_eq]
    split
    . rfl
    . cases input.created with
      | error e =>
        simp [Except.isOk, Except.toBool]
      | ok u =>
        simp only [Except.isOk, Except.toBool, ↓reduceIte, Run.run_append, Run.run_cons,
          Run.run_nil]
        split
        . next h => simp [ServerState.step, ServerState.exec, ServerState.void, h]
        . next h => simp [ServerState.step, ServerState.exec, ServerState.void, h]
  | recordStop =>
    simp only [handleCommand, commandOps]
    cases state.recording with
    | false => rfl
    | true =>
      simp only [Bool.not_true, Bool.false_eq_true, ↓reduceIte, Run.run_cons, Run.run_nil]
      split
      . next h => simp [ServerState.step, ServerState.exec, ServerState.void, h]
      . next h => simp [ServerState.step, ServerState.exec, ServerState.void, h]
  | _ => rfl

theorem server_handleCommand_none : (handleCommand R none state command input).2.2 = none := by
  cases command with
  | start | mode mode =>
    simp only [handleCommand, requestMode]
    cases input.remote <;> rfl
  | stop =>
    simp only [handleCommand, requestMode]
    split
    . rfl
    . cases input.remote <;> rfl
  | _ => rfl

end Calls

end Simulate

end MotionStage
