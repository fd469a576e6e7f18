import MotionStage.Client.Bootstrap
import MotionStage.Client.Connecting

/-!
This module contains the embedded simulation as a whole: the simulator plays on its stage through
the connection, the runtime and the recorder, as long as nobody else uses its server.
-/

namespace MotionStage

variable {F : Floats}

namespace Simulate

/--
What the tasks of the server do for a simulator that shares the server with nobody: the tick, and the
handler of the connection, which makes the session active, ingests the datagrams that arrive, and
closes the session. A datagram can get lost, or be late.
-/
def ByConnection (sent : List (ServerState.MotionDatagram F)) : ServerOp F → Prop
  | .schedulerTick _ | .sceneSynced _ | .activate _ | .closeSession _ _ => True
  | .ingestMotionDatagram datagram => datagram ∈ sent
  | _ => False

def Simulation.Alone (sim : Simulation F) : SimulationEvent F → Prop
  | .others op => ByConnection sim.sent op.val
  | .line _ input => ∀ op ∈ input.meanwhile, ByConnection sim.sent op.val
  | _ => True

def Simulation.HoldsLease (R : SineFloats F) (sim : Simulation F) (e : SimulationEvent F) : Prop :=
  ∀ server ∈ sim.server, Run.AllSteps ServerState.step KeepsLease server (sim.ops R e)

instance (R : SineFloats F) (sim : Simulation F) : DecidablePred (sim.HoldsLease R) := fun e =>
  inferInstanceAs (Decidable
    (∀ server ∈ sim.server, Run.AllSteps ServerState.step KeepsLease server (sim.ops R e)))

/--
A simulator next to the stage that it plays on.
-/
structure Playing (F : Floats) where
  sim : Simulation F
  stage : DemoStage F

namespace Playing

def start (args : SimulateArgs F) (server : ServerState F) : Playing F :=
  ⟨.start args (some server), .rest⟩

def step (R : SineFloats F) (args : SimulateArgs F) (route : DemoRoute) (play : Playing F)
    (e : SimulationEvent F) : Playing F where
  sim := play.sim.step R args route e
  stage := Run.run DemoStage.step play.stage ((play.sim.ops R e).filterMap asDemo)

def sampleOf (route : DemoRoute) (timestampNs : Nat) (value : Vector F.f32 3)
    : ServerState.MotionDatagram F :=
  ⟨route.sourceDevice, timestampNs, [⟨route.sourceOutput, .vec3f value⟩]⟩

def AllSamples (route : DemoRoute) (sent : List (ServerState.MotionDatagram F)) : Prop :=
  ∀ datagram ∈ sent, ∃ timestampNs value, datagram = sampleOf route timestampNs value

def Genuine (route : DemoRoute) (target : Target) (sent : List (ServerState.MotionDatagram F))
    (frame : RecordedFrame F) : Prop :=
  ∃ value, sampleOf route frame.timestampNs value ∈ sent
    ∧ frame.attributes = [⟨target.object, target.attr, .vec3f (placed value)⟩]

/--
A server that films nothing but what has been sent, whether the mapping is still there or not.
-/
structure Films (route : DemoRoute) (target : Target) (sent : List (ServerState.MotionDatagram F))
    (server : ServerState F) : Prop where
  wired : Wired route target server.runtime
  point : ∃ position, server.runtime.attributeAt target = some (demoAttribute target.attr position)
  genuine : ∀ frame ∈ server.heldFrames.getD [], frame.mode ≠ .idle → Genuine route target sent frame

def Plays (sent : List (ServerState.MotionDatagram F)) : ServerOp F → Prop
  | .setMode _ _ | .startRecording _ _ _ | .stopRecording _ _ | .schedulerTick _ => True
  | .sceneSynced _ | .activate _ | .closeSession _ _ => True
  | .ingestMotionDatagram datagram => datagram ∈ sent
  | _ => False

section Steps

variable {R : SineFloats F} {route : DemoRoute} {target : Target}
  {sent : List (ServerState.MotionDatagram F)} {server : ServerState F}

theorem plays_of_byConnection {op : ServerOp F} (h : ByConnection sent op) : Plays sent op := by
  cases op <;> first | exact h | trivial

theorem isDemo_of_plays {op : ServerOp F} (h : Plays sent op) (hsent : AllSamples route sent)
    : IsDemo route op := by
  cases op with
  | ingestMotionDatagram datagram => exact hsent datagram h
  | setMode | startRecording | stopRecording | schedulerTick => trivial
  | sceneSynced | activate | closeSession => trivial
  | _ => cases h

theorem plays_commandOps {state : SimulatorState F} {input : CommandInput F}
    (halone : ∀ op ∈ input.meanwhile, ByConnection sent op.val) {command : SimulationCommand F}
    {op : ServerOp F} (hop : op ∈ commandOps state input command)
    : Plays sent op := by
  cases command with
  | start | mode mode =>
    rw [List.mem_singleton.mp hop]
    trivial
  | stop =>
    simp only [commandOps] at hop
    split at hop
    . cases hop
    . rw [List.mem_singleton.mp hop]
      trivial
  | recordStart path =>
    simp only [commandOps] at hop
    split at hop
    . cases hop
    . rcases List.mem_append.mp hop with hop | hop
      . rcases List.mem_append.mp hop with hop | hop
        . split at hop
          . cases hop
          . rw [List.mem_singleton.mp hop]
            trivial
        . obtain ⟨other, hother, rfl⟩ := List.mem_map.mp hop
          exact plays_of_byConnection (halone other hother)
      . split at hop
        . rw [List.mem_singleton.mp hop]
          trivial
        . cases hop
  | recordStop =>
    simp only [commandOps] at hop
    split at hop
    . rw [List.mem_singleton.mp hop]
      trivial
    . cases hop
  | _ => cases hop

theorem plays_ops {sim : Simulation F} {e : SimulationEvent F} (halone : sim.Alone e)
    {op : ServerOp F} (hop : op ∈ sim.ops R e)
    : Plays sim.sent op := by
  cases e with
  | others other =>
    rw [List.mem_singleton.mp hop]
    exact plays_of_byConnection halone
  | line line input =>
    simp only [Simulation.ops] at hop
    split at hop
    . exact plays_commandOps halone hop
    . cases hop
  | _ => cases hop

theorem Films.mono (h : Films route target sent server)
    (later : List (ServerState.MotionDatagram F))
    : Films route target (sent ++ later) server := by
  refine ⟨h.wired, h.point, ?_⟩
  intro frame hframe hmode
  obtain ⟨value, hvalue, hframe⟩ := h.genuine frame hframe hmode
  exact ⟨value, List.mem_append_left _ hvalue, hframe⟩

theorem Films.quiet (h : Films route target sent server) {op : ServerOp F}
    (hops : ∀ runtimeOp ∈ server.runtimeOps op, IsQuiet runtimeOp)
    (htake : ∀ frame ∈ (server.heldAfter op).getD [], frame ∈ server.heldFrames.getD [])
    : Films route target sent (server.step op) := by
  obtain ⟨-, hruntime, hheld⟩ := server.step_frame op
  obtain ⟨hwired, hattr⟩ := wired_run_quiet h.wired hops
  rw [← hruntime] at hwired hattr
  obtain ⟨position, hposition⟩ := h.point
  refine ⟨hwired, ⟨position, hattr.trans hposition⟩, ?_⟩
  rw [hheld]
  exact fun frame hframe => h.genuine frame (htake frame hframe)

theorem Films.point_applyUpdates (h : Films route target sent server) (timestampNs : Nat)
    (value : Vector F.f32 3)
    : ∃ position, (server.runtime.applyUpdates route.sourceDevice
          [⟨route.sourceOutput, .vec3f value⟩] timestampNs).2.attributeAt target
        = some (demoAttribute target.attr position) := by
  obtain ⟨position, hattr⟩ := h.point
  cases hroute : server.runtime.route route.sourceDevice target.scene route.sourceOutput with
  | some m => exact ⟨_, (h.wired.move hattr hroute value timestampNs).2⟩
  | none =>
    -- without the mapping the sample is rejected
    refine ⟨position, ?_⟩
    refine (RuntimeCore.attributeAt_of_unrouted ?_).trans hattr
    intro activeScene hactive update hupdate m hm
    obtain rfl : target.scene = activeScene := Option.some.inj (h.wired.scene.symm.trans hactive)
    rw [List.mem_singleton.mp hupdate, hroute] at hm
    cases hm

theorem Films.sample (h : Films route target sent server) {timestampNs : Nat}
    {value : Vector F.f32 3} (hsent : sampleOf route timestampNs value ∈ sent)
    : Films route target sent
        (server.step (.ingestMotionDatagram (sampleOf route timestampNs value))) := by
  obtain ⟨-, hruntime, hheld⟩ := server.step_frame
    (.ingestMotionDatagram (sampleOf route timestampNs value))
  refine ⟨?_, ?_, ?_⟩
  . rw [hruntime]
    exact h.wired.applyUpdates route.sourceDevice _ timestampNs
  . rw [hruntime]
    exact h.point_applyUpdates timestampNs value
  . obtain ⟨position, hattr⟩ := h.point
    intro frame hframe hmode
    have hcases : frame ∈ server.heldFrames.getD [] ∨ frame = demoFrame target (timestampNs,
        server.runtime.mode, if server.runtime.mode = .idle then position else placed value) := by
      rw [hheld] at hframe
      simp only [ServerState.heldAfter, ServerState.pushedFrames, sampleOf,
        h.wired.frameOf? hattr] at hframe
      split at hframe
      . cases hframes : server.heldFrames with
        | none => simp [hframes] at hframe
        | some frames => simpa [hframes] using hframe
      . exact .inl (by simpa using hframe)
    rcases hcases with hold | rfl
    . exact h.genuine frame hold hmode
    . refine ⟨value, hsent, ?_⟩
      have hlive : server.runtime.mode ≠ .idle := hmode
      simp [demoFrame, hlive]

theorem films_step (h : Films route target sent server) (hsent : AllSamples route sent)
    {op : ServerOp F} (hop : Plays sent op)
    : Films route target sent (server.step op) := by
  have hsame (hpushed : server.pushedFrames op = [])
      (hstart : ∀ path nowNs id, op ≠ .startRecording path nowNs id)
      (hstop : ∀ nowNs written, op ≠ .stopRecording nowNs written)
      : ∀ frame ∈ (server.heldAfter op).getD [], frame ∈ server.heldFrames.getD [] := by
    rw [ServerState.heldAfter_eq_heldFrames hpushed hstart hstop]
    exact fun _ hframe => hframe
  cases op with
  | ingestMotionDatagram datagram =>
    obtain ⟨timestampNs, value, rfl⟩ := hsent datagram hop
    exact h.sample hop
  | startRecording path nowNs id =>
    refine h.quiet ?_ ?_
    . simp only [ServerState.runtimeOps]
      split <;> simp [IsQuiet]
    . simp [ServerState.heldAfter, h.wired.scene]
  | stopRecording nowNs written =>
    refine h.quiet ?_ (by simp [ServerState.heldAfter])
    simp only [ServerState.runtimeOps]
    split <;> simp [IsQuiet]
  | schedulerTick nowNs =>
    refine h.quiet ?_ (hsame rfl (by simp) (by simp))
    simp only [ServerState.runtimeOps]
    split <;> simp [IsQuiet]
  | setMode | sceneSynced | activate | closeSession =>
    exact h.quiet (by simp [ServerState.runtimeOps, IsQuiet]) (hsame rfl (by simp) (by simp))
  | _ => cases hop

theorem films_run (h : Films route target sent server) (hsent : AllSamples route sent)
    {ops : List (ServerOp F)} (hops : ∀ op ∈ ops, Plays sent op)
    : Films route target sent (Run.run ServerState.step server ops) :=
  Run.run_invariant (P := Films route target sent) (C := fun _ => Plays sent)
    (fun _ _ h hop => films_step h hsent hop) h (Run.allSteps_of_forall _ hops)

theorem sent_step (args : SimulateArgs F) (route : DemoRoute) (sim : Simulation F)
    (e : SimulationEvent F)
    : ∃ later, (sim.step R args route e).sent = sim.sent ++ later ∧ AllSamples route later := by
  have hsame (sim' : Simulation F) (h : sim'.sent = sim.sent)
      : ∃ later, sim'.sent = sim.sent ++ later ∧ AllSamples route later :=
    ⟨[], by rw [h, List.append_nil], by simp [AllSamples]⟩
  cases e with
  | sampleTick nowNs sent =>
    simp only [Simulation.step]
    split
    . cases sent with
      | error e => exact hsame _ rfl
      | ok u => exact ⟨_, rfl, by simp [AllSamples, sample, sampleOf]⟩
    . exact hsame _ rfl
  | controlTick ping drained failure =>
    simp only [Simulation.step]
    split <;> exact hsame _ rfl
  | line line input =>
    simp only [Simulation.step, Simulation.runCommand]
    split
    . split <;> exact hsame _ rfl
    . exact hsame _ rfl
  | leave | others op => exact hsame _ rfl

theorem allSamples_step (args : SimulateArgs F) {sim : Simulation F}
    (h : AllSamples route sim.sent) (e : SimulationEvent F)
    : AllSamples route (sim.step R args route e).sent := by
  obtain ⟨later, hlater, hsamples⟩ := sent_step (R := R) args route sim e
  rw [hlater]
  intro datagram hdatagram
  rcases List.mem_append.mp hdatagram with hold | hnew
  . exact h datagram hold
  . exact hsamples datagram hnew

structure InStep (route : DemoRoute) (target : Target) (play : Playing F) : Prop where
  shows : ∃ server, play.sim.server = some server ∧ Shows route target server play.stage
  sent : AllSamples route play.sim.sent

theorem inStep_step (args : SimulateArgs F) {play : Playing F} (h : play.InStep route target)
    {e : SimulationEvent F} (halone : play.sim.Alone e) (hlease : play.sim.HoldsLease R e)
    : (play.step R args route e).InStep route target := by
  obtain ⟨server, hserver, hshows⟩ := h.shows
  refine ⟨⟨_, Simulation.server_step args route hserver e, ?_⟩, allSamples_step args h.sent e⟩
  apply shows_run hshows _ (hlease server hserver)
  exact fun op hop => isDemo_of_plays (plays_ops halone hop) h.sent

structure Filmed (route : DemoRoute) (target : Target) (sim : Simulation F) : Prop where
  films : ∃ server, sim.server = some server ∧ Films route target sim.sent server
  sent : AllSamples route sim.sent

theorem filmed_step (args : SimulateArgs F) {sim : Simulation F} (h : Filmed route target sim)
    {e : SimulationEvent F} (halone : sim.Alone e)
    : Filmed route target (sim.step R args route e) := by
  obtain ⟨server, hserver, hfilms⟩ := h.films
  obtain ⟨later, hlater, -⟩ := sent_step (R := R) args route sim e
  refine ⟨⟨_, Simulation.server_step args route hserver e, ?_⟩, allSamples_step args h.sent e⟩
  rw [hlater]
  exact (films_run hfilms h.sent fun op hop => plays_ops halone hop).mono later

end Steps

section Runs

variable (R : SineFloats F) (args : SimulateArgs F) {config : ServerConfig} {sourceDevice : Uuid}
  {sourceOutput : String} {input : BootstrapInput} {server : ServerState F}

theorem shows_playing (h : Boots config sourceDevice sourceOutput input server)
    {es : List (SimulationEvent F)}
    (halone : Run.AllSteps (Simulation.step R args (input.route sourceDevice sourceOutput))
      Simulation.Alone (.start args (some server)) es)
    (hlease : Run.AllSteps (Simulation.step R args (input.route sourceDevice sourceOutput))
      (Simulation.HoldsLease R) (.start args (some server)) es)
    : let route := input.route sourceDevice sourceOutput
      let play := Run.run (step R args route) (start args server) es
      ∃ later, play.sim.server = some later ∧ Shows route input.target later play.stage := by
  have hstart : (start args server).InStep (input.route sourceDevice sourceOutput) input.target :=
    ⟨⟨server, rfl, shows_boots h⟩, by simp [AllSamples, start, Simulation.start]⟩
  have hsteps : Run.AllSteps (step R args (input.route sourceDevice sourceOutput))
      (fun play e => play.sim.Alone e ∧ play.sim.HoldsLease R e) (start args server) es :=
    (Run.allSteps_part_iff (C := fun sim e => Simulation.Alone sim e ∧ sim.HoldsLease R e) _
      Playing.sim fun _ _ => rfl).mpr (halone.and _ hlease)
  have hplay := Run.run_invariant
    (P := fun play : Playing F => play.InStep (input.route sourceDevice sourceOutput) input.target)
    (fun _ _ hplay ⟨halone, hlease⟩ => inStep_step args hplay halone hlease) hstart hsteps
  exact hplay.shows

theorem frames_sent (h : Boots config sourceDevice sourceOutput input server)
    {es : List (SimulationEvent F)}
    (halone : Run.AllSteps (Simulation.step R args (input.route sourceDevice sourceOutput))
      Simulation.Alone (.start args (some server)) es)
    : let route := input.route sourceDevice sourceOutput
      let sim := Run.run (Simulation.step R args route) (.start args (some server)) es
      ∀ later, sim.server = some later → ∀ frame ∈ later.heldFrames.getD [], frame.mode ≠ .idle →
        Genuine route input.target sim.sent frame := by
  intro route sim later hlater frame hframe hmode
  have hshows := shows_boots h
  have hstart : Filmed route input.target (.start args (some server)) := by
    refine ⟨⟨server, rfl, hshows.wired, ⟨_, hshows.position⟩, ?_⟩, ?_⟩
    . rw [hshows.take]
      simp [DemoStage.rest]
    . simp [AllSamples, Simulation.start]
  have hfilmed : Filmed route input.target sim :=
    Run.run_invariant (P := Filmed route input.target)
      (fun _ _ hsim he => filmed_step args hsim he) hstart halone
  obtain ⟨filmed, hserver, hfilms⟩ := hfilmed.films
  obtain rfl := Option.some.inj (hlater.symm.trans hserver)
  exact hfilms.genuine frame hframe hmode

end Runs

def demoSine : SineFloats Floats.rational where
  isFinite _ := true
  sin := id
  pi := (3 : Rat)
  fracPi2 := (3 / 2 : Rat)
  parse _ := none

def demoArgs : SimulateArgs Floats.rational where
  connect := none
  connectTimeoutSecs := 5
  outputAttribute := "demo.position"
  sampleHz := 120
  amplitude := (1 : Rat)
  frequencyHz := (1 / 2 : Rat)
  recordPath := "recordings/demo.cmtrk"
  printEvery := 30

def demoInput : CommandInput Floats.rational := ⟨1, 2, 50, .error "offline", .ok (), .ok (), []⟩

def demoIds : BootstrapInput := ⟨1, 2, 100, 0⟩

def demoRoute : DemoRoute := demoIds.route 7 "demo.position"

def demoArrival : ServerState.MotionDatagram Floats.rational :=
  sample demoSine demoRoute (.new demoArgs) 120 5

def demoRun : List (SimulationEvent Floats.rational) :=
  [.line "start" demoInput, .line "record start" demoInput, .sampleTick 5 (.ok ()),
    .others ⟨.ingestMotionDatagram demoArrival, trivial⟩]

/--
The session of the simulator becomes active after its output has been mapped. Ticks come before and
after that.
-/
def lateRun : List (SimulationEvent Floats.rational) :=
  [.others ⟨.sceneSynced 7, trivial⟩, .others ⟨.schedulerTick 1000000000, trivial⟩,
    .others ⟨.activate 7, trivial⟩] ++ demoRun ++ [.others ⟨.schedulerTick 9000000000, trivial⟩]

def demoBefore : List (ServerOp Floats.rational) :=
  [.setRunning true, .schedulerTick 1, .loadScene (demoScene 1 2), .setActiveScene 1,
    .schedulerTick 2]

def demoConnects : Handshake Floats.rational :=
  Run.run (Handshake.step Handshake.demoClient)
    (.start (Run.run ServerState.step (.new .default) demoBefore)) (Handshake.demoHandshake.take 16)

def demoServer : ServerState Floats.rational :=
  (demoConnects.connection.server.createMapping (demoIds.request 7 "demo.position") 0 100).2

theorem boots_demoServer : Boots .default 7 "demo.position" demoIds demoServer := by
  refine ⟨demoBefore, Handshake.demoHandshake.take 16, rfl, ?_, rfl⟩
  simp [Handshake.demoHandshake, Unattended]

theorem alone_lateRun
    : Run.AllSteps (Simulation.step demoSine demoArgs demoRoute) Simulation.Alone
        (.start demoArgs (some demoServer)) lateRun := by
  refine ⟨trivial, trivial, trivial, ?_, ?_, trivial, ?_, trivial, trivial⟩
  . intro op hop
    cases hop
  . intro op hop
    cases hop
  . change demoArrival ∈ [demoArrival]
    exact List.mem_singleton_self _

theorem holdsLease_lateRun
    : Run.AllSteps (Simulation.step demoSine demoArgs demoRoute) (Simulation.HoldsLease demoSine)
        (.start demoArgs (some demoServer)) lateRun := by
  decide

theorem shows_playing_demo
    : demoServer.runtime.connectedDevices = ∅
        ∧
      let play := Run.run (step demoSine demoArgs demoRoute) (start demoArgs demoServer) lateRun
      play.stage.take.map List.length = some 1
        ∧ ∃ later, play.sim.server = some later
          ∧ Shows demoRoute demoIds.target later play.stage :=
  ⟨by decide, by decide,
    shows_playing demoSine demoArgs boots_demoServer alone_lateRun holdsLease_lateRun⟩

theorem frames_sent_demo
    : let sim := Run.run (Simulation.step demoSine demoArgs demoRoute)
        (.start demoArgs (some demoServer)) lateRun
      (sim.server.bind ServerState.heldFrames).map List.length = some 1
        ∧
      ∀ later, sim.server = some later → ∀ frame ∈ later.heldFrames.getD [], frame.mode ≠ .idle →
        Genuine demoRoute demoIds.target sim.sent frame :=
  ⟨by decide, frames_sent demoSine demoArgs boots_demoServer alone_lateRun⟩

end Playing

end Simulate

end MotionStage
