import MotionStage.Client.Filming
import MotionStage.Core.Assign
import MotionStage.Core.Serving

/-!
This module contains what the simulator is for: its sine wave moves one point of a stage, and a take
of the point can be recorded. The stage here knows of no mappings, leases or sessions, and the
embedded server shows it as long as nobody else uses the server and the mapping keeps its lease.
-/

namespace MotionStage

variable {F : Floats}

namespace Simulate

/--
The point, and the frames of the take that is being recorded: time, mode and position.
-/
structure DemoStage (F : Floats) where
  mode : Mode
  position : Vector F.f32 3
  take : Option (List (Nat × Mode × Vector F.f32 3))

inductive DemoOp (F : Floats) where
  | move (timestampNs : Nat) (value : Vector F.f32 3)
  | setMode (mode : Mode)
  | startTake
  | stopTake (written : Bool)

def origin : Vector F.f32 3 := Vector.replicate 3 (F.f32.ofNat 0)

/--
The values are relative to the position that the point has in the scene.
-/
def placed (value : Vector F.f32 3) : Vector F.f32 3 := Vector.zipWith F.f32.add origin value

namespace DemoStage

def rest : DemoStage F := ⟨.idle, origin, none⟩

/--
An idle stage does not move, but it is recorded.
-/
def step (stage : DemoStage F) : DemoOp F → DemoStage F
  | .move timestampNs value =>
    let position := if stage.mode = .idle then stage.position else placed value
    { stage with
      position := position
      take := stage.take.map fun frames => frames ++ [(timestampNs, stage.mode, position)] }
  | .setMode mode =>
    if RuntimeCore.validModeTransition stage.mode mode then { stage with mode := mode } else stage
  | .startTake => { stage with mode := .recording, take := some [] }
  | .stopTake written =>
    { stage with
      mode := if stage.take.isSome && written then .live else stage.mode
      take := none }

end DemoStage

def demoAttribute (name : String) (position : Vector F.f32 3) : SceneAttribute F :=
  { SceneAttribute.new name (.vec3f origin) with currentValue := .vec3f position }

def demoFrame (target : Target) (frame : Nat × Mode × Vector F.f32 3) : RecordedFrame F :=
  ⟨frame.1, frame.2.1, [⟨target.object, target.attr, .vec3f frame.2.2⟩]⟩

structure Wires (route : DemoRoute) (target : Target) (m : Mapping) : Prop where
  sourceDevice : m.sourceDevice = route.sourceDevice
  sourceOutput : m.sourceOutput = route.sourceOutput
  target : m.target = target
  componentMask : m.componentMask = none

/--
The mapping table has the mapping of the simulator and nothing else. It may have been released.
-/
structure Wired (route : DemoRoute) (target : Target) (runtime : RuntimeCore F) : Prop where
  scene : runtime.activeScene = some target.scene
  mapping : ∃ m, runtime.mappings.values = [m] ∧ Wires route target m

def Leased (runtime : RuntimeCore F) : Prop :=
  ∀ m ∈ runtime.mappings.values, m.state = .active

structure Shows (route : DemoRoute) (target : Target) (server : ServerState F)
    (stage : DemoStage F) : Prop where
  wired : Wired route target server.runtime
  leased : Leased server.runtime
  mode : server.runtime.mode = stage.mode
  position : server.runtime.attributeAt target = some (demoAttribute target.attr stage.position)
  take : server.heldFrames = stage.take.map fun frames => frames.map (demoFrame target)

/--
What a call of the simulator, or of the handler of its connection, means for the stage.
-/
def asDemo : ServerOp F → Option (DemoOp F)
  | .setMode mode _ => some (.setMode mode)
  | .startRecording _ _ _ => some .startTake
  | .stopRecording _ written => some (.stopTake written.isOk)
  | .ingestMotionDatagram datagram =>
    match datagram.updates with
    | [⟨_, .vec3f value⟩] => some (.move datagram.timestampNs value)
    | _ => none
  | _ => none

def IsDemo (route : DemoRoute) : ServerOp F → Prop
  | .setMode _ _ | .startRecording _ _ _ | .stopRecording _ _ | .schedulerTick _ => True
  | .sceneSynced _ | .activate _ | .closeSession _ _ => True
  | .ingestMotionDatagram datagram =>
    ∃ timestampNs value,
      datagram = ⟨route.sourceDevice, timestampNs, [⟨route.sourceOutput, .vec3f value⟩]⟩
  | _ => False

def IsQuiet : RuntimeOp F → Prop
  | .setMode _ | .schedulerTick _ | .registerDeviceConnected _ | .registerDeviceDisconnected _ _ =>
    True
  | _ => False

/--
The tick releases no mapping: the device of each is connected, or has been heard of lately.
-/
def InLease (runtime : RuntimeCore F) : RuntimeOp F → Prop
  | .schedulerTick nowNs =>
    ∀ m ∈ runtime.mappings.values, m.sourceDevice ∈ runtime.connectedDevices
      ∨ nowNs - m.lastHeartbeatNs < runtime.lease.timeoutNs
  | _ => True

instance (runtime : RuntimeCore F) : DecidablePred (InLease runtime) := by
  intro op
  unfold InLease
  cases op <;> infer_instance

def KeepsLease (server : ServerState F) (op : ServerOp F) : Prop :=
  Run.AllSteps RuntimeCore.step InLease server.runtime (server.runtimeOps op)

instance (server : ServerState F) : DecidablePred (KeepsLease server) := fun op =>
  inferInstanceAs (Decidable
    (Run.AllSteps RuntimeCore.step InLease server.runtime (server.runtimeOps op)))

section Calls

variable {route : DemoRoute} {target : Target} {runtime : RuntimeCore F}

theorem nextValue_demo (name : String) (position value : Vector F.f32 3)
    : RuntimeCore.nextValue (demoAttribute name position) (.vec3f value) none
        =
      .ok (.vec3f (placed value)) :=
  rfl

theorem Wires.beat {m : Mapping} (h : Wires route target m) (deviceId : Uuid) (nowNs : Nat)
    : Wires route target (m.beat deviceId nowNs) := by
  unfold Mapping.beat
  split
  . exact ⟨h.sourceDevice, h.sourceOutput, h.target, h.componentMask⟩
  . exact h

theorem Wires.disconnect {m : Mapping} (h : Wires route target m) (deviceId : Uuid) (nowNs : Nat)
    : Wires route target (m.disconnect deviceId nowNs) := by
  unfold Mapping.disconnect
  split
  . exact ⟨h.sourceDevice, h.sourceOutput, h.target, h.componentMask⟩
  . exact h

theorem Wires.expire {m : Mapping} (h : Wires route target m) (connected : Finset Uuid)
    (lease : LeaseConfig) (nowNs : Nat)
    : Wires route target (m.expire connected lease nowNs) := by
  unfold Mapping.expire
  split
  . exact h
  . split
    . exact ⟨h.sourceDevice, h.sourceOutput, h.target, h.componentMask⟩
    . exact h

theorem Wired.mapValues (h : Wired route target runtime) {runtime' : RuntimeCore F}
    {f : Mapping → Mapping} (hf : ∀ m, Wires route target m → Wires route target (f m))
    (hid : ∀ m, (f m).id = m.id) (hmappings : runtime'.mappings = runtime.mappings.mapValues f hid)
    (hscene : runtime'.activeScene = runtime.activeScene)
    : Wired route target runtime' := by
  obtain ⟨m, hm, hwires⟩ := h.mapping
  refine ⟨hscene.trans h.scene, f m, ?_, hf m hwires⟩
  rw [hmappings, MappingTable.values_mapValues, hm, List.map_singleton]

theorem Wired.applyUpdates (h : Wired route target runtime) (deviceId : Uuid)
    (updates : List (AttributeUpdate F)) (nowNs : Nat)
    : Wired route target (runtime.applyUpdates deviceId updates nowNs).2 := by
  rw [RuntimeCore.applyUpdates_frame]
  exact h.mapValues (fun m hm => hm.beat deviceId nowNs) (Mapping.beat_id deviceId nowNs) rfl rfl

theorem Wired.quiet (h : Wired route target runtime) {op : RuntimeOp F} (hop : IsQuiet op)
    : Wired route target (runtime.step op) := by
  cases op with
  | setMode mode =>
    simp only [RuntimeCore.step, RuntimeCore.setMode]
    split
    . exact h
    . exact ⟨h.scene, h.mapping⟩
  | schedulerTick nowNs =>
    exact h.mapValues (fun m hm => hm.expire runtime.connectedDevices runtime.lease nowNs)
      (Mapping.expire_id runtime.connectedDevices runtime.lease nowNs) rfl rfl
  | registerDeviceConnected deviceId => exact ⟨h.scene, h.mapping⟩
  | registerDeviceDisconnected deviceId nowNs =>
    exact h.mapValues (fun m hm => hm.disconnect deviceId nowNs)
      (Mapping.disconnect_id deviceId nowNs) rfl rfl
  | _ => cases hop

theorem Leased.mapValues (h : Leased runtime) {runtime' : RuntimeCore F} {f : Mapping → Mapping}
    (hf : ∀ m ∈ runtime.mappings.values, (f m).state = m.state) (hid : ∀ m, (f m).id = m.id)
    (hmappings : runtime'.mappings = runtime.mappings.mapValues f hid)
    : Leased runtime' := by
  intro m' hm'
  rw [hmappings, MappingTable.values_mapValues] at hm'
  obtain ⟨m, hm, rfl⟩ := List.mem_map.mp hm'
  rw [hf m hm]
  exact h m hm

theorem Leased.applyUpdates (h : Leased runtime) (deviceId : Uuid)
    (updates : List (AttributeUpdate F)) (nowNs : Nat)
    : Leased (runtime.applyUpdates deviceId updates nowNs).2 := by
  rw [RuntimeCore.applyUpdates_frame]
  exact h.mapValues (fun m _ => (m.beat_keeps deviceId nowNs).1) (Mapping.beat_id deviceId nowNs) rfl

theorem Leased.quiet (h : Leased runtime) {op : RuntimeOp F} (hop : IsQuiet op)
    (hlease : InLease runtime op)
    : Leased (runtime.step op) := by
  cases op with
  | setMode mode =>
    simp only [RuntimeCore.step, RuntimeCore.setMode]
    split <;> exact h
  | schedulerTick nowNs =>
    refine h.mapValues (fun m hm => ?_)
      (Mapping.expire_id runtime.connectedDevices runtime.lease nowNs) rfl
    have hkept : ¬ (m.sourceDevice ∉ runtime.connectedDevices
        ∧ nowNs - m.lastHeartbeatNs ≥ runtime.lease.timeoutNs) := by
      rintro ⟨hgone, hlate⟩
      exact (hlease m hm).elim hgone (Nat.not_lt.mpr hlate)
    simp [Mapping.expire, h m hm, hkept]
  | registerDeviceConnected deviceId => exact h
  | registerDeviceDisconnected deviceId nowNs =>
    refine h.mapValues (fun m _ => ?_) (Mapping.disconnect_id deviceId nowNs) rfl
    unfold Mapping.disconnect
    split <;> rfl
  | _ => cases hop

theorem wired_run_quiet (h : Wired route target runtime) {ops : List (RuntimeOp F)}
    (hops : ∀ op ∈ ops, IsQuiet op)
    : Wired route target (Run.run RuntimeCore.step runtime ops)
        ∧ (Run.run RuntimeCore.step runtime ops).attributeAt target = runtime.attributeAt target := by
  induction ops generalizing runtime with
  | nil => exact ⟨h, rfl⟩
  | cons op ops ih =>
    have hop := hops op List.mem_cons_self
    have hattr : (runtime.step op).attributeAt target = runtime.attributeAt target := by
      apply RuntimeCore.attributeAt_step
      cases op <;> first | rfl | cases hop
    obtain ⟨hwired, hlater⟩ := ih (h.quiet hop) fun op hop => hops op (List.mem_cons_of_mem _ hop)
    exact ⟨hwired, hlater.trans hattr⟩

theorem leased_run_quiet (h : Leased runtime) {ops : List (RuntimeOp F)}
    (hops : ∀ op ∈ ops, IsQuiet op) (hlease : Run.AllSteps RuntimeCore.step InLease runtime ops)
    : Leased (Run.run RuntimeCore.step runtime ops) :=
  Run.run_invariant (P := Leased) (fun _ _ h hop => h.quiet hop.1 hop.2) h
    ((Run.allSteps_of_forall _ hops).and _ hlease)

theorem Wired.of_route (h : Wired route target runtime) {m : Mapping}
    (hroute : runtime.route route.sourceDevice target.scene route.sourceOutput = some m)
    : Wires route target m := by
  obtain ⟨m', hvalues, hwires⟩ := h.mapping
  have hmem := (RuntimeCore.route_spec hroute).1
  rw [hvalues] at hmem
  rw [List.mem_singleton.mp hmem]
  exact hwires

theorem Wired.isSome_route (h : Wired route target runtime) (hleased : Leased runtime)
    : (runtime.route route.sourceDevice target.scene route.sourceOutput).isSome = true := by
  obtain ⟨m, hvalues, hwires⟩ := h.mapping
  have hfirst : runtime.mappings.values = [] ++ m :: [] := hvalues
  have hactive : m.state = .active := hleased m (by rw [hvalues]; exact List.mem_singleton_self m)
  rw [RuntimeCore.route_eq_some_of_first hfirst]
  . rfl
  . refine ⟨hactive, hwires.sourceDevice, ?_, congrArg Target.scene hwires.target⟩
    simp [hwires.sourceOutput, sourceOutputMatches]
  . intro m' hm'
    cases hm'

theorem Wired.move (h : Wired route target runtime) {position : Vector F.f32 3}
    (hattr : runtime.attributeAt target = some (demoAttribute target.attr position)) {m : Mapping}
    (hroute : runtime.route route.sourceDevice target.scene route.sourceOutput = some m)
    (value : Vector F.f32 3) (nowNs : Nat)
    : let applied := runtime.applyUpdates route.sourceDevice [⟨route.sourceOutput, .vec3f value⟩] nowNs
      applied.1.isOk = true
        ∧ applied.2.attributeAt target = some (demoAttribute target.attr
            (if runtime.mode = .idle then position else placed value)) := by
  obtain ⟨-, -, htarget, hmask⟩ := h.of_route hroute
  have haccepts : ∀ update ∈ [(⟨route.sourceOutput, .vec3f value⟩ : AttributeUpdate F)],
      runtime.accepts route.sourceDevice target.scene update = true := by
    intro update hupdate
    rw [List.mem_singleton.mp hupdate]
    simp only [RuntimeCore.accepts, hroute, htarget, hattr, hmask, nextValue_demo]
    rfl
  constructor
  . rw [RuntimeCore.isOk_applyUpdates h.scene]
    exact .inr (List.all_eq_true.mpr haccepts)
  . by_cases hidle : runtime.mode = .idle
    . rw [RuntimeCore.applyUpdates_of_idle hidle, if_pos hidle]
      exact hattr
    . rw [RuntimeCore.attributeAt_applyUpdates_of_accepts hidle h.scene haccepts, hattr,
        if_neg hidle]
      simp only [Option.map_some, RuntimeCore.settle, List.foldl_cons, List.foldl_nil,
        RuntimeCore.settleOne, hroute, htarget, hmask, nextValue_demo]
      rfl

end Calls

section Steps

variable {route : DemoRoute} {target : Target} {server : ServerState F} {stage : DemoStage F}

theorem Wired.frameOf? (h : Wired route target server.runtime) {position : Vector F.f32 3}
    (hattr : server.runtime.attributeAt target = some (demoAttribute target.attr position))
    (timestampNs : Nat) (value : Vector F.f32 3)
    : server.frameOf? route.sourceDevice [⟨route.sourceOutput, .vec3f value⟩] timestampNs
        =
      if server.activeRecording.isSome
          && (server.runtime.route route.sourceDevice target.scene route.sourceOutput).isSome then
        some (demoFrame target (timestampNs, server.runtime.mode,
          if server.runtime.mode = .idle then position else placed value))
      else
        none := by
  split
  . next hsome =>
    obtain ⟨hrecording, hrouted⟩ := Bool.and_eq_true_iff.mp hsome
    obtain ⟨m, hroute⟩ := Option.isSome_iff_exists.mp hrouted
    obtain ⟨hok, hlater⟩ := h.move hattr hroute value timestampNs
    obtain ⟨-, -, htarget, -⟩ := h.of_route hroute
    rw [ServerState.frameOf?_eq_some_iff]
    refine ⟨hrecording, hok, rfl, rfl, _, h.scene, .cons ?_ .nil⟩
    refine ⟨m, hroute, ?_, ?_, ?_⟩
    . rw [← htarget]; rfl
    . rw [← htarget]; rfl
    . rw [htarget, RuntimeCore.currentAt, hlater]
      rfl
  . next hnone =>
    cases hframe : server.frameOf? route.sourceDevice [⟨route.sourceOutput, .vec3f value⟩]
        timestampNs with
    | none => rfl
    | some frame =>
      obtain ⟨hrecording, -, -, -, scene, hscene, hentries⟩ :=
        ServerState.frameOf?_eq_some_iff.mp hframe
      rw [h.scene, Option.some.injEq] at hscene
      subst hscene
      obtain ⟨entry, -, ⟨m, hroute, -⟩, -⟩ := List.forall₂_cons_left_iff.mp hentries
      exact absurd (Bool.and_eq_true_iff.mpr ⟨hrecording, by rw [hroute]; rfl⟩) hnone

theorem Shows.quiet (h : Shows route target server stage) {op : ServerOp F} {stage' : DemoStage F}
    (hops : ∀ runtimeOp ∈ server.runtimeOps op, IsQuiet runtimeOp) (hlease : KeepsLease server op)
    (hmode : server.modeAfter op = stage'.mode) (hposition : stage'.position = stage.position)
    (htake : server.heldAfter op
      = stage'.take.map fun frames => frames.map (demoFrame target))
    : Shows route target (server.step op) stage' := by
  obtain ⟨-, hruntime, hheld⟩ := server.step_frame op
  obtain ⟨hwired, hattr⟩ := wired_run_quiet h.wired hops
  have hleased := leased_run_quiet h.leased hops hlease
  rw [← hruntime] at hwired hattr hleased
  refine ⟨hwired, hleased, (server.step_mode op).trans hmode, ?_, hheld.trans htake⟩
  rw [hattr, h.position, hposition]

theorem Shows.isSome_take (h : Shows route target server stage)
    : server.activeRecording.isSome = stage.take.isSome := by
  rw [← ServerState.isSome_heldFrames, h.take, Option.isSome_map]

theorem Shows.move (h : Shows route target server stage) (timestampNs : Nat)
    (value : Vector F.f32 3)
    : Shows route target
        (server.step (.ingestMotionDatagram
          ⟨route.sourceDevice, timestampNs, [⟨route.sourceOutput, .vec3f value⟩]⟩))
        (stage.step (.move timestampNs value)) := by
  have hrouted := h.wired.isSome_route h.leased
  obtain ⟨m, hroute⟩ := Option.isSome_iff_exists.mp hrouted
  obtain ⟨-, hattr⟩ := h.wired.move h.position hroute value timestampNs
  rw [h.mode] at hattr
  obtain ⟨-, hruntime, hheld⟩ := server.step_frame (.ingestMotionDatagram
    ⟨route.sourceDevice, timestampNs, [⟨route.sourceOutput, .vec3f value⟩]⟩)
  refine ⟨?_, ?_, ?_, ?_, ?_⟩
  . rw [hruntime]
    exact h.wired.applyUpdates route.sourceDevice _ timestampNs
  . rw [hruntime]
    exact h.leased.applyUpdates route.sourceDevice _ timestampNs
  . rw [ServerState.step_mode]
    exact h.mode
  . rw [hruntime]
    exact hattr
  . rw [hheld]
    simp only [ServerState.heldAfter, ServerState.pushedFrames, h.wired.frameOf? h.position,
      hrouted, Bool.and_true, h.isSome_take, h.mode, h.take, DemoStage.step]
    cases stage.take with
    | none => rfl
    | some frames => simp

theorem shows_step (h : Shows route target server stage) {op : ServerOp F} (hop : IsDemo route op)
    (hlease : KeepsLease server op)
    : Shows route target (server.step op) (Run.run DemoStage.step stage (asDemo op).toList) := by
  cases op with
  | setMode mode nowNs =>
    refine h.quiet (by simp [ServerState.runtimeOps, IsQuiet]) hlease ?_ ?_ ?_
    . simp only [ServerState.modeAfter, h.mode, asDemo, Option.toList_some, Run.run_cons,
        Run.run_nil, DemoStage.step]
      split <;> rfl
    . simp only [asDemo, Option.toList_some, Run.run_cons, Run.run_nil, DemoStage.step]
      split <;> rfl
    . rw [ServerState.heldAfter_eq_heldFrames rfl (by simp) (by simp), h.take]
      simp only [asDemo, Option.toList_some, Run.run_cons, Run.run_nil, DemoStage.step]
      split <;> rfl
  | startRecording path nowNs id =>
    refine h.quiet ?_ hlease rfl rfl ?_
    . simp only [ServerState.runtimeOps]
      split <;> simp [IsQuiet]
    . simp [ServerState.heldAfter, h.wired.scene, asDemo, DemoStage.step]
  | stopRecording nowNs written =>
    refine h.quiet ?_ hlease ?_ rfl rfl
    . simp only [ServerState.runtimeOps]
      split <;> simp [IsQuiet]
    . simp [ServerState.modeAfter, h.isSome_take, h.mode, asDemo, DemoStage.step]
  | schedulerTick nowNs =>
    refine h.quiet ?_ hlease h.mode rfl ?_
    . simp only [ServerState.runtimeOps]
      split <;> simp [IsQuiet]
    . rw [ServerState.heldAfter_eq_heldFrames rfl (by simp) (by simp), h.take]
      rfl
  | sceneSynced deviceId | activate deviceId | closeSession deviceId nowNs =>
    refine h.quiet (by simp [ServerState.runtimeOps, IsQuiet]) hlease h.mode rfl ?_
    rw [ServerState.heldAfter_eq_heldFrames rfl (by simp) (by simp), h.take]
    rfl
  | ingestMotionDatagram datagram =>
    obtain ⟨timestampNs, value, rfl⟩ := hop
    exact h.move timestampNs value
  | _ => cases hop

theorem shows_run (h : Shows route target server stage) {ops : List (ServerOp F)}
    (hops : ∀ op ∈ ops, IsDemo route op)
    (hlease : Run.AllSteps ServerState.step KeepsLease server ops)
    : Shows route target (Run.run ServerState.step server ops)
        (Run.run DemoStage.step stage (ops.filterMap asDemo)) := by
  induction ops generalizing server stage with
  | nil => exact h
  | cons op ops ih =>
    have hlater := ih (shows_step h (hops op List.mem_cons_self) hlease.1)
      (fun op hop => hops op (List.mem_cons_of_mem _ hop)) hlease.2
    rw [← Run.run_append] at hlater
    rw [Run.run_cons, List.filterMap_cons]
    cases hmeans : asDemo op <;> simpa [hmeans] using hlater

end Steps

end Simulate

end MotionStage
