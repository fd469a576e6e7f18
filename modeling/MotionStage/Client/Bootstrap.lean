import MotionStage.Client.DemoStage
import MotionStage.Client.Handshake

/-!
This module contains the start of the embedded simulation: it loads its scene, connects to its own
server and maps its output. Its session need not be active when the output is mapped, since the
handler of the connection has calls left once it has accepted the client.
-/

namespace MotionStage

variable {F : Floats}

namespace Simulate

def demoScene (sceneId : SceneId) (objectId : ObjectId) : Scene F :=
  let object := (SceneObject.new objectId "demo_camera").withAttribute
    (.new "position" (.vec3f origin))
  (Scene.new sceneId "demo_scene").withObject object

/--
The identifiers and the time that the embedded simulation draws at its start.
-/
structure BootstrapInput where
  sceneId : SceneId
  objectId : ObjectId
  mappingId : MappingId
  nowNs : Nat

namespace BootstrapInput

variable (input : BootstrapInput)

def target : Target := ⟨input.sceneId, input.objectId, "position"⟩

def route (sourceDevice : Uuid) (sourceOutput : String) : DemoRoute :=
  ⟨sourceDevice, sourceOutput, some input.target⟩

def request (sourceDevice : Uuid) (sourceOutput : String) : MappingRequest :=
  ⟨sourceDevice, sourceOutput, input.sceneId, input.objectId, "position", none⟩

end BootstrapInput

/--
The calls of the server up to the connection of the client, the ticks apart.
-/
def stagingOps (input : BootstrapInput) : List (ServerOp F) :=
  [.setRunning true, .loadScene (demoScene input.sceneId input.objectId),
    .setActiveScene input.sceneId]

def isTick : ServerOp F → Bool
  | .schedulerTick _ => true
  | _ => false

def Unattended : HandshakeEvent F → Prop
  | .server op => isTick op = true
  | _ => True

/--
`bootstrap_embedded_simulation` from the connection of its client on. There is no result while the
client waits, when it is refused, and when the mapping is.
-/
def bootstrap (l : Handshake F) (sourceDevice : Uuid) (sourceOutput : String)
    (input : BootstrapInput) : Option (ServerState F) :=
  match l.client with
  | .done (.ok _) =>
    match l.connection.server.createMapping (input.request sourceDevice sourceOutput) input.nowNs
        input.mappingId with
    | (.ok _, server) => some server
    | (.error _, _) => none
  | _ => none

/--
The server when `bootstrap_embedded_simulation` returns, with the steps of the client, of the handler
and of the tick in some order, and nobody else there.
-/
def Boots (config : ServerConfig) (sourceDevice : Uuid) (sourceOutput : String)
    (input : BootstrapInput) (server : ServerState F) : Prop :=
  ∃ (before : List (ServerOp F)) (handshake : List (HandshakeEvent F)),
    before.filter (fun op => !isTick op) = stagingOps input
      ∧ (∀ e ∈ handshake, Unattended e)
      ∧ bootstrap
          (Run.run (Handshake.step (.simulated sourceDevice sourceOutput))
            (.start (Run.run ServerState.step (.new config) before)) handshake)
          sourceDevice sourceOutput input
        = some server

structure Vacant (scenes : IndexMap SceneId (Scene F)) (activeScene : Option SceneId)
    (server : ServerState F) : Prop where
  scenes : server.runtime.scenes = scenes
  activeScene : server.runtime.activeScene = activeScene
  mode : server.runtime.mode = .idle
  mappings : server.runtime.mappings = .empty
  recording : server.activeRecording = none

/--
What the handler and the tick do to a runtime without mappings.
-/
def IsPresence : RuntimeOp F → Prop
  | .schedulerTick _ | .registerDeviceConnected _ | .registerDeviceDisconnected _ _ => True
  | _ => False

section Vacant

variable {scenes : IndexMap SceneId (Scene F)} {activeScene : Option SceneId}
  {server : ServerState F}

theorem mapValues_empty {f : Mapping → Mapping} (hid : ∀ m, (f m).id = m.id)
    : MappingTable.empty.mapValues f hid = .empty := by
  rw [MappingTable.mapValues_eq_self_iff]
  intro m hm
  cases hm

def Keeps (runtime runtime' : RuntimeCore F) : Prop :=
  runtime'.scenes = runtime.scenes ∧ runtime'.activeScene = runtime.activeScene
    ∧ runtime'.mode = runtime.mode ∧ runtime'.mappings = .empty

theorem keeps_run {runtime : RuntimeCore F} (hmappings : runtime.mappings = .empty)
    {ops : List (RuntimeOp F)} (hops : ∀ op ∈ ops, IsPresence op)
    : Keeps runtime (Run.run RuntimeCore.step runtime ops) := by
  refine Run.run_invariant (P := Keeps runtime) (C := fun _ => IsPresence) ?_
    ⟨rfl, rfl, rfl, hmappings⟩ (Run.allSteps_of_forall _ hops)
  rintro later op ⟨hscenes, hactive, hmode, hempty⟩ hop
  cases op with
  | schedulerTick nowNs =>
    refine ⟨hscenes, hactive, hmode, ?_⟩
    simp only [RuntimeCore.step, RuntimeCore.schedulerTick, hempty, mapValues_empty]
  | registerDeviceConnected deviceId => exact ⟨hscenes, hactive, hmode, hempty⟩
  | registerDeviceDisconnected deviceId nowNs =>
    refine ⟨hscenes, hactive, hmode, ?_⟩
    simp only [RuntimeCore.step, RuntimeCore.registerDeviceDisconnected, hempty, mapValues_empty]
  | _ => cases hop

theorem activeRecording_of_none (hnone : server.activeRecording = none) {op : ServerOp F}
    (hop : ServerState.DuringTake op)
    : (server.step op).activeRecording = none := by
  rw [server.step_activeRecording hop, hnone, Option.map_none]

theorem vacant_step (h : Vacant scenes activeScene server) {op : ServerOp F}
    (hop : ServerState.DuringTake op)
    (hops : ∀ runtimeOp ∈ server.runtimeOps op, IsPresence runtimeOp)
    : Vacant scenes activeScene (server.step op) := by
  obtain ⟨hscenes, hactive, hmode, hempty⟩ := keeps_run h.mappings hops
  rw [← (server.step_frame op).2.1] at hscenes hactive hmode hempty
  exact ⟨hscenes.trans h.scenes, hactive.trans h.activeScene, hmode.trans h.mode, hempty,
    activeRecording_of_none h.recording hop⟩

theorem vacant_tick (h : Vacant scenes activeScene server) {op : ServerOp F} (hop : isTick op = true)
    : Vacant scenes activeScene (server.step op) := by
  cases op with
  | schedulerTick nowNs =>
    refine vacant_step h trivial ?_
    simp only [ServerState.runtimeOps]
    split <;> simp [IsPresence]
  | _ => cases hop

theorem vacant_ticks (h : Vacant scenes activeScene server) {ops : List (ServerOp F)}
    (hops : ∀ op ∈ ops, ¬ (!isTick op) = true)
    : Vacant scenes activeScene (Run.run ServerState.step server ops) :=
  Run.run_invariant (P := Vacant scenes activeScene) (C := fun _ op => isTick op = true)
    (fun _ _ h hop => vacant_tick h hop) h
    (Run.allSteps_of_forall _ fun op hop => by simpa using hops op hop)

end Vacant

section Boots

variable {config : ServerConfig} {sourceDevice : Uuid} {sourceOutput : String}
  {input : BootstrapInput} {server : ServerState F}

def demoScenes (input : BootstrapInput) : IndexMap SceneId (Scene F) :=
  IndexMap.empty.insert input.sceneId (demoScene input.sceneId input.objectId)

def Furnished (input : BootstrapInput) : ServerState F → Prop :=
  Vacant (demoScenes input) (some input.sceneId)

theorem furnished_loadScene (h : Vacant IndexMap.empty none server)
    : Furnished input (server.step (.loadScene (demoScene input.sceneId input.objectId))) := by
  obtain ⟨-, hruntime, -⟩ := server.step_frame (.loadScene (demoScene input.sceneId input.objectId))
  have hloaded : (server.step (.loadScene (demoScene input.sceneId input.objectId))).runtime
      = (server.runtime.loadScene (demoScene input.sceneId input.objectId)).2 := hruntime
  refine ⟨?_, ?_, ?_, ?_, activeRecording_of_none h.recording trivial⟩
  . rw [hloaded, RuntimeCore.loadScene, h.scenes]
    rfl
  . rw [hloaded, RuntimeCore.loadScene, h.activeScene]
    rfl
  . rw [hloaded]
    exact h.mode
  . rw [hloaded]
    exact h.mappings

theorem furnished_setActiveScene (h : Furnished input server)
    : Furnished input (server.step (.setActiveScene input.sceneId)) := by
  obtain ⟨-, hruntime, -⟩ := server.step_frame (.setActiveScene input.sceneId)
  have hset : (server.step (.setActiveScene input.sceneId)).runtime = server.runtime := by
    have hcontains : server.runtime.scenes.contains input.sceneId = true := by
      rw [h.scenes]
      simp [demoScenes, IndexMap.contains]
    have hsame : (server.runtime.setActiveScene input.sceneId).2 = server.runtime := by
      simp only [RuntimeCore.setActiveScene, hcontains, Bool.not_true, Bool.false_eq_true,
        ↓reduceIte, ← h.activeScene]
    exact hruntime.trans hsame
  refine ⟨?_, ?_, ?_, ?_, activeRecording_of_none h.recording trivial⟩ <;> rw [hset]
  . exact h.scenes
  . exact h.activeScene
  . exact h.mode
  . exact h.mappings

theorem furnished_before {before : List (ServerOp F)}
    (h : before.filter (fun op => !isTick op) = stagingOps input)
    : Furnished input (Run.run ServerState.step (.new config) before) := by
  obtain ⟨ticks₀, rest₀, rfl, hticks₀, -, h⟩ := List.filter_eq_cons_iff.mp h
  obtain ⟨ticks₁, rest₁, rfl, hticks₁, -, h⟩ := List.filter_eq_cons_iff.mp h
  obtain ⟨ticks₂, ticks₃, rfl, hticks₂, -, h⟩ := List.filter_eq_cons_iff.mp h
  have hticks₃ := List.filter_eq_nil_iff.mp h
  have hnew : Vacant IndexMap.empty none (ServerState.new (F := F) config) :=
    ⟨rfl, rfl, rfl, rfl, rfl⟩
  simp only [Run.run_append, Run.run_cons]
  apply vacant_ticks _ hticks₃
  apply furnished_setActiveScene
  apply vacant_ticks _ hticks₂
  apply furnished_loadScene
  apply vacant_ticks _ hticks₁
  apply vacant_step _ (by trivial) (by simp [ServerState.runtimeOps])
  exact vacant_ticks hnew hticks₀

theorem presence_of_handles {me : ConnectingClient} {phase : PeerPhase F} {taken : Nat}
    {sent : List ControlMessage} {accepted : Option RegisterAccepted}
    (h : Handshake.Handles me phase taken sent accepted) {e : PeerEvent F} {op : ServerOp F}
    (hop : phase.call? e = some op) (server : ServerState F)
    : ServerState.DuringTake op ∧ ∀ runtimeOp ∈ server.runtimeOps op, IsPresence runtimeOp := by
  cases e with
  | run nowNs fresh results =>
    cases h <;> cases hop <;> exact ⟨trivial, by simp [ServerState.runtimeOps, IsPresence]⟩
  | _ => cases h <;> cases hop

theorem furnished_react {me : ConnectingClient} {l : Handshake F} {taken posted read : Nat}
    (hsound : l.Sound me taken posted read) (h : Furnished input l.connection.server)
    (e : PeerEvent F)
    : Furnished input (l.react e).connection.server := by
  change Furnished input (l.connection.peer.phase.step l.connection.server e).2
  rw [PeerPhase.step_server]
  cases hop : l.connection.peer.phase.call? e with
  | none => exact h
  | some op =>
    obtain ⟨hduring, hpresence⟩ := presence_of_handles hsound.handler hop l.connection.server
    exact vacant_step h hduring hpresence

theorem furnished_step {me : ConnectingClient} {l : Handshake F} {taken posted read : Nat}
    (hsound : l.Sound me taken posted read) (h : Furnished input l.connection.server)
    {e : HandshakeEvent F} (he : Unattended e)
    : Furnished input (l.step me e).connection.server := by
  cases e with
  | transport result =>
    cases result with
    | ok u => exact furnished_react hsound h (.transport (.ok ()))
    | error reason => exact furnished_react hsound h (.transport (.error reason))
  | receive =>
    simp only [Handshake.step]
    split
    . exact furnished_react hsound h _
    . exact h
  | lose reason =>
    simp only [Handshake.step]
    split
    . exact furnished_react hsound h _
    . exact h
  | run nowNs fresh results => exact furnished_react hsound h (.run nowNs fresh results)
  | advance =>
    have hconnection : (l.advance me).connection = l.connection := by
      unfold Handshake.advance
      split <;> rfl
    simp only [Handshake.step, hconnection]
    exact h
  | giveUp reason => exact h
  | server op => exact vacant_tick h he

theorem furnished_run {me : ConnectingClient} (h : Furnished input server)
    {handshake : List (HandshakeEvent F)} (hes : ∀ e ∈ handshake, Unattended e)
    : Furnished input (Run.run (Handshake.step me) (.start server) handshake).connection.server := by
  suffices hrun : (∃ taken posted read,
      (Run.run (Handshake.step me) (.start server) handshake).Sound me taken posted read)
        ∧ Furnished input
          (Run.run (Handshake.step me) (.start server) handshake).connection.server from hrun.2
  refine Run.run_invariant (C := fun _ => Unattended)
    (P := fun l : Handshake F =>
      (∃ taken posted read, l.Sound me taken posted read) ∧ Furnished input l.connection.server)
    ?_ ⟨⟨0, 0, 0, Handshake.sound_start server⟩, h⟩ (Run.allSteps_of_forall _ hes)
  rintro l e ⟨hsound, hserver⟩ he
  obtain ⟨taken, posted, read, hnow⟩ := id hsound
  exact ⟨Handshake.sound_step hsound e, furnished_step hnow hserver he⟩

theorem createMapping_furnished (h : Furnished input server) (sourceDevice : Uuid)
    (sourceOutput : String)
    : (server.runtime.createMapping (input.request sourceDevice sourceOutput) input.nowNs
          input.mappingId)
        =
      (.ok input.mappingId,
        { server.runtime with
          mappings := server.runtime.mappings.insert (RuntimeCore.newMapping
            (input.request sourceDevice sourceOutput) input.nowNs input.mappingId) }) := by
  obtain ⟨hscenes, -, hmode, hmappings, -⟩ := h
  generalize server.runtime = runtime at hscenes hmode hmappings
  have htarget : (input.request sourceDevice sourceOutput).target = input.target := rfl
  have hexists : runtime.ensureTargetExists input.target = .ok () := by
    simp [RuntimeCore.ensureTargetExists, hscenes, demoScenes, demoScene, Scene.withObject,
      SceneObject.withAttribute, BootstrapInput.target, SceneObject.new, SceneAttribute.new,
      IndexMap.contains]
  have hfree : runtime.findMappingForTarget input.target = none := by
    unfold RuntimeCore.findMappingForTarget
    rw [hmappings]
    rfl
  have hopen : runtime.mode ≠ .recording := by
    rw [hmode]
    decide
  unfold RuntimeCore.createMapping
  rw [if_neg hopen, htarget, hexists]
  dsimp only
  rw [hfree]
  rfl

theorem attributeAt_furnished (h : Furnished input server)
    : server.runtime.attributeAt input.target = some (demoAttribute "position" origin) := by
  simp [RuntimeCore.attributeAt, h.scenes, demoScenes, demoScene, Scene.withObject,
    SceneObject.withAttribute, BootstrapInput.target, SceneObject.new, SceneAttribute.new,
    demoAttribute]

theorem shows_boots (h : Boots config sourceDevice sourceOutput input server)
    : Shows (input.route sourceDevice sourceOutput) input.target server
        (DemoStage.rest (F := F)) := by
  obtain ⟨before, handshake, hbefore, hhandshake, hreturns⟩ := h
  have hstaged : Furnished input (Run.run ServerState.step (.new config) before) :=
    furnished_before hbefore
  have hfurnished : Furnished input (Run.run (Handshake.step (.simulated sourceDevice sourceOutput))
      (.start (Run.run ServerState.step (.new config) before)) handshake).connection.server :=
    furnished_run hstaged hhandshake
  generalize Run.run (Handshake.step (.simulated sourceDevice sourceOutput)) _ handshake = l
    at hreturns hfurnished
  have hserver : server = l.connection.server.step
      (.createMapping (input.request sourceDevice sourceOutput) input.nowNs input.mappingId) := by
    unfold bootstrap at hreturns
    split at hreturns
    . split at hreturns
      . next hcreate =>
        cases hreturns
        simp [ServerState.step, ServerState.exec, ServerState.void, hcreate]
      . cases hreturns
    . cases hreturns
  have hrecording : (l.connection.server.step (.createMapping
      (input.request sourceDevice sourceOutput) input.nowNs input.mappingId)).activeRecording
        = none :=
    activeRecording_of_none hfurnished.recording trivial
  have hruntime : server.runtime
      = { l.connection.server.runtime with
          mappings := l.connection.server.runtime.mappings.insert (RuntimeCore.newMapping
            (input.request sourceDevice sourceOutput) input.nowNs input.mappingId) } := by
    rw [hserver, (l.connection.server.step_frame _).2.1]
    exact congrArg Prod.snd (createMapping_furnished hfurnished sourceDevice sourceOutput)
  rw [← hserver] at hrecording
  have hvalues : server.runtime.mappings.values = [RuntimeCore.newMapping
      (input.request sourceDevice sourceOutput) input.nowNs input.mappingId] := by
    rw [hruntime]
    dsimp only
    rw [hfurnished.mappings]
    rfl
  refine ⟨⟨?_, _, hvalues, rfl, rfl, rfl, rfl⟩, ?_, ?_, ?_, ?_⟩
  . rw [hruntime]
    exact hfurnished.activeScene
  . intro m hm
    rw [hvalues] at hm
    rw [List.mem_singleton.mp hm]
    rfl
  . rw [hruntime]
    exact hfurnished.mode
  . rw [hruntime]
    exact attributeAt_furnished hfurnished
  . simp [ServerState.heldFrames, hrecording, DemoStage.rest]

end Boots

end Simulate

end MotionStage
