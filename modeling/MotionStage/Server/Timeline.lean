import MotionStage.Core.Graph
import MotionStage.Data.Journal
import MotionStage.Server.Recorder

/-!
This module contains the timeline of a recording: what its markers say about the mode and about the
mapping graph, and when that is what the runtime did.
-/

namespace MotionStage

variable {F : Floats}

open RuntimeCore (switchScene switchRequest)

def RecordingMarker.modes? : RecordingMarker → Option (Mode × Mode)
  | .modeTransition _ fromMode toMode => some (fromMode, toMode)
  | _ => none

def modeChanges (markers : List RecordingMarker) : List (Mode × Mode) :=
  markers.filterMap RecordingMarker.modes?

theorem modeChanges_append (markers markers' : List RecordingMarker)
    : modeChanges (markers ++ markers') = modeChanges markers ++ modeChanges markers' :=
  List.filterMap_append

/--
The transitions start with one into recording mode, end with one into live mode, and each starts
where the one before it has ended.
-/
def ModePath (changes : List (Mode × Mode)) : Prop :=
  (changes.head?.map Prod.snd = some .recording ∧ changes.getLast?.map Prod.snd = some .live)
    ∧ changes.IsChain fun a b => a.2 = b.1

def Leads : Mode → List (Mode × Mode) → Mode → Prop
  | a, [], b => a = b
  | a, change :: changes, b => change.1 = a ∧ Leads change.2 changes b

theorem Leads.append {a b c : Mode} {changes changes' : List (Mode × Mode)}
    (h : Leads a changes b) (h' : Leads b changes' c)
    : Leads a (changes ++ changes') c := by
  induction changes generalizing a with
  | nil =>
    cases h
    exact h'
  | cons change changes ih => exact ⟨h.1, ih h.2⟩

theorem isChain_iff_of_leads {a b x : Mode} {last : Mode × Mode} {changes : List (Mode × Mode)}
    (h : Leads a changes b)
    : ((x, a) :: (changes ++ [last])).IsChain (fun a b => a.2 = b.1) ↔ b = last.1 := by
  induction changes generalizing a x with
  | nil =>
    cases h
    simp
  | cons change changes ih =>
    obtain ⟨rfl, hrest⟩ := h
    obtain ⟨fromMode, toMode⟩ := change
    rw [List.cons_append, List.isChain_cons_cons, ih hrest]
    simp

theorem modePath_iff_of_leads {x b : Mode} {changes : List (Mode × Mode)}
    (h : Leads .recording changes b)
    : ModePath ((x, .recording) :: (changes ++ [(.recording, .live)])) ↔ b = .recording := by
  unfold ModePath
  rw [isChain_iff_of_leads h]
  simp [List.getLast?_cons]

namespace ServerState

def modesAround (self : ServerState F) (op : ServerOp F) : List (Mode × Mode) :=
  (modeChanges (self.pushedMarkers op)).map fun _ =>
    (self.runtime.mode, (self.step op).runtime.mode)

theorem modeChanges_pushedMarkers {self : ServerState F} {op : ServerOp F}
    (hop : ∀ mode nowNs, op ≠ .setMode mode nowNs)
    : modeChanges (self.pushedMarkers op) = [] := by
  cases op with
  | setMode mode nowNs => exact absurd rfl (hop mode nowNs)
  | createMapping req nowNs id =>
    simp only [pushedMarkers]
    split
    . rfl
    . next mappingId runtime _ => cases runtime.mappings.get? mappingId <;> rfl
  | updateMapping mappingId req nowNs =>
    simp only [pushedMarkers]
    split
    . rfl
    . next runtime _ => cases runtime.mappings.get? mappingId <;> rfl
  | removeMapping mappingId nowNs =>
    simp only [pushedMarkers]
    split <;> rfl
  | setMappingLock mappingId lock nowNs =>
    simp only [pushedMarkers]
    split <;> rfl
  | _ => rfl

theorem modeChanges_step (self : ServerState F) {op : ServerOp F} (hop : DuringTake op)
    : modeChanges (self.pushedMarkers op) = self.modesAround op
        ∧ Leads self.runtime.mode (self.modesAround op) (self.step op).runtime.mode := by
  unfold modesAround
  by_cases hset : ∃ mode nowNs, op = .setMode mode nowNs
  . obtain ⟨mode, nowNs, rfl⟩ := hset
    rw [step_mode]
    simp only [modeAfter, pushedMarkers, RuntimeCore.setMode]
    by_cases hvalid : RuntimeCore.validModeTransition self.runtime.mode mode = true
    . simp [hvalid, Except.isOk, Except.toBool, modeChanges, RecordingMarker.modes?, Leads]
    . simp [hvalid, Except.isOk, Except.toBool, modeChanges, Leads]
  . have hne : ∀ mode nowNs, op ≠ .setMode mode nowNs := fun mode nowNs heq => hset ⟨mode, nowNs, heq⟩
    rw [modeChanges_pushedMarkers hne, step_mode]
    refine ⟨rfl, ?_⟩
    cases op with
    | setMode mode nowNs => exact absurd rfl (hne mode nowNs)
    | startRecording path nowNs recordingId => cases hop
    | stopRecording nowNs written => cases hop
    | _ => rfl

theorem modeChanges_run {self : ServerState F} {ops : List (ServerOp F)}
    (hops : Run.AllSteps step (fun _ => DuringTake) self ops)
    : modeChanges (self.runMarkers ops)
          = (Run.log step self ops).flatMap (fun p => p.1.modesAround p.2)
        ∧ Leads self.runtime.mode (modeChanges (self.runMarkers ops))
            (Run.run step self ops).runtime.mode := by
  induction ops generalizing self with
  | nil => exact ⟨rfl, rfl⟩
  | cons op ops ih =>
    obtain ⟨hop, hrest⟩ := hops
    obtain ⟨haround, hleads⟩ := self.modeChanges_step hop
    obtain ⟨hlog, hleads'⟩ := ih hrest
    have hcons : modeChanges (self.runMarkers (op :: ops))
        = self.modesAround op ++ modeChanges ((self.step op).runMarkers ops) := by
      rw [← haround, ← modeChanges_append]
      rfl
    rw [hcons]
    refine ⟨?_, hleads.append hleads'⟩
    rw [hlog]
    rfl

theorem modeChanges_seedMarkers (runtime : RuntimeCore F) (nowNs : Nat)
    : modeChanges (seedMarkers runtime nowNs) = [] := by
  simp [modeChanges, seedMarkers, RecordingMarker.modes?]

theorem startMode_eq_iff (self : ServerState F)
    : self.startMode = self.runtime.mode ↔ self.runtime.mode ≠ .idle := by
  unfold startMode
  cases self.runtime.mode <;> simp

theorem modePath_take_iff {self start final : ServerState F} {path : String} {nowNs stopNs : Nat}
    {recordingId id : Uuid} {written : Except String Unit} {manifest : RecordingManifest}
    {ops : List (ServerOp F)}
    (hstart : self.startRecording path nowNs recordingId = (.ok id, start))
    (hops : Run.AllSteps step (fun _ => DuringTake) start ops)
    (hstop : (Run.run step start ops).stopRecording stopNs written = (.ok manifest, final))
    : ∃ writer, (Run.run step start ops).finished? stopNs = some writer
        ∧ (ModePath (modeChanges writer.markers)
            ↔ (Run.run step start ops).runtime.mode = .recording)
        ∧ (ModePath (modeChanges writer.markers)
              ∧ modeChanges writer.markers
                  = (self.runtime.mode, start.runtime.mode)
                      :: ((Run.log step start ops).flatMap (fun p => p.1.modesAround p.2)
                        ++ [((Run.run step start ops).runtime.mode, final.runtime.mode)])
            ↔ (Run.run step start ops).runtime.mode = .recording ∧ self.runtime.mode ≠ .idle) := by
  obtain ⟨hruntime, recording, hrecording, -, hv2, -, hmarkers⟩ := startRecording_eq_ok hstart
  obtain ⟨recording', hrecording', -, hversion, -, hmarkers'⟩ := activeRecording_run hops hrecording
  obtain ⟨hlog, hleads⟩ := modeChanges_run hops
  have hmode : start.runtime.mode = .recording := by rw [hruntime]
  rw [hmode] at hleads
  -- the first transition is marked by the start, the last one by the stop
  have hchanges : modeChanges
      (recording'.writer.pushMarker (.modeTransition stopNs .recording .live)).markers
      = (self.startMode, .recording)
          :: (modeChanges (start.runMarkers ops) ++ [(.recording, .live)]) := by
    have hpush := RecordingWriter.pushMarkers_markers (hversion.trans hv2)
      [.modeTransition stopNs .recording .live]
    refine (congrArg modeChanges hpush).trans ?_
    rw [hmarkers' hv2, hmarkers, modeChanges_append, modeChanges_append, ← List.singleton_append,
      modeChanges_append, modeChanges_seedMarkers]
    rfl
  have hpath := modePath_iff_of_leads (x := self.startMode) hleads
  refine ⟨_, by rw [finished?, hrecording']; rfl, ?_, ?_⟩
  . rw [hchanges]
    exact hpath
  . obtain ⟨-, -, -, hfinal⟩ := stopRecording_eq_ok hstop
    rw [hchanges, hpath, hmode, hfinal, ← hlog]
    simp only [List.cons.injEq, Prod.mk.injEq, and_true, List.append_cancel_left_eq,
      startMode_eq_iff]
    constructor
    . rintro ⟨hrecords, hidle, -⟩
      exact ⟨hrecords, hidle⟩
    . rintro ⟨hrecords, hidle⟩
      exact ⟨hrecords, hidle, hrecords.symm⟩

theorem modePath_run_iff {config : ServerConfig} {ops : List (ServerOp F)} {stopNs : Nat}
    {written : Except String Unit} {manifest : RecordingManifest} {final : ServerState F}
    (hstop : (Run.run step (new config) ops).stopRecording stopNs written = (.ok manifest, final))
    : ∃ (take : Take config ops) (writer : RecordingWriter F),
        (Run.run step (new config) ops).finished? stopNs = some writer
          ∧ (ModePath (modeChanges writer.markers)
              ↔ (Run.run step (new config) ops).runtime.mode = .recording)
          ∧ (ModePath (modeChanges writer.markers)
                ∧ modeChanges writer.markers
                    = (take.opening.runtime.mode, take.start.runtime.mode)
                        :: ((Run.log step take.start take.calls).flatMap
                              (fun p => p.1.modesAround p.2)
                          ++ [((Run.run step (new config) ops).runtime.mode, final.runtime.mode)])
              ↔ (Run.run step (new config) ops).runtime.mode = .recording
                  ∧ take.opening.runtime.mode ≠ .idle) := by
  obtain ⟨take⟩ := Take.nonempty_of_stopRecording hstop
  refine ⟨take, ?_⟩
  rw [take.run_eq] at hstop ⊢
  exact modePath_take_iff take.startRecording_eq (Run.allSteps_of_forall step take.during) hstop

def liveCalls : List (ServerOp Floats.rational) :=
  [.loadScene (switchScene _), .createMapping (switchRequest 7 "left") 1 100, .setMode .live 2,
    .startRecording "take.cmtrk" 3 50, .setMode .live 4]

theorem modePath_run_iff_liveCalls
    : ∃ writer, (Run.run step (new .default) (liveCalls ++ [.setMode .recording 5])).finished? 6
          = some writer
        ∧ ModePath (modeChanges writer.markers) := by
  have hstop : (Run.run step (new .default) (liveCalls ++ [.setMode .recording 5])).stopRecording 6
      (.ok ()) = (.ok _, _) := rfl
  obtain ⟨take, writer, hwriter, hpath, -⟩ := modePath_run_iff hstop
  exact ⟨writer, hwriter, hpath.mpr rfl⟩

/--
The operator has left recording mode before the recording is stopped. The last marker still starts
from recording mode.
-/
theorem modePath_fails
    : ((Run.run step (new .default) liveCalls).stopRecording 5 (.ok ())).1.isOk = true
        ∧ ¬ ∀ writer, (Run.run step (new .default) liveCalls).finished? 5 = some writer
              → ModePath (modeChanges writer.markers) := by
  refine ⟨rfl, ?_⟩
  intro h
  have hpath := (h _ rfl).2
  exact absurd hpath (by decide)

end ServerState

def RecordingMarker.apply (graph : MappingId → Option Wiring)
    : RecordingMarker → MappingId → Option Wiring
  | .mappingCreated _ id sourceDevice sourceOutput scene object attr componentMask =>
    Function.update graph id (some ⟨sourceDevice, sourceOutput, ⟨scene, object, attr⟩, componentMask⟩)
  | .mappingUpdated _ id sourceDevice sourceOutput scene object attr componentMask =>
    fun k =>
      if k = id then
        (graph k).map fun _ => ⟨sourceDevice, sourceOutput, ⟨scene, object, attr⟩, componentMask⟩
      else
        graph k
  | .mappingRemoved _ id => Function.update graph id none
  | .modeTransition _ _ _ => graph
  | .mappingLockSet _ _ _ => graph

def applyMarkers (graph : MappingId → Option Wiring) (markers : List RecordingMarker)
    : MappingId → Option Wiring :=
  markers.foldl RecordingMarker.apply graph

namespace ServerState

def GraphAgrees (self : ServerState F) : Prop :=
  ∀ recording ∈ self.activeRecording,
    applyMarkers (fun _ => none) recording.writer.markers = self.runtime.mappings.graph

/--
No mapping leaves the graph unmarked during a recording: no request that is granted finds an active
owner of its target, and no tick finds an active mapping whose device is gone and whose heartbeat is
old.
-/
def KeepsGraph (self : ServerState F) (op : ServerOp F) : Prop :=
  self.activeRecording.isSome = true →
    match op with
    | .createMapping req nowNs id =>
      self.runtime.grants req nowNs = true →
        ∀ owner, self.runtime.findMappingForTarget req.target = some owner → owner.val.id = id
    | .schedulerTick nowNs =>
      self.running = true → ∀ m ∈ self.runtime.mappings.values, m.state = .active →
        m.sourceDevice ∈ self.runtime.connectedDevices
          ∨ self.runtime.heartbeatFresh m nowNs = true
    | _ => True

def rewires : ServerOp F → Bool
  | .createMapping _ _ _ | .updateMapping _ _ _ | .removeMapping _ _ | .schedulerTick _ => true
  | _ => false

theorem rewires_runtimeOps {self : ServerState F} {op : ServerOp F} (hop : rewires op = false)
    : ∀ op' ∈ self.runtimeOps op, op'.rewires = false := by
  cases op with
  | createMapping _ _ _ | updateMapping _ _ _ | removeMapping _ _ | schedulerTick _ => cases hop
  | startRecording path nowNs recordingId =>
    simp only [runtimeOps]
    split <;> simp [RuntimeOp.rewires]
  | stopRecording nowNs written =>
    simp only [runtimeOps]
    split <;> simp [RuntimeOp.rewires]
  | _ => simp [runtimeOps, RuntimeOp.rewires]

theorem graph_step {self : ServerState F} {op : ServerOp F} (hop : rewires op = false)
    : (self.step op).runtime.mappings.graph = self.runtime.mappings.graph := by
  rw [(self.step_frame op).2.1]
  exact RuntimeCore.graph_run (rewires_runtimeOps hop)

theorem applyMarkers_pushedMarkers {self : ServerState F} {op : ServerOp F}
    (hop : rewires op = false) (graph : MappingId → Option Wiring)
    : applyMarkers graph (self.pushedMarkers op) = graph := by
  cases op with
  | createMapping _ _ _ | updateMapping _ _ _ | removeMapping _ _ | schedulerTick _ => cases hop
  | setMode mode nowNs =>
    simp only [pushedMarkers]
    split <;> rfl
  | setMappingLock mappingId lock nowNs =>
    simp only [pushedMarkers]
    split <;> rfl
  | _ => rfl

section Step

variable {self : ServerState F}

theorem graph_createMapping_iff {req : MappingRequest} {nowNs : Nat} {id : MappingId}
    : applyMarkers self.runtime.mappings.graph (self.pushedMarkers (.createMapping req nowNs id))
          = (self.step (.createMapping req nowNs id)).runtime.mappings.graph
        ↔
      (self.runtime.grants req nowNs = true →
        ∀ owner, self.runtime.findMappingForTarget req.target = some owner → owner.val.id = id) := by
  rw [(self.step_frame _).2.1]
  simp only [pushedMarkers, runtimeOps, Run.run_cons, Run.run_nil, RuntimeCore.step]
  cases hgrants : self.runtime.grants req nowNs with
  | false =>
    rcases self.runtime.createMapping_spec req nowNs id with ⟨e, herror⟩ | ⟨table, hcreate, -⟩
    . rw [herror]
      simp [applyMarkers]
    . rw [RuntimeCore.grants_of_createStep hcreate] at hgrants
      cases hgrants
  | true =>
    obtain ⟨table, hcreate, hok⟩ := RuntimeCore.createMapping_of_grants id hgrants
    rw [hok]
    have hget : table.get? id = some (RuntimeCore.newMapping req nowNs id) := by
      cases hcreate <;> exact (MappingTable.get?_insert _ _ _).trans (if_pos rfl)
    simp only [hget, Option.map_some, Option.toList_some, true_imp_iff]
    -- the marker inserts the new mapping
    have hmarker : applyMarkers self.runtime.mappings.graph
        [.mappingCreated nowNs id req.sourceDevice req.sourceOutput req.targetScene req.targetObject
          req.targetAttribute req.componentMask]
        = Function.update self.runtime.mappings.graph id (some req.wiring) := rfl
    refine (Eq.congr_left hmarker).trans ?_
    cases hcreate with
    | free hreq hfree => simp [RuntimeCore.graph_newMapping, hfree]
    | evict owner hreq howner hlock hreclaim =>
      rw [RuntimeCore.graph_evict_iff howner]
      simp [howner]

theorem graph_updateMapping {mappingId : MappingId} {req : MappingRequest} {nowNs : Nat}
    : applyMarkers self.runtime.mappings.graph
          (self.pushedMarkers (.updateMapping mappingId req nowNs))
        =
      (self.step (.updateMapping mappingId req nowNs)).runtime.mappings.graph := by
  rw [(self.step_frame _).2.1]
  simp only [pushedMarkers, runtimeOps, Run.run_cons, Run.run_nil, RuntimeCore.step]
  rcases self.runtime.updateMapping_spec mappingId req nowNs with
    ⟨e, herror⟩ | ⟨m, -, hm, -, hok⟩
  . rw [herror]
    rfl
  . rw [hok]
    dsimp only
    rw [MappingTable.get?_modify, if_pos rfl, hm]
    funext k
    rw [RuntimeCore.graph_retarget]
    rfl

theorem graph_removeMapping {mappingId : MappingId} {nowNs : Nat}
    : applyMarkers self.runtime.mappings.graph (self.pushedMarkers (.removeMapping mappingId nowNs))
        =
      (self.step (.removeMapping mappingId nowNs)).runtime.mappings.graph := by
  rw [(self.step_frame _).2.1]
  simp only [pushedMarkers, runtimeOps, Run.run_cons, Run.run_nil, RuntimeCore.step,
    RuntimeCore.removeMapping]
  split
  . rfl
  . split
    . rfl
    . exact (MappingTable.graph_shiftRemove _ mappingId).symm

theorem graph_schedulerTick_iff {nowNs : Nat}
    : applyMarkers self.runtime.mappings.graph (self.pushedMarkers (.schedulerTick nowNs))
          = (self.step (.schedulerTick nowNs)).runtime.mappings.graph
        ↔
      (self.running = true → ∀ m ∈ self.runtime.mappings.values, m.state = .active →
        m.sourceDevice ∈ self.runtime.connectedDevices
          ∨ self.runtime.heartbeatFresh m nowNs = true) := by
  rw [(self.step_frame _).2.1]
  simp only [runtimeOps]
  cases self.running with
  | false => simp [pushedMarkers, applyMarkers]
  | true =>
    simp only [if_true, true_imp_iff]
    rw [← RuntimeCore.graph_schedulerTick_iff]
    exact eq_comm

theorem graph_step_iff {op : ServerOp F} (hrecording : self.activeRecording.isSome = true)
    : applyMarkers self.runtime.mappings.graph (self.pushedMarkers op)
          = (self.step op).runtime.mappings.graph
        ↔
      self.KeepsGraph op := by
  unfold KeepsGraph
  simp only [hrecording, true_imp_iff]
  cases hop : rewires op with
  | true =>
    cases op with
    | createMapping req nowNs id => exact graph_createMapping_iff
    | updateMapping mappingId req nowNs => exact iff_of_true graph_updateMapping trivial
    | removeMapping mappingId nowNs => exact iff_of_true graph_removeMapping trivial
    | schedulerTick nowNs => exact graph_schedulerTick_iff
    | _ => cases hop
  | false =>
    have hkeeps : applyMarkers self.runtime.mappings.graph (self.pushedMarkers op)
        = (self.step op).runtime.mappings.graph := by
      rw [graph_step hop, applyMarkers_pushedMarkers hop]
    cases op with
    | createMapping _ _ _ | schedulerTick _ => cases hop
    | _ => exact iff_of_true hkeeps trivial

theorem applyMarkers_seedMarkers (runtime : RuntimeCore F) (nowNs : Nat)
    : applyMarkers (fun _ => none) (seedMarkers runtime nowNs) = runtime.mappings.graph := by
  have hjournal : applyMarkers (fun _ => none) (seedMarkers runtime nowNs)
      = Journal.replay (fun _ => none)
          ((runtime.mappings.values.filter fun m => m.state = .active).map
            fun m => (m.id, m.wiring)) := by
    unfold applyMarkers seedMarkers Journal.replay
    rw [List.foldl_map, List.foldl_map]
    rfl
  rw [hjournal]
  funext k
  apply Journal.replay_eq
  . intro entry hentry
    simp only [List.mem_map, List.mem_filter, decide_eq_true_eq] at hentry
    obtain ⟨m, ⟨hm, hactive⟩, rfl⟩ := hentry
    obtain ⟨k, hk⟩ := MappingTable.mem_values.mp hm
    rw [MappingTable.id_of_get? hk]
    simp [MappingTable.graph, hk, Mapping.active?, hactive]
  . cases hgraph : runtime.mappings.graph k with
    | none => exact .inr rfl
    | some wiring =>
      left
      obtain ⟨m, hm, hactive⟩ := Option.bind_eq_some_iff.mp hgraph
      unfold Mapping.active? at hactive
      split at hactive
      . next hstate =>
        simp only [List.map_map, List.mem_map, List.mem_filter, decide_eq_true_eq]
        exact ⟨m, ⟨MappingTable.mem_values.mpr ⟨k, hm⟩, hstate⟩, MappingTable.id_of_get? hm⟩
      . cases hactive

end Step

section Run

variable {self : ServerState F}

def RecordsMarkers (self : ServerState F) : Prop :=
  ∀ recording ∈ self.activeRecording, recording.writer.version = .v2

theorem recordsMarkers_during (h : self.RecordsMarkers) {op : ServerOp F} (hop : DuringTake op)
    : (self.step op).RecordsMarkers := by
  intro recording hrecording
  rw [self.step_activeRecording hop, Option.mem_def, Option.map_eq_some_iff] at hrecording
  obtain ⟨before, hbefore, rfl⟩ := hrecording
  exact (writes_version _ _ before).trans (h before hbefore)

theorem recordsMarkers_step (h : self.RecordsMarkers) (op : ServerOp F)
    : (self.step op).RecordsMarkers := by
  cases op with
  | startRecording path nowNs recordingId =>
    intro recording hrecording
    rcases mem_activeRecording_startRecording hrecording with hbefore | ⟨hv2, -⟩
    . exact h recording hbefore
    . exact hv2
  | stopRecording nowNs written =>
    intro recording hrecording
    rw [activeRecording_stopRecording] at hrecording
    cases hrecording
  | _ => exact recordsMarkers_during h trivial

theorem graphAgrees_during_iff (hmarkers : self.RecordsMarkers) (h : self.GraphAgrees)
    {op : ServerOp F} (hop : DuringTake op)
    : (self.step op).GraphAgrees ↔ self.KeepsGraph op := by
  cases hrecording : self.activeRecording with
  | none =>
    have hnext := self.step_activeRecording hop
    rw [hrecording] at hnext
    refine iff_of_true ?_ ?_
    . intro recording hrecording'
      rw [hnext] at hrecording'
      cases hrecording'
    . intro hsome
      rw [hrecording] at hsome
      cases hsome
  | some recording =>
    have hnext := self.step_activeRecording hop
    rw [hrecording] at hnext
    rw [← graph_step_iff (by rw [hrecording]; rfl), ← h recording hrecording]
    have hreplay : applyMarkers (fun _ => none)
        (writes (self.pushedMarkers op) (self.pushedFrames op) recording).writer.markers
        = applyMarkers (applyMarkers (fun _ => none) recording.writer.markers)
            (self.pushedMarkers op) := by
      rw [writes_markers _ _ (hmarkers recording hrecording)]
      exact List.foldl_append
    rw [← hreplay]
    constructor
    . intro hagrees
      exact hagrees _ hnext
    . intro hagrees recording' hrecording'
      rw [hnext] at hrecording'
      cases hrecording'
      exact hagrees

theorem graphAgrees_step_iff (hmarkers : self.RecordsMarkers) (h : self.GraphAgrees)
    (op : ServerOp F)
    : (self.step op).GraphAgrees ↔ self.KeepsGraph op := by
  cases op with
  | startRecording path nowNs recordingId =>
    refine iff_of_true ?_ fun _ => trivial
    intro recording hrecording
    rcases mem_activeRecording_startRecording hrecording with hbefore | ⟨-, hseeds⟩
    . rw [graph_step rfl]
      exact h recording hbefore
    . rw [hseeds]
      exact applyMarkers_seedMarkers _ nowNs
  | stopRecording nowNs written =>
    refine iff_of_true ?_ fun _ => trivial
    intro recording hrecording
    rw [activeRecording_stopRecording] at hrecording
    cases hrecording
  | _ => exact graphAgrees_during_iff hmarkers h trivial

theorem graphAgrees_run_iff (config : ServerConfig) (ops : List (ServerOp F))
    : Run.AllStates step GraphAgrees (new config) ops
        ↔
      Run.AllSteps step KeepsGraph (new config) ops := by
  -- a recording of the first format would drop its markers, so the format is carried along
  apply Run.allStates_iff_allSteps_of_invariant (I := RecordsMarkers)
  . intro s op hs
    exact recordsMarkers_step hs op
  . intro s op hs hagrees
    exact graphAgrees_step_iff hs hagrees op
  . intro recording hrecording
    cases hrecording
  . intro recording hrecording
    cases hrecording

/--
Two ways out of the graph without a marker: the scheduler releases the mapping of a device that is
gone, and a new mapping takes the place of an old one.
-/
theorem graphAgrees_fails
    : ¬ (Run.run step (new (F := Floats.rational) .default)
          [.setRunning true, .loadScene (switchScene _), .createMapping (switchRequest 7 "left") 1 100,
            .startRecording "take.cmtrk" 3 50, .schedulerTick 5000000000]).GraphAgrees
        ∧
      ¬ (Run.run step (new (F := Floats.rational) .default)
          [.loadScene (switchScene _), .createMapping (switchRequest 7 "left") 1 100,
            .startRecording "take.cmtrk" 3 50, .setMode .live 4,
            .createMapping (switchRequest 8 "left") 60000000000 101]).GraphAgrees := by
  constructor
  . intro h
    have hgraph := congrFun (h _ rfl) 100
    cases hgraph
  . intro h
    have hgraph := congrFun (h _ rfl) 100
    cases hgraph

end Run

end ServerState

end MotionStage
