import MotionStage.Core.Lock

/-!
This module contains the mapping graph: what the active mappings connect, and what each operation
does to it.
-/

namespace MotionStage

variable {F : Floats}

def MappingRequest.wiring (req : MappingRequest) : Wiring :=
  ⟨req.sourceDevice, req.sourceOutput, req.target, req.componentMask⟩

def Mapping.active? (m : Mapping) : Option Wiring :=
  if m.state = .active then some m.wiring else none

namespace MappingTable

def graph (table : MappingTable) (id : MappingId) : Option Wiring :=
  (table.get? id).bind Mapping.active?

variable (table : MappingTable)

theorem graph_mapValues {f : Mapping → Mapping} (hf) (h : ∀ m, (f m).active? = m.active?)
    : (table.mapValues f hf).graph = table.graph := by
  funext k
  unfold graph
  rw [get?_mapValues, Option.bind_map]
  simp only [Function.comp_def, h]

theorem graph_modify (id : MappingId) (f : Mapping → Mapping) (hf) (k : MappingId)
    : (table.modify id f hf).graph k
        =
      if k = id then (table.get? k).bind (fun m => (f m).active?) else table.graph k := by
  unfold graph
  rw [get?_modify]
  split
  . rw [Option.bind_map]
    rfl
  . rfl

theorem graph_shiftRemove (id : MappingId)
    : (table.shiftRemove id).graph = Function.update table.graph id none := by
  funext k
  unfold graph
  rw [get?_shiftRemove, Function.update_apply]
  split <;> rfl

theorem graph_insert (m : Mapping)
    : (table.insert m).graph = Function.update table.graph m.id m.active? := by
  funext k
  unfold graph
  rw [get?_insert, Function.update_apply]
  split <;> rfl

end MappingTable

namespace Mapping

theorem active?_disconnect (deviceId : Uuid) (nowNs : Nat) (m : Mapping)
    : (m.disconnect deviceId nowNs).active? = m.active? := by
  obtain ⟨hstate, -⟩ := m.disconnect_keeps deviceId nowNs
  obtain ⟨hwiring, -⟩ := m.disconnect_wiring deviceId nowNs
  unfold active?
  rw [hstate, hwiring]

theorem active?_beat (deviceId : Uuid) (nowNs : Nat) (m : Mapping)
    : (m.beat deviceId nowNs).active? = m.active? := by
  obtain ⟨hstate, -⟩ := m.beat_keeps deviceId nowNs
  obtain ⟨hwiring, -⟩ := m.beat_wiring deviceId nowNs
  unfold active?
  rw [hstate, hwiring]

theorem active?_expire_iff {connected : Finset Uuid} {lease : LeaseConfig} {nowNs : Nat}
    {m : Mapping}
    : (m.expire connected lease nowNs).active? = m.active?
        ↔
      (m.state = .active → m.sourceDevice ∈ connected ∨ nowNs - m.lastHeartbeatNs < lease.timeoutNs) := by
  unfold expire
  split
  . next hstate => simp [hstate]
  . next hstate =>
    simp only [ne_eq, not_not] at hstate
    split
    . next hexpired =>
      simp only [active?, hstate, if_true, reduceCtorEq, if_false, true_imp_iff, false_iff, not_or,
        Nat.not_lt]
      exact hexpired
    . next hkept =>
      simp only [hstate, true_imp_iff, true_iff]
      by_contra hgone
      simp only [not_or, Nat.not_lt] at hgone
      exact hkept hgone

end Mapping

def RuntimeOp.rewires : RuntimeOp F → Bool
  | .createMapping _ _ _ | .updateMapping _ _ _ | .removeMapping _ | .schedulerTick _ => true
  | _ => false

namespace RuntimeCore

open MappingTable

theorem graph_step {s : RuntimeCore F} {op : RuntimeOp F} (hop : op.rewires = false)
    : (s.step op).mappings.graph = s.mappings.graph := by
  generalize htable : (s.step op).mappings = table
  have hstep := tableStep_step s op
  rw [htable] at hstep
  cases hstep with
  | keep => rfl
  | disconnect deviceId nowNs =>
    exact graph_mapValues _ _ (Mapping.active?_disconnect deviceId nowNs)
  | beat _ deviceId nowNs => exact graph_mapValues _ _ (Mapping.active?_beat deviceId nowNs)
  | lock mappingId lock =>
    funext k
    rw [graph_modify]
    split <;> rfl
  | expire nowNs => cases hop
  | remove mappingId => cases hop
  | retarget mappingId req nowNs m => cases hop
  | create req nowNs id table hcreate => cases hop

theorem graph_run {s : RuntimeCore F} {ops : List (RuntimeOp F)}
    (hops : ∀ op ∈ ops, op.rewires = false)
    : (Run.run step s ops).mappings.graph = s.mappings.graph := by
  induction ops generalizing s with
  | nil => rfl
  | cons op ops ih =>
    rw [Run.run_cons, ih fun op' hop' => hops op' (List.mem_cons_of_mem _ hop'),
      graph_step (hops op List.mem_cons_self)]

theorem graph_schedulerTick_iff {s : RuntimeCore F} {nowNs : Nat}
    : (s.schedulerTick nowNs).mappings.graph = s.mappings.graph
        ↔
      ∀ m ∈ s.mappings.values, m.state = .active →
        m.sourceDevice ∈ s.connectedDevices ∨ s.heartbeatFresh m nowNs = true := by
  simp only [heartbeatFresh, decide_eq_true_eq]
  constructor
  . intro h m hm
    obtain ⟨k, hk⟩ := mem_values.mp hm
    have hgraph := congrFun h k
    simp only [schedulerTick, graph, get?_mapValues, hk, Option.map_some, Option.bind_some] at hgraph
    exact Mapping.active?_expire_iff.mp hgraph
  . intro h
    funext k
    simp only [schedulerTick, graph, get?_mapValues]
    cases hk : s.mappings.get? k with
    | none => rfl
    | some m => exact Mapping.active?_expire_iff.mpr (h m (mem_values.mpr ⟨k, hk⟩))

theorem graph_newMapping (table : MappingTable) (req : MappingRequest) (nowNs : Nat)
    (id : MappingId)
    : (table.insert (newMapping req nowNs id)).graph
        =
      Function.update table.graph id (some req.wiring) :=
  graph_insert table (newMapping req nowNs id)

theorem graph_evict_iff {s : RuntimeCore F} {req : MappingRequest} {nowNs : Nat} {id : MappingId}
    {owner : { m : Mapping // s.mappings.get? m.id = some m }}
    (howner : s.findMappingForTarget req.target = some owner)
    : Function.update s.mappings.graph id (some req.wiring)
          = ((s.mappings.shiftRemove owner.val.id).insert (newMapping req nowNs id)).graph
        ↔
      owner.val.id = id := by
  obtain ⟨hactive, -⟩ := findMappingForTarget_eq_some howner
  have hgraph : s.mappings.graph owner.val.id = some owner.val.wiring := by
    simp [graph, owner.property, Mapping.active?, hactive]
  rw [graph_newMapping, graph_shiftRemove]
  constructor
  . intro h
    by_contra hne
    have howner := congrFun h owner.val.id
    rw [Function.update_of_ne hne, Function.update_of_ne hne, Function.update_self, hgraph]
      at howner
    cases howner
  . rintro rfl
    rw [Function.update_idem]

theorem graph_retarget (table : MappingTable) (mappingId : MappingId) (req : MappingRequest)
    (nowNs : Nat) (k : MappingId)
    : (table.modify mappingId (Mapping.retarget req nowNs) (Mapping.retarget_id req nowNs)).graph k
        =
      if k = mappingId then (table.graph k).map (fun _ => req.wiring) else table.graph k := by
  rw [graph_modify]
  split
  . unfold graph
    cases table.get? k with
    | none => rfl
    | some m =>
      simp only [Option.bind_some, Mapping.active?, apply_ite (Option.map fun _ => req.wiring),
        Option.map_some, Option.map_none]
      rfl
  . rfl

end RuntimeCore

end MotionStage
