import Mathlib.Data.List.Find
import MotionStage.Core.Lease
import MotionStage.Core.Writes

/-!
This module contains what stays fixed while the runtime is recording: the mapping table, and with
it the routing of device outputs to attributes.
-/

namespace MotionStage

variable {F : Floats}

/--
The mapping `m'` is `m` with another lease. If it is in another state, it has been released.
-/
def Mapping.Frozen (m m' : Mapping) : Prop :=
  m' = { m with
      state := m'.state
      lastHeartbeatNs := m'.lastHeartbeatNs
      disconnectedAtNs := m'.disconnectedAtNs }
    ∧ (m'.state = m.state ∨ m'.state = .released)

namespace Mapping

theorem Frozen.refl (m : Mapping) : m.Frozen m := ⟨rfl, .inl rfl⟩

theorem Frozen.trans {m m' m'' : Mapping} (h : m.Frozen m') (h' : m'.Frozen m'')
    : m.Frozen m'' := by
  obtain ⟨hm, hstate⟩ := h
  obtain ⟨hm', hstate'⟩ := h'
  constructor
  . rw [hm', hm]
  . rcases hstate' with hsame | hreleased
    . rw [hsame]
      exact hstate
    . exact .inr hreleased

theorem frozen_disconnect (deviceId : Uuid) (nowNs : Nat) (m : Mapping)
    : m.Frozen (m.disconnect deviceId nowNs) := by
  unfold disconnect
  split <;> exact ⟨rfl, .inl rfl⟩

theorem frozen_beat (deviceId : Uuid) (nowNs : Nat) (m : Mapping)
    : m.Frozen (m.beat deviceId nowNs) := by
  unfold beat
  split <;> exact ⟨rfl, .inl rfl⟩

theorem frozen_expire (connected : Finset Uuid) (lease : LeaseConfig) (nowNs : Nat) (m : Mapping)
    : m.Frozen (m.expire connected lease nowNs) := by
  unfold expire
  split
  . exact .refl m
  . split
    . exact ⟨rfl, .inr rfl⟩
    . exact .refl m

end Mapping

namespace RuntimeCore

def routing (self : RuntimeCore F) (deviceId : Uuid) (output : String)
    : Option (Target × Option (List Nat)) :=
  self.activeScene.bind fun activeScene =>
    (self.route deviceId activeScene output).map fun m => (m.target, m.componentMask)

def releases (self : RuntimeCore F) (nowNs : Nat) (m : Mapping) : Bool :=
  m.state = .active && m.sourceDevice ∉ self.connectedDevices && !self.heartbeatFresh m nowNs

def KeepsRouting (self : RuntimeCore F) : RuntimeOp F → Prop
  | .setActiveScene sceneId => self.scenes.contains sceneId = true → self.activeScene = some sceneId
  | .schedulerTick nowNs => ∀ m ∈ self.mappings.values, self.releases nowNs m = false
  | _ => True

theorem expire_state_of_not_releases {self : RuntimeCore F} {nowNs : Nat} {m : Mapping}
    (h : self.releases nowNs m = false)
    : (m.expire self.connectedDevices self.lease nowNs).state = m.state := by
  simp only [releases, heartbeatFresh, Bool.and_eq_false_imp, decide_eq_true_eq,
    Bool.not_eq_false', Bool.and_eq_true, and_imp] at h
  unfold Mapping.expire
  split
  . rfl
  . next hactive =>
    rw [if_neg]
    rintro ⟨hgone, hold⟩
    have := h (by simpa using hactive) hgone
    omega

/--
What one operation does to the mapping table while recording. The lock, update, create and remove
requests are denied.
-/
theorem values_step_of_recording {s : RuntimeCore F} (hmode : s.mode = .recording)
    (op : RuntimeOp F)
    : ∃ f : Mapping → Mapping, (s.step op).mappings.values = s.mappings.values.map f
        ∧ (∀ m : Mapping, m.Frozen (f m))
        ∧ (s.KeepsRouting op → ∀ m ∈ s.mappings.values, (f m).state = m.state) := by
  by_cases hedits : op.editsMappings = true
  . rw [editsMappings_of_recording hedits hmode]
    exact ⟨id, by simp, .refl, fun _ _ _ => rfl⟩
  . have hstep := tableStep_step s op
    generalize (s.step op).mappings = table at hstep ⊢
    cases hstep with
    | keep => exact ⟨id, by simp, .refl, fun _ _ _ => rfl⟩
    | disconnect deviceId nowNs =>
      refine ⟨_, MappingTable.values_mapValues _ _ (Mapping.disconnect_id deviceId nowNs),
        Mapping.frozen_disconnect deviceId nowNs, ?_⟩
      intro _ m _
      exact (m.disconnect_keeps deviceId nowNs).1
    | beat _ deviceId nowNs =>
      refine ⟨_, MappingTable.values_mapValues _ _ (Mapping.beat_id deviceId nowNs),
        Mapping.frozen_beat deviceId nowNs, ?_⟩
      intro _ m _
      exact (m.beat_keeps deviceId nowNs).1
    | expire nowNs =>
      refine ⟨_, MappingTable.values_mapValues _ _ (Mapping.expire_id _ _ nowNs),
        Mapping.frozen_expire _ _ nowNs, ?_⟩
      exact fun hkeeps m hm => expire_state_of_not_releases (hkeeps m hm)
    | lock | remove | retarget | create => exact absurd rfl hedits

theorem activeScene_step {s : RuntimeCore F} {op : RuntimeOp F} (hscene : s.activeScene ≠ none)
    (hkeeps : s.KeepsRouting op)
    : (s.step op).activeScene = s.activeScene := by
  rw [step_activeScene]
  cases op with
  | loadScene scene =>
    simp only [activeSceneAfter]
    rw [if_neg]
    simpa using hscene
  | setActiveScene sceneId =>
    simp only [activeSceneAfter]
    split
    . next h => exact (hkeeps h).symm
    . rfl
  | _ => rfl

theorem routing_congr {s s' : RuntimeCore F} {f : Mapping → Mapping}
    (hvalues : s'.mappings.values = s.mappings.values.map f) (hfrozen : ∀ m : Mapping, m.Frozen (f m))
    (hstate : ∀ m ∈ s.mappings.values, (f m).state = m.state)
    (hscene : s'.activeScene = s.activeScene)
    : s'.routing = s.routing := by
  funext deviceId output
  unfold routing
  rw [hscene]
  cases s.activeScene with
  | none => rfl
  | some activeScene =>
    -- the search sees nothing of the lease of a mapping
    have hsame : ∀ m ∈ s.mappings.values,
        ((f m).state == .active && (f m).sourceDevice == deviceId
          && sourceOutputMatches (f m).sourceOutput deviceId output
          && (f m).targetScene == activeScene)
          =
        (m.state == .active && m.sourceDevice == deviceId
          && sourceOutputMatches m.sourceOutput deviceId output
          && m.targetScene == activeScene) := by
      intro m hm
      rw [(hfrozen m).1, hstate m hm]
    simp only [Option.bind_some, route_eq, hvalues, List.find?_map, Option.map_map,
      Function.comp_def]
    rw [List.find?_congr hsame]
    congr 1
    funext m
    rw [(hfrozen m).1]
    rfl

/--
Before the first scene is loaded there is nothing to route to.
-/
def Unstaged (s : RuntimeCore F) : Prop :=
  s.activeScene = none →
    (∀ sceneId, s.scenes.get? sceneId = none) ∧ ∀ id, s.mappings.get? id = none

theorem unstaged_step {s : RuntimeCore F} (op : RuntimeOp F) (h : s.Unstaged)
    : (s.step op).Unstaged := by
  intro hscene
  rw [step_activeScene] at hscene
  have hnone : s.activeScene = none := by
    cases op with
    | loadScene scene =>
      simp only [activeSceneAfter] at hscene
      split at hscene
      . cases hscene
      . exact hscene
    | setActiveScene sceneId =>
      simp only [activeSceneAfter] at hscene
      split at hscene
      . cases hscene
      . exact hscene
    | _ => exact hscene
  obtain ⟨hscenes, hmappings⟩ := h hnone
  constructor
  . intro sceneId
    cases op with
    | loadScene scene => simp [activeSceneAfter, hnone] at hscene
    | applyUpdates deviceId updates nowNs =>
      simp only [step]
      by_cases hmode : s.mode = .idle
      . rw [applyUpdates_of_idle hmode]
        exact hscenes sceneId
      . rw [applyUpdates_of_noScene hmode hnone]
        exact hscenes sceneId
    | resetSceneToBaseline sceneId' =>
      simp only [step, resetSceneToBaseline, syncScene, hscenes]
    | commitSceneBaseline sceneId' =>
      simp only [step, commitSceneBaseline, syncScene, hscenes]
    | commitObjectBaseline sceneId' objectId =>
      simp only [step, commitObjectBaseline, hscenes]
    | _ =>
      rw [scenes_step rfl]
      exact hscenes sceneId
  . intro id
    -- a request would need a target in a loaded scene
    have hdenied : ∀ req, s.acceptsRequest req ≠ true := by
      intro req
      simp [acceptsRequest, ensureTargetExists, hscenes, Except.isOk, Except.toBool]
    apply Option.eq_none_iff_forall_ne_some.mpr
    intro m' hm'
    cases origin_step hm' with
    | create req nowNs hreq => exact hdenied req hreq
    | keep _ _ hm | disconnect _ _ m hm | beat _ _ _ m _ hm | expire _ m hm | lock _ m hm
    | retarget _ _ m _ hm _ =>
      rw [hmappings] at hm
      cases hm

theorem routing_step {s : RuntimeCore F} {op : RuntimeOp F} (h : s.Unstaged)
    (hmode : s.mode = .recording) (hkeeps : s.KeepsRouting op)
    : (s.step op).routing = s.routing := by
  obtain ⟨f, hvalues, hfrozen, hstate⟩ := values_step_of_recording hmode op
  by_cases hscene : s.activeScene = none
  . have hempty : s.mappings.values = [] := by
      apply List.eq_nil_iff_forall_not_mem.mpr
      intro m hm
      obtain ⟨id, hid⟩ := MappingTable.mem_values.mp hm
      rw [(h hscene).2] at hid
      cases hid
    funext deviceId output
    rw [hempty] at hvalues
    simp only [routing, route_eq, hvalues, hscene]
    cases (s.step op).activeScene <;> rfl
  . exact routing_congr hvalues hfrozen (hstate hkeeps) (activeScene_step hscene hkeeps)

theorem routing_run_of_recording (lease : LeaseConfig) (pre : List (RuntimeOp F))
    {ops : List (RuntimeOp F)}
    (hmode : Run.AllStates step (fun s => s.mode = .recording) (Run.run step (new lease) pre) ops)
    : let s := Run.run step (new lease) pre
      (∃ f : Mapping → Mapping,
          (Run.run step s ops).mappings.values = s.mappings.values.map f
            ∧ ∀ m : Mapping, m.Frozen (f m))
        ∧
      (Run.AllSteps step KeepsRouting s ops → (Run.run step s ops).routing = s.routing) := by
  intro s
  have hunstaged : s.Unstaged := by
    refine Run.run_invariant (P := Unstaged) (fun s op h _ => unstaged_step op h) ?_
      (Run.allSteps_true step pre)
    intro _
    exact ⟨by simp [new], by simp [new]⟩
  constructor
  . refine Run.run_invariant (P := fun s' => ∃ f : Mapping → Mapping,
        s'.mappings.values = s.mappings.values.map f ∧ ∀ m : Mapping, m.Frozen (f m)) ?_
      ⟨id, (List.map_id _).symm, .refl⟩ hmode.allSteps
    rintro s' op ⟨f, hvalues, hfrozen⟩ hmode
    obtain ⟨g, hstep, hfrozen', -⟩ := values_step_of_recording hmode op
    refine ⟨g ∘ f, ?_, ?_⟩
    . rw [hstep, hvalues, List.map_map]
    . intro m
      exact (hfrozen m).trans (hfrozen' (f m))
  . intro hkeeps
    have hrun := Run.run_invariant (P := fun s' => s'.Unstaged ∧ s'.routing = s.routing) (by
        rintro s' op ⟨hunstaged, hrouting⟩ ⟨hmode, hkeeps⟩
        exact ⟨unstaged_step op hunstaged, (routing_step hunstaged hmode hkeeps).trans hrouting⟩)
      ⟨hunstaged, rfl⟩ (hmode.allSteps.and _ hkeeps)
    exact hrun.2

def switchRecording : List (RuntimeOp Floats.rational) :=
  [.loadScene (switchScene _), .loadScene (Scene.new 3 "backstage"), .registerDeviceConnected 7,
    .createMapping (switchRequest 7 "left") 10 100, .setMode .live, .setMode .recording]

theorem routing_run_switchRecording
    : let s := Run.run step (new .default) switchRecording
      let ops := [.createMapping (switchRequest 8 "left") 5000000000 101, .removeMapping 100,
        .schedulerTick 5000000000, .setActiveScene 9]
      Run.AllStates step (fun s => s.mode = .recording) s ops
        ∧
      (Run.run step s ops).routing = s.routing := by
  intro s ops
  have hmode : Run.AllStates step (fun s => s.mode = .recording) s ops := by
    decide
  refine ⟨hmode, (routing_run_of_recording .default switchRecording hmode).2 ?_⟩
  refine ⟨trivial, trivial, ?_, ?_, trivial⟩
  . unfold KeepsRouting
    decide
  . unfold KeepsRouting
    decide

/--
Two ways in which the routing changes while recording: the active scene is switched, and a tick
releases a mapping whose device is gone.
-/
theorem routing_while_recording_moves
    : let s := Run.run step (new .default) switchRecording
      let gone : List (RuntimeOp Floats.rational) :=
        [.registerDeviceDisconnected 7 20, .schedulerTick 5000000000]
      (Run.AllStates step (fun s => s.mode = .recording) s [.setActiveScene 3]
          ∧ (Run.run step s [.setActiveScene 3]).routing 7 "button" ≠ s.routing 7 "button")
        ∧
      (Run.AllStates step (fun s => s.mode = .recording) s gone
          ∧ (Run.run step s gone).routing 7 "button" ≠ s.routing 7 "button") := by
  decide

end RuntimeCore

end MotionStage
