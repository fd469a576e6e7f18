import MotionStage.Server.Footage

/-!
This module contains the record flag of the attributes. The recorder writes an entry for every
update of a batch, and looks at the flag of no target.
-/

namespace MotionStage

variable {F : Floats}

open RuntimeCore (switchRequest)

namespace RuntimeCore

def recordEnabledAt (self : RuntimeCore F) (t : Target) : Bool :=
  (self.attributeAt t).any SceneAttribute.recordEnabled

theorem evolves_recordEnabled
    : Evolves fun attr attr' : SceneAttribute F => attr'.recordEnabled = attr.recordEnabled where
  refl _ := rfl
  trans hab hbc := hbc.trans hab
  write _ := rfl
  reset attr := by
    simp only [BaselineSync.sync]
    split <;> rfl
  commit attr := by
    simp only [BaselineSync.sync]
    split <;> rfl

theorem recordEnabledAt_step {self : RuntimeCore F} {op : RuntimeOp F}
    (hop : ∀ scene, op ≠ .loadScene scene) (t : Target)
    : (self.step op).recordEnabledAt t = self.recordEnabledAt t := by
  have hrel := evolves_recordEnabled.step hop t (s := self)
  unfold recordEnabledAt
  generalize self.attributeAt t = before at hrel
  generalize (self.step op).attributeAt t = after at hrel
  cases hrel with
  | none => rfl
  | some h => simpa using h

end RuntimeCore

namespace ServerState

variable {self : ServerState F} {op : ServerOp F}

/--
Every frame that the call appends has an entry for each update whose target is enabled for
recording, and no entry for an attribute that is not.
-/
structure HonoursFlags (s : ServerState F) (op : ServerOp F) : Prop where
  enabled : ∀ frame ∈ s.pushedFrames op, ∀ entry ∈ frame.attributes,
    ∃ activeScene, (s.step op).runtime.activeScene = some activeScene
      ∧ (s.step op).runtime.recordEnabledAt ⟨activeScene, entry.objectId, entry.attr⟩ = true
  complete : ∀ deviceId updates timestampNs, op.motion? = some (deviceId, updates, timestampNs)
    → ∀ frame ∈ s.pushedFrames op, ∀ activeScene,
        (s.step op).runtime.activeScene = some activeScene
    → ∀ update ∈ updates, ∀ m,
        (s.step op).runtime.route deviceId activeScene update.outputAttribute = some m
    → (s.step op).runtime.recordEnabledAt m.target = true
    → ∃ entry ∈ frame.attributes,
        entry.objectId = m.targetObject ∧ entry.attr = m.targetAttribute

/--
If the call is a batch that is recorded, all of its updates go to attributes that are enabled for
recording.
-/
def MovesEnabled (self : ServerState F) (op : ServerOp F) : Prop :=
  ∀ deviceId updates timestampNs, op.motion? = some (deviceId, updates, timestampNs)
    → self.activeRecording.isSome = true
    → ∀ activeScene, self.runtime.activeScene = some activeScene
    → self.runtime.framed deviceId activeScene updates = true
    → ∀ update ∈ updates, ∀ m,
        self.runtime.route deviceId activeScene update.outputAttribute = some m
        → self.runtime.recordEnabledAt m.target = true

section Motion

variable {deviceId : Uuid} {updates : List (AttributeUpdate F)} {timestampNs : Nat}

theorem recordEnabledAt_motion (hmotion : op.motion? = some (deviceId, updates, timestampNs))
    (t : Target)
    : (self.step op).runtime.recordEnabledAt t = self.runtime.recordEnabledAt t := by
  rw [(self.pushedFrames_of_motion? hmotion).2]
  have hop : ∀ scene, RuntimeOp.applyUpdates deviceId updates timestampNs ≠ .loadScene scene := by
    simp
  exact RuntimeCore.recordEnabledAt_step hop t

theorem activeScene_motion (hmotion : op.motion? = some (deviceId, updates, timestampNs))
    : (self.step op).runtime.activeScene = self.runtime.activeScene := by
  rw [(self.pushedFrames_of_motion? hmotion).2, RuntimeCore.applyUpdates_frame]
  rfl

theorem route_motion (hmotion : op.motion? = some (deviceId, updates, timestampNs))
    {activeScene : SceneId} {output : String} {m : Mapping}
    (hroute : (self.step op).runtime.route deviceId activeScene output = some m)
    : ∃ before, self.runtime.route deviceId activeScene output = some before
        ∧ m.target = before.target := by
  rw [(self.pushedFrames_of_motion? hmotion).2, route_applyUpdates] at hroute
  obtain ⟨before, hbefore, rfl⟩ := Option.map_eq_some_iff.mp hroute
  exact ⟨before, hbefore, (before.beat_keeps deviceId timestampNs).2.1⟩

theorem entries_of_motion (hmotion : op.motion? = some (deviceId, updates, timestampNs))
    {frame : RecordedFrame F} (hframe : frame ∈ self.pushedFrames op)
    : ∃ activeScene, self.runtime.activeScene = some activeScene
        ∧ List.Forall₂
            (fun update (entry : RecordedAttribute F) => ∃ m,
              self.runtime.route deviceId activeScene update.outputAttribute = some m
                ∧ m.target = ⟨activeScene, entry.objectId, entry.attr⟩)
            updates frame.attributes := by
  rw [(self.pushedFrames_of_motion? hmotion).1, Option.mem_toList] at hframe
  obtain ⟨-, -, -, -, activeScene, hscene, hentries⟩ := frameOf?_eq_some_iff.mp hframe
  refine ⟨activeScene, hscene, hentries.imp ?_⟩
  rintro update entry ⟨m, hroute, hobject, hattr, -⟩
  refine ⟨m, hroute, ?_⟩
  rw [Mapping.target, (RuntimeCore.route_spec hroute).2.2.2, hobject, hattr]

theorem complete_motion (hmotion : op.motion? = some (deviceId, updates, timestampNs))
    {frame : RecordedFrame F} (hframe : frame ∈ self.pushedFrames op) {activeScene : SceneId}
    (hscene : (self.step op).runtime.activeScene = some activeScene)
    {update : AttributeUpdate F} (hupdate : update ∈ updates) {m : Mapping}
    (hroute : (self.step op).runtime.route deviceId activeScene update.outputAttribute = some m)
    : ∃ entry ∈ frame.attributes,
        entry.objectId = m.targetObject ∧ entry.attr = m.targetAttribute := by
  obtain ⟨activeScene', hscene', hentries⟩ := entries_of_motion hmotion hframe
  rw [activeScene_motion hmotion, hscene', Option.some.injEq] at hscene
  subst hscene
  obtain ⟨before, hbefore, htarget⟩ := route_motion hmotion hroute
  obtain ⟨entry, hentry, m', hm', htarget'⟩ := Traverse.forall₂_left hentries update hupdate
  rw [hbefore, Option.some.injEq] at hm'
  rw [← hm', ← htarget, Mapping.target, Target.mk.injEq] at htarget'
  exact ⟨entry, hentry, htarget'.2.1.symm, htarget'.2.2.symm⟩

theorem enabled_motion_iff (hmotion : op.motion? = some (deviceId, updates, timestampNs))
    : (∀ frame ∈ self.pushedFrames op, ∀ entry ∈ frame.attributes,
          ∃ activeScene, (self.step op).runtime.activeScene = some activeScene
            ∧ (self.step op).runtime.recordEnabledAt ⟨activeScene, entry.objectId, entry.attr⟩
                = true)
        ↔
      self.MovesEnabled op := by
  simp only [recordEnabledAt_motion hmotion, activeScene_motion hmotion]
  constructor
  . intro h deviceId' updates' timestampNs' hbatch hrecording activeScene hscene hframed update
      hupdate m hroute
    rw [hmotion] at hbatch
    cases hbatch
    have hsome : (self.frameOf? deviceId updates timestampNs).isSome = true :=
      isSome_frameOf?_iff.mpr ⟨hrecording, activeScene, hscene, hframed⟩
    obtain ⟨frame, hframe⟩ := Option.isSome_iff_exists.mp hsome
    have hpushed : frame ∈ self.pushedFrames op := by
      rw [(self.pushedFrames_of_motion? hmotion).1, hframe]
      exact List.mem_singleton_self frame
    obtain ⟨activeScene', hscene', hentries⟩ := entries_of_motion hmotion hpushed
    rw [hscene, Option.some.injEq] at hscene'
    subst hscene'
    obtain ⟨entry, hentry, m', hm', htarget⟩ := Traverse.forall₂_left hentries update hupdate
    rw [hroute, Option.some.injEq] at hm'
    subst hm'
    obtain ⟨activeScene', hscene', henabled⟩ := h frame hpushed entry hentry
    rw [hscene, Option.some.injEq] at hscene'
    subst hscene'
    rw [htarget]
    exact henabled
  . intro h frame hframe entry hentry
    obtain ⟨activeScene, hscene, hentries⟩ := entries_of_motion hmotion hframe
    refine ⟨activeScene, hscene, ?_⟩
    have hsome : (self.frameOf? deviceId updates timestampNs).isSome = true := by
      rw [(self.pushedFrames_of_motion? hmotion).1, Option.mem_toList] at hframe
      rw [hframe]
      rfl
    obtain ⟨hrecording, activeScene', hscene', hframed⟩ := isSome_frameOf?_iff.mp hsome
    rw [hscene, Option.some.injEq] at hscene'
    subst hscene'
    obtain ⟨update, hupdate, m, hroute, htarget⟩ := Traverse.forall₂_right hentries entry hentry
    rw [← htarget]
    exact h _ _ _ hmotion hrecording activeScene hscene hframed update hupdate m hroute

end Motion

theorem honoursFlags_iff : self.HonoursFlags op ↔ self.MovesEnabled op := by
  cases hmotion : op.motion? with
  | none =>
    have hnone : self.pushedFrames op = [] := pushedFrames_of_no_motion hmotion
    apply iff_of_true
    . constructor
      . intro frame hframe
        rw [hnone] at hframe
        cases hframe
      . intro deviceId updates timestampNs hbatch
        rw [hmotion] at hbatch
        cases hbatch
    . intro deviceId updates timestampNs hbatch
      rw [hmotion] at hbatch
      cases hbatch
  | some batch =>
    obtain ⟨deviceId, updates, timestampNs⟩ := batch
    rw [← enabled_motion_iff hmotion]
    constructor
    . exact fun h => h.enabled
    . intro h
      refine ⟨h, ?_⟩
      intro deviceId' updates' timestampNs' hbatch frame hframe activeScene hscene update hupdate m
        hroute _
      rw [hmotion] at hbatch
      cases hbatch
      exact complete_motion hmotion hframe hscene hupdate hroute

theorem honoursFlags_run_iff (config : ServerConfig) (ops : List (ServerOp F))
    : Run.AllSteps step HonoursFlags (new config) ops
        ↔
      Run.AllSteps step MovesEnabled (new config) ops :=
  Run.allSteps_congr step fun _ _ => honoursFlags_iff

def mutedScene : Scene Floats.rational :=
  (Scene.new 1 "stage").withObject
    ((SceneObject.new 2 "panel").withAttribute
      { SceneAttribute.new "left" (.bool false) with recordEnabled := false })

def mutedTake : List (ServerOp Floats.rational) :=
  [.loadScene mutedScene, .createMapping (switchRequest 7 "left") 10 100,
    .startRecording "take.cmtrk" 13 50, .ingestMotionSamples 7 [⟨"button", .bool true⟩] 14]

/--
The switch is recorded all the same.
-/
theorem honoursFlags_fails : ¬ Run.AllSteps step HonoursFlags (new .default) mutedTake := by
  rintro ⟨-, -, -, h, -⟩
  obtain ⟨activeScene, hscene, henabled⟩ := h.enabled _ (List.mem_singleton.mpr rfl) _
    (List.mem_singleton.mpr rfl)
  cases hscene
  exact absurd henabled (by decide)

end ServerState

end MotionStage
