import Mathlib.Algebra.BigOperators.Group.List.Basic
import Mathlib.Data.List.Perm.Basic
import Mathlib.Data.List.Zip
import MotionStage.Core.Nan
import MotionStage.Core.Writes

/-!
This module contains the baseline actions: what they count and what they leave behind, and that a
scene is committed as well by committing its objects one after the other.
-/

theorem all_zip_comm {α : Type} {r : α → α → Bool} (h : ∀ a b, r a b = r b a) (xs ys : List α)
    : ((xs.zip ys).all fun p => r p.1 p.2) = (ys.zip xs).all fun p => r p.1 p.2 := by
  rw [← List.zip_swap, List.all_map]
  congr 1
  funext p
  exact h _ _

theorem FloatFormat.eqVector_comm {R : FloatFormat} (h : ∀ a b, R.eq a b = R.eq b a) {n : Nat}
    (v w : Vector R n)
    : R.eqVector v w = R.eqVector w v :=
  all_zip_comm h v.toList w.toList

namespace MotionStage

variable {F : Floats}

theorem AttributeValue.eq_comm (h32 : ∀ a b, F.f32.eq a b = F.f32.eq b a)
    (h64 : ∀ a b, F.f64.eq a b = F.f64.eq b a) (a b : AttributeValue F)
    : a.eq b = b.eq a := by
  cases a <;> cases b <;>
    first
    | rfl
    | exact BEq.comm
    | exact h32 _ _
    | exact h64 _ _
    | exact FloatFormat.eqVector_comm h32 _ _
    | exact all_zip_comm (FloatFormat.eqVector_comm h32) _ _

def SceneAttribute.differs (attr : SceneAttribute F) : Bool :=
  !attr.currentValue.eq attr.defaultValue

def Scene.attributes (scene : Scene F) : List (SceneAttribute F) :=
  scene.objects.values.flatMap fun object => object.attributes.values

namespace RuntimeCore

/--
`commit_object_baseline` for one object after the other, with the counts added up.
-/
def commitObjects (self : RuntimeCore F) (sceneId : SceneId)
    : List ObjectId → Except CoreError Nat × RuntimeCore F
  | [] => (.ok 0, self)
  | objectId :: objectIds =>
    match self.commitObjectBaseline sceneId objectId with
    | (.error e, self) => (.error e, self)
    | (.ok changed, self) =>
      let (rest, self) := self.commitObjects sceneId objectIds
      (rest.map fun n => changed + n, self)

def changedOf (object : SceneObject F) : Nat := (BaselineSync.commit.run object).1

def committed (object : SceneObject F) : SceneObject F := (BaselineSync.commit.run object).2

theorem commitObjectBaseline_eq {self : RuntimeCore F} {sceneId : SceneId} {scene : Scene F}
    {objectId : ObjectId} {object : SceneObject F} (hscene : self.scenes.get? sceneId = some scene)
    (hobject : scene.objects.get? objectId = some object)
    : self.commitObjectBaseline sceneId objectId
        =
      (.ok (changedOf object),
        { self with
          scenes := self.scenes.modify sceneId fun scene =>
            { scene with objects := scene.objects.modify objectId committed } }) := by
  simp only [commitObjectBaseline, hscene, hobject]
  rfl

theorem commitObjects_eq {self : RuntimeCore F} {sceneId : SceneId} {scene : Scene F}
    (hscene : self.scenes.get? sceneId = some scene) {objects : List (ObjectId × SceneObject F)}
    (hobjects : ∀ e ∈ objects, scene.objects.get? e.1 = some e.2)
    (hnodup : (objects.map Prod.fst).Nodup)
    : self.commitObjects sceneId (objects.map Prod.fst)
        =
      (.ok (objects.map fun e => changedOf e.2).sum,
        { self with
          scenes := self.scenes.modify sceneId fun scene =>
            { scene with
              objects := (objects.map Prod.fst).foldl (fun m k => m.modify k committed)
                scene.objects } }) := by
  induction objects generalizing self scene with
  | nil =>
    simp only [commitObjects, List.map_nil, List.sum_nil, List.foldl_nil]
    rw [IndexMap.modify_eq_self fun _ _ => rfl]
  | cons e objects ih =>
    obtain ⟨hfresh, hnodup⟩ := List.nodup_cons.mp hnodup
    have hhead := hobjects e List.mem_cons_self
    have hscene' : (self.scenes.modify sceneId fun scene =>
          { scene with objects := scene.objects.modify e.1 committed }).get? sceneId
        = some { scene with objects := scene.objects.modify e.1 committed } := by
      simp [hscene]
    have hobjects' : ∀ e' ∈ objects,
        (scene.objects.modify e.1 committed).get? e'.1 = some e'.2 := by
      intro e' he'
      rw [IndexMap.get?_modify_of_ne]
      . exact hobjects e' (List.mem_cons_of_mem _ he')
      . intro heq
        exact hfresh (heq ▸ List.mem_map_of_mem he')
    have hrest : RuntimeCore.commitObjects
        { self with
          scenes := self.scenes.modify sceneId fun scene =>
            { scene with objects := scene.objects.modify e.1 committed } }
        sceneId (objects.map Prod.fst) = _ := ih hscene' hobjects' hnodup
    simp only [List.map_cons, commitObjects, commitObjectBaseline_eq hscene hhead, hrest,
      List.sum_cons, List.foldl_cons, IndexMap.modify_modify]
    rfl

theorem commitObjects_perm {self : RuntimeCore F} {sceneId : SceneId} {scene : Scene F}
    (hscene : self.scenes.get? sceneId = some scene) {order : List ObjectId}
    (horder : order.Perm scene.objects.keys)
    : self.commitObjects sceneId order = self.commitSceneBaseline sceneId := by
  obtain ⟨objects, rfl, hperm⟩ : ∃ objects : List (ObjectId × SceneObject F),
      order = objects.map Prod.fst ∧ objects.Perm scene.objects.entries := by
    have hcomp := congrFun (congrFun (List.eq_map_comp_perm Prod.fst) order) scene.objects.entries
    exact (iff_of_eq hcomp).mpr horder
  have hobjects : ∀ e ∈ objects, scene.objects.get? e.1 = some e.2 := by
    intro e he
    exact IndexMap.get?_eq_some_iff.mpr (hperm.mem_iff.mp he)
  rw [commitObjects_eq hscene hobjects (horder.nodup_iff.mpr scene.objects.nodup)]
  simp only [commitSceneBaseline, syncScene, hscene]
  have hsum : (objects.map fun e => changedOf e.2).sum
      = (scene.objects.values.map fun object => (BaselineSync.commit.run object).1).sum := by
    rw [(hperm.map fun e => changedOf e.2).sum_eq, IndexMap.values, List.map_map]
    rfl
  have hmodify : ∀ v, self.scenes.get? sceneId = some v
      → ({ v with
            objects := (objects.map Prod.fst).foldl (fun m k => m.modify k committed) v.objects } : Scene F)
        = { v with objects := v.objects.mapValues committed } := by
    intro v hv
    rw [hscene, Option.some.injEq] at hv
    subst hv
    rw [IndexMap.foldl_modify_keys horder]
  rw [hsum, IndexMap.modify_congr hmodify]
  rfl

section Sync

variable (sync : BaselineSync F)

theorem syncScene_count {self : RuntimeCore F} {sceneId : SceneId} {scene : Scene F}
    (hscene : self.scenes.get? sceneId = some scene)
    : (self.syncScene sync sceneId).1 = .ok (scene.attributes.countP sync.differs) := by
  simp only [syncScene, hscene, Scene.attributes, List.countP_flatMap]
  rfl

variable {sync}

theorem syncScene_eq_self {self : RuntimeCore F} {sceneId : SceneId} {scene : Scene F}
    (hscene : self.scenes.get? sceneId = some scene)
    (h : ∀ attr ∈ scene.attributes, sync.differs attr = false)
    : self.syncScene sync sceneId = (.ok 0, self) := by
  have hcount := syncScene_count sync hscene
  rw [List.countP_eq_zero.mpr fun attr hattr => by simp [h attr hattr]] at hcount
  refine Prod.ext hcount ?_
  simp only [syncScene, hscene]
  rw [IndexMap.modify_eq_self]
  intro v hv
  rw [hscene, Option.some.injEq] at hv
  subst hv
  rw [IndexMap.mapValues_eq_self]
  intro object hobject
  have hattrs : (object.attributes.mapValues fun attr =>
      if sync.differs attr then sync.assign attr else attr) = object.attributes := by
    apply IndexMap.mapValues_eq_self
    intro attr hattr
    rw [h attr (List.mem_flatMap.mpr ⟨object, hobject, hattr⟩)]
    rfl
  rw [BaselineSync.run, hattrs]

variable (sync) in
theorem get?_syncScene {self : RuntimeCore F} {sceneId : SceneId} {scene : Scene F}
    (hscene : self.scenes.get? sceneId = some scene)
    : ∃ scene', (self.syncScene sync sceneId).2.scenes.get? sceneId = some scene'
        ∧ scene'.attributes = scene.attributes.map sync.sync := by
  refine ⟨{ scene with objects := scene.objects.mapValues fun object => (sync.run object).2 }, ?_, ?_⟩
  . simp [syncScene, hscene]
  . simp only [Scene.attributes, IndexMap.values_mapValues, List.flatMap_map, List.map_flatMap,
      BaselineSync.run_attributes]

theorem get?_syncScene_of_ne (self : RuntimeCore F) {sceneId other : SceneId} (h : other ≠ sceneId)
    : (self.syncScene sync sceneId).2.scenes.get? other = self.scenes.get? other := by
  unfold syncScene
  split
  . rfl
  . exact IndexMap.get?_modify_of_ne _ _ h

def SameButValues (before after : SceneAttribute F) : Prop :=
  after
    = { before with
        defaultValue := after.defaultValue
        currentValue := after.currentValue }

theorem sameButValues_syncScene (hsync : ∀ attr, SameButValues attr (sync.sync attr))
    (self : RuntimeCore F) (sceneId : SceneId) (t : Target)
    : Option.Rel SameButValues (self.attributeAt t)
        ((self.syncScene sync sceneId).2.attributeAt t) := by
  rw [attributeAt_syncScene]
  split
  . exact rel_map hsync _
  . exact rel_self (R := SameButValues) (fun _ => rfl) _

end Sync

/--
What a baseline action says and leaves behind: it counts the attributes that have left their
baseline, after it there are none, and nothing but their values has changed.
-/
structure Settled (s s' : RuntimeCore F) (sceneId : SceneId) (scene : Scene F)
    (result : Except CoreError Nat) : Prop where
  count : result = .ok (scene.attributes.countP SceneAttribute.differs)
  equal : ∀ t attr, t.scene = sceneId → s'.attributeAt t = some attr → attr.differs = false
  scenes : ∀ other, other ≠ sceneId → s'.scenes.get? other = s.scenes.get? other
  attributes : ∀ t, Option.Rel SameButValues (s.attributeAt t) (s'.attributeAt t)
  frame : s' = { s with scenes := s'.scenes }
  reset : s'.resetSceneToBaseline sceneId = (.ok 0, s')
  commit : s'.commitSceneBaseline sceneId = (.ok 0, s')

theorem mem_attributes_of_attributeAt {self : RuntimeCore F} {t : Target} {scene : Scene F}
    {attr : SceneAttribute F} (hscene : self.scenes.get? t.scene = some scene)
    (h : self.attributeAt t = some attr)
    : attr ∈ scene.attributes := by
  obtain ⟨scene', hscene', h⟩ := Option.bind_eq_some_iff.mp h
  rw [hscene, Option.some.injEq] at hscene'
  subst hscene'
  obtain ⟨object, hobject, hattr⟩ := Option.bind_eq_some_iff.mp h
  exact List.mem_flatMap.mpr ⟨object, IndexMap.mem_values.mpr ⟨_, hobject⟩,
    IndexMap.mem_values.mpr ⟨_, hattr⟩⟩

theorem commit_differs (h32 : ∀ a b, F.f32.eq a b = F.f32.eq b a)
    (h64 : ∀ a b, F.f64.eq a b = F.f64.eq b a) (attr : SceneAttribute F)
    : BaselineSync.commit.differs attr = attr.differs := by
  rw [BaselineSync.commit, SceneAttribute.differs, AttributeValue.eq_comm h32 h64]

theorem differs_reset {attr : SceneAttribute F}
    (hrefl : attr.defaultValue.eq attr.defaultValue = true)
    : (BaselineSync.reset.sync attr).differs = false := by
  unfold BaselineSync.sync
  split
  . simp [BaselineSync.reset, SceneAttribute.differs, hrefl]
  . next h => simpa [BaselineSync.reset, SceneAttribute.differs] using h

theorem differs_commit (h32 : ∀ a b, F.f32.eq a b = F.f32.eq b a)
    (h64 : ∀ a b, F.f64.eq a b = F.f64.eq b a) {attr : SceneAttribute F}
    (hrefl : attr.currentValue.eq attr.currentValue = true)
    : (BaselineSync.commit.sync attr).differs = false := by
  unfold BaselineSync.sync
  split
  . simp [BaselineSync.commit, SceneAttribute.differs, hrefl]
  . next h =>
    rw [commit_differs h32 h64] at h
    simpa using h

theorem sameButValues_reset (attr : SceneAttribute F)
    : SameButValues attr (BaselineSync.reset.sync attr) := by
  unfold BaselineSync.sync
  split <;> rfl

theorem sameButValues_commit (attr : SceneAttribute F)
    : SameButValues attr (BaselineSync.commit.sync attr) := by
  unfold BaselineSync.sync
  split <;> rfl

theorem settled_syncScene {sync : BaselineSync F} (h32 : ∀ a b, F.f32.eq a b = F.f32.eq b a)
    (h64 : ∀ a b, F.f64.eq a b = F.f64.eq b a)
    (hdiffers : ∀ attr, sync.differs attr = attr.differs)
    (hsync : ∀ attr, SameButValues attr (sync.sync attr)) {self : RuntimeCore F} {sceneId : SceneId}
    {scene : Scene F} (hscene : self.scenes.get? sceneId = some scene)
    (hsynced : ∀ attr ∈ scene.attributes, (sync.sync attr).differs = false)
    : Settled self (self.syncScene sync sceneId).2 sceneId scene
        (self.syncScene sync sceneId).1 := by
  obtain ⟨scene', hscene', hattrs⟩ := get?_syncScene sync hscene
  have hequal : ∀ attr ∈ scene'.attributes, attr.differs = false := by
    intro attr hattr
    rw [hattrs] at hattr
    obtain ⟨before, hbefore, rfl⟩ := List.mem_map.mp hattr
    exact hsynced before hbefore
  constructor
  . rw [syncScene_count sync hscene, funext hdiffers]
  . rintro t attr rfl hattr
    exact hequal attr (mem_attributes_of_attributeAt hscene' hattr)
  . exact fun other hother => get?_syncScene_of_ne self hother
  . exact sameButValues_syncScene hsync self sceneId
  . exact syncScene_frame self sync sceneId
  . exact syncScene_eq_self hscene' hequal
  . apply syncScene_eq_self hscene'
    intro attr hattr
    rw [commit_differs h32 h64, hequal attr hattr]

/--
The baseline actions agree with each other. The comparison of values is taken to be symmetric, and
reflexive on the values of the scene.
-/
theorem baseline_agrees (h32 : ∀ a b, F.f32.eq a b = F.f32.eq b a)
    (h64 : ∀ a b, F.f64.eq a b = F.f64.eq b a) {self : RuntimeCore F} {sceneId : SceneId}
    {scene : Scene F} (hscene : self.scenes.get? sceneId = some scene)
    (hsize : scene.attributes.length < 2 ^ 32)
    (hrefl : ∀ attr ∈ scene.attributes, attr.defaultValue.eq attr.defaultValue = true
      ∧ attr.currentValue.eq attr.currentValue = true)
    : (∀ order, order.Perm scene.objects.keys
          → self.commitObjects sceneId order = self.commitSceneBaseline sceneId)
        ∧ Settled self (self.resetSceneToBaseline sceneId).2 sceneId scene
            (self.resetSceneToBaseline sceneId).1
        ∧ Settled self (self.commitSceneBaseline sceneId).2 sceneId scene
            (self.commitSceneBaseline sceneId).1
        ∧ scene.attributes.countP SceneAttribute.differs < 2 ^ 32 := by
  refine ⟨fun order horder => commitObjects_perm hscene horder, ?_, ?_, ?_⟩
  . apply settled_syncScene h32 h64 (fun _ => rfl) sameButValues_reset hscene
    intro attr hattr
    exact differs_reset (hrefl attr hattr).1
  . apply settled_syncScene h32 h64 (commit_differs h32 h64) sameButValues_commit hscene
    intro attr hattr
    exact differs_commit h32 h64 (hrefl attr hattr).2
  . exact lt_of_le_of_lt List.countP_le_length hsize

section Rig

def offset (x y z : ℚ) : AttributeValue (Floats.withNan .rational) :=
  .vec3f #v[.num x, .num y, .num z]

def rigAttribute (name : String) (default current : AttributeValue (Floats.withNan .rational))
    : SceneAttribute (Floats.withNan .rational) :=
  { SceneAttribute.new name default with currentValue := current }

/--
A camera with two attributes away from their baseline, and a light with one.
-/
def rig (fov : WithNan ℚ) : Scene (Floats.withNan .rational) :=
  ((Scene.new 1 "rig").withObject
    (((SceneObject.new 2 "camera").withAttribute
        (rigAttribute "position" (offset 0 0 0) (offset 1 0 2))).withAttribute
      (rigAttribute "fov" (.float32 (.num 35 : WithNan ℚ)) (.float32 fov)))).withObject
    (((SceneObject.new 3 "light").withAttribute
        (rigAttribute "level" (.float64 (.num 1 : WithNan ℚ))
          (.float64 (.num 1 : WithNan ℚ)))).withAttribute
      (rigAttribute "on" (.bool true) (.bool false)))

def rigLoaded (fov : WithNan ℚ) : RuntimeCore (Floats.withNan .rational) :=
  Run.run step (new .default) [.loadScene (rig fov), .loadScene { rig fov with id := 9 }]

theorem baseline_agrees_rig
    : let s := rigLoaded (.num 50)
      let reset := s.resetSceneToBaseline 1
      let commit := s.commitSceneBaseline 1
      s.commitObjects 1 [2, 3] = commit
        ∧ s.commitObjects 1 [3, 2] = commit
        ∧ (s.commitObjectBaseline 1 2).1 = .ok 2
        ∧ (s.commitObjectBaseline 1 3).1 = .ok 1
        ∧ reset.1 = .ok 3
        ∧ commit.1 = .ok 3
        ∧ reset.2.resetSceneToBaseline 1 = (.ok 0, reset.2)
        ∧ reset.2.commitSceneBaseline 1 = (.ok 0, reset.2)
        ∧ commit.2.resetSceneToBaseline 1 = (.ok 0, commit.2)
        ∧ commit.2.commitSceneBaseline 1 = (.ok 0, commit.2)
        ∧ (∀ result ∈ [reset, commit], result.2.scenes.get? 9 = s.scenes.get? 9)
        ∧ reset.2.currentAt ⟨1, 2, "position"⟩ = some (offset 0 0 0)
        ∧ commit.2.defaultAt ⟨1, 2, "position"⟩ = some (offset 1 0 2) := by
  intro s reset commit
  have hscene : s.scenes.get? 1 = some (rig (.num 50)) := rfl
  have hrefl : ∀ attr ∈ (rig (.num 50)).attributes,
      attr.defaultValue.eq attr.defaultValue = true
        ∧ attr.currentValue.eq attr.currentValue = true := by
    have hall : ((rig (.num 50)).attributes.all fun attr =>
        attr.defaultValue.eq attr.defaultValue && attr.currentValue.eq attr.currentValue)
          = true := rfl
    intro attr hattr
    exact Bool.and_eq_true_iff.mp (List.all_eq_true.mp hall attr hattr)
  obtain ⟨horder, hreset, hcommit, -⟩ := baseline_agrees WithNan.eq_comm WithNan.eq_comm hscene
    (by decide) hrefl
  refine ⟨horder [2, 3] (.refl _), horder [3, 2] (.swap ..), rfl, rfl, hreset.count, hcommit.count,
    hreset.reset, hreset.commit, hcommit.reset, hcommit.commit, ?_, rfl, rfl⟩
  intro result hresult
  simp only [List.mem_cons, List.not_mem_nil, or_false] at hresult
  rcases hresult with rfl | rfl
  . exact hreset.scenes 9 (by decide)
  . exact hcommit.scenes 9 (by decide)

-- a `NaN` is never equal to its baseline
example
    : let s := rigLoaded .nan
      (s.commitSceneBaseline 1).1 = .ok 3
        ∧ ((s.commitSceneBaseline 1).2.commitSceneBaseline 1).1 = .ok 1 :=
  ⟨rfl, rfl⟩

end Rig

end RuntimeCore

end MotionStage
