import MotionStage.Core.Writes

/-!
This module contains the kinds of attribute values: an attribute keeps, through every run, the kind
that it was loaded with.
-/

namespace MotionStage

variable {F : Floats}

inductive ValueKind where
  | bool
  | int32
  | float32
  | float64
  | vec2f
  | vec3f
  | vec4f
  | quatf
  | mat4f
  | trigger
  deriving DecidableEq, Repr

namespace AttributeValue

def kind : AttributeValue F → ValueKind
  | bool _ => .bool
  | int32 _ => .int32
  | float32 _ => .float32
  | float64 _ => .float64
  | vec2f _ => .vec2f
  | vec3f _ => .vec3f
  | vec4f _ => .vec4f
  | quatf _ => .quatf
  | mat4f _ => .mat4f
  | trigger _ => .trigger

theorem kind_eq_of_typeName_eq {a b : AttributeValue F} (h : a.typeName = b.typeName)
    : a.kind = b.kind := by
  cases a <;> cases b <;> simp only [typeName, String.reduceEq] at h <;> rfl

end AttributeValue

theorem kind_composeRelativeValue {baseline delta v : AttributeValue F}
    (h : composeRelativeValue baseline delta = .ok v)
    : v.kind = baseline.kind := by
  unfold composeRelativeValue at h
  split at h <;> cases h <;> rfl

theorem kind_applyMappingTransform {current incoming v : AttributeValue F}
    {mask : Option (List Nat)} (h : applyMappingTransform current incoming mask = .ok v)
    : v.kind = current.kind := by
  have hagree := agree_applyMappingTransform incoming mask (rfl : current.typeName = _) rfl
  rw [h] at hagree
  exact AttributeValue.kind_eq_of_typeName_eq hagree.typeName_left

theorem kind_applyFilters (previous incoming : AttributeValue F) (filters : List (AttributeFilter F))
    : (applyFilters previous incoming filters).kind = incoming.kind := by
  apply AttributeValue.kind_eq_of_typeName_eq
  apply typeName_applyFilters

namespace SceneAttribute

/--
The default value and the current value have the same kind, as `SceneAttribute::new` builds them.
-/
def HasKind (kind : ValueKind) (attr : SceneAttribute F) : Prop :=
  attr.defaultValue.kind = kind ∧ attr.currentValue.kind = kind

end SceneAttribute

open RuntimeCore

variable {attr : SceneAttribute F} {kind : ValueKind}

theorem kind_nextValue (h : attr.HasKind kind) {value v : AttributeValue F}
    {mask : Option (List Nat)} (hnext : nextValue attr value mask = .ok v)
    : v.kind = kind := by
  unfold nextValue at hnext
  dsimp only at hnext
  split at hnext
  . cases hnext
  . next transformed htransformed =>
    cases hnext
    rw [kind_applyFilters]
    split at htransformed
    . split at htransformed
      . cases htransformed
      . rw [kind_composeRelativeValue htransformed, h.1]
    . rw [kind_applyMappingTransform htransformed, h.2]

theorem hasKind_reset (h : attr.HasKind kind) : (BaselineSync.reset.sync attr).HasKind kind := by
  unfold BaselineSync.sync
  split
  . exact ⟨h.1, h.1⟩
  . exact h

theorem hasKind_commit (h : attr.HasKind kind) : (BaselineSync.commit.sync attr).HasKind kind := by
  unfold BaselineSync.sync
  split
  . exact ⟨h.2, h.2⟩
  . exact h

theorem evolves_hasKind
    : Evolves fun before after : SceneAttribute F =>
        ∀ kind, before.HasKind kind → after.HasKind kind where
  refl _ _ h := h
  trans hab hbc kind h := hbc kind (hab kind h)
  write hnext _ h := ⟨h.1, kind_nextValue h hnext⟩
  reset _ _ := hasKind_reset
  commit _ _ := hasKind_commit

theorem hasKind_settle (self : RuntimeCore F) (deviceId : Uuid) (activeScene : SceneId) (t : Target)
    (h : attr.HasKind kind) (updates : List (AttributeUpdate F))
    : (self.settle deviceId activeScene t attr updates).HasKind kind :=
  evolves_hasKind.settle self deviceId activeScene t attr updates kind h

namespace RuntimeCore

theorem hasKind_step {s : RuntimeCore F} {op : RuntimeOp F} (hop : ∀ scene, op ≠ .loadScene scene)
    {t : Target} (h : (s.step op).attributeAt t = some attr)
    : ∃ before, s.attributeAt t = some before
        ∧ ∀ kind, before.HasKind kind → attr.HasKind kind := by
  have hrel : Option.Rel _ (s.attributeAt t) ((s.step op).attributeAt t) :=
    evolves_hasKind.step hop t
  rw [h] at hrel
  generalize s.attributeAt t = found at hrel
  cases hrel with
  | some hkind => exact ⟨_, rfl, hkind⟩

end RuntimeCore

def Scene.WellKinded (scene : Scene F) : Prop :=
  ∀ objectId name attr, scene.attributeAt objectId name = some attr
    → attr.currentValue.kind = attr.defaultValue.kind

def RuntimeOp.remember (loaded : SceneId → Option (Scene F)) (op : RuntimeOp F)
    : SceneId → Option (Scene F) :=
  match op with
  | .loadScene scene => Function.update loaded scene.id (some scene)
  | _ => loaded

def RuntimeOp.lastLoaded (ops : List (RuntimeOp F)) : SceneId → Option (Scene F) :=
  ops.foldl remember fun _ => none

namespace RuntimeCore

def KeepsKinds (loaded : SceneId → Option (Scene F)) (s : RuntimeCore F) : Prop :=
  ∀ t attr, s.attributeAt t = some attr
    → ∃ scene original, loaded t.scene = some scene
        ∧ scene.attributeAt t.object t.attr = some original
        ∧ original.currentValue.kind = original.defaultValue.kind
        ∧ attr.defaultValue.kind = original.defaultValue.kind
        ∧ attr.currentValue.kind = original.defaultValue.kind

theorem keepsKinds_step {loaded : SceneId → Option (Scene F)} {s : RuntimeCore F}
    (h : KeepsKinds loaded s) {op : RuntimeOp F}
    (hop : ∀ scene, op = .loadScene scene → scene.WellKinded)
    : KeepsKinds (op.remember loaded) (s.step op) := by
  intro t attr hattr
  by_cases hload : ∃ scene, op = .loadScene scene
  . obtain ⟨scene, rfl⟩ := hload
    simp only [step, attributeAt_loadScene] at hattr
    simp only [RuntimeOp.remember]
    split at hattr
    . next hscene =>
      have hkind := hop scene rfl _ _ _ hattr
      rw [hscene, Function.update_self]
      exact ⟨scene, attr, rfl, hattr, hkind, rfl, hkind⟩
    . next hscene =>
      rw [Function.update_of_ne hscene]
      exact h t attr hattr
  . have hne : ∀ scene, op ≠ .loadScene scene := fun scene heq => hload ⟨scene, heq⟩
    have hremember : op.remember loaded = loaded := by
      cases op with
      | loadScene scene => exact absurd rfl (hne scene)
      | _ => rfl
    rw [hremember]
    obtain ⟨before, hbefore, hkind⟩ := hasKind_step hne hattr
    obtain ⟨scene, original, hscene, horiginal, hsame, hdefault, hcurrent⟩ := h t before hbefore
    obtain ⟨hdefault', hcurrent'⟩ := hkind _ ⟨hdefault, hcurrent⟩
    exact ⟨scene, original, hscene, horiginal, hsame, hdefault', hcurrent'⟩

theorem keepsKinds_run (lease : LeaseConfig) (ops : List (RuntimeOp F))
    (hops : ∀ scene, .loadScene scene ∈ ops → scene.WellKinded)
    : KeepsKinds (RuntimeOp.lastLoaded ops) (Run.run step (new lease) ops) := by
  suffices h : ∀ (loaded : SceneId → Option (Scene F)) (s : RuntimeCore F), KeepsKinds loaded s
      → KeepsKinds (ops.foldl RuntimeOp.remember loaded) (Run.run step s ops) by
    apply h
    intro t attr hattr
    cases hattr
  induction ops with
  | nil => exact fun _ _ h => h
  | cons op ops ih =>
    intro loaded s h
    apply ih fun scene hscene => hops scene (List.mem_cons_of_mem _ hscene)
    apply keepsKinds_step h
    rintro scene rfl
    exact hops scene List.mem_cons_self

theorem wellKinded_switchScene : (switchScene F).WellKinded := by
  intro objectId name attr h
  simp only [Scene.attributeAt, switchScene, Scene.withObject, Scene.new, IndexMap.get?_insert,
    IndexMap.get?_empty, SceneObject.withAttribute, SceneObject.new] at h
  split at h
  . simp only [Option.bind_some, IndexMap.get?_insert, IndexMap.get?_empty] at h
    split at h
    . cases h
      rfl
    . split at h
      . cases h
        rfl
      . cases h
  . cases h

theorem keepsKinds_run_switch
    : let ops : List (RuntimeOp Floats.rational) :=
        [.loadScene (switchScene _), .setMode .live, .createMapping (switchRequest 7 "left") 10 100,
          .applyUpdates 7 [⟨"button", .bool true⟩] 20, .commitSceneBaseline 1]
      KeepsKinds (RuntimeOp.lastLoaded ops) (Run.run step (new .default) ops) := by
  intro ops
  apply keepsKinds_run
  intro scene hscene
  simp only [ops, List.mem_cons, RuntimeOp.loadScene.injEq, reduceCtorEq, List.not_mem_nil,
    or_false] at hscene
  rw [hscene]
  exact wellKinded_switchScene

end RuntimeCore

end MotionStage
