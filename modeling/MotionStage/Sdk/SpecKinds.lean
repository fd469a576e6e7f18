import MotionStage.Sdk.SceneSpec

/-!
This module contains the kinds of the values in a scene spec. A spec that names its type gives both
values of an attribute the same kind. Without a type each of them has the kind that it looks like.
-/

namespace MotionStage

variable {F : Floats}

namespace Sdk

variable (py : Pyo3 F)

theorem scalar_eq_ok {α : Type} {extracted : Option α} {make : α → AttributeValue F}
    {v : AttributeValue F} (h : scalar extracted make = .ok v)
    : ∃ a, v = make a := by
  cases extracted with
  | none => cases h
  | some a => cases h; exact ⟨a, rfl⟩

theorem map_eq_ok {ε α β : Type} {r : Except ε α} {f : α → β} {b : β} (h : r.map f = .ok b)
    : ∃ a, r = .ok a ∧ b = f a := by
  cases r with
  | error e => cases h
  | ok a => cases h; exact ⟨a, rfl, rfl⟩

def kindNamed (typeName : String) : Option ValueKind :=
  match asciiLower (Text.trim typeName) with
  | "bool" => some .bool
  | "trigger" => some .trigger
  | "int32" => some .int32
  | "float32" => some .float32
  | "float64" => some .float64
  | "vec2f" => some .vec2f
  | "vec3f" => some .vec3f
  | "vec4f" => some .vec4f
  | "quatf" => some .quatf
  | "mat4f" => some .mat4f
  | _ => none

theorem kindNamed_of_typed {typeName : String} {value : PyAny F} {v : AttributeValue F}
    (h : parseAttributeValueTyped py typeName value = .ok v)
    : kindNamed typeName = some v.kind := by
  unfold parseAttributeValueTyped at h
  unfold kindNamed
  generalize asciiLower (Text.trim typeName) = name at h
  split at h
  all_goals first
    | (obtain ⟨a, rfl⟩ := scalar_eq_ok h; rfl)
    | (obtain ⟨a, -, rfl⟩ := map_eq_ok h; rfl)
    | cases h

def Consistent (spec : PyDict F) : Prop :=
  ∀ defaultValue currentValue,
    extractSpecAttributeValue py spec "default_value" = .ok defaultValue
      → extractSpecAttributeValue py spec "value" = .ok currentValue
      → currentValue.kind = defaultValue.kind

variable {py} {spec : PyDict F}

theorem extractSpecAttributeValue_typed {typeName key : String} {v : AttributeValue F}
    (htype : explicitType spec = some typeName) (h : extractSpecAttributeValue py spec key = .ok v)
    : kindNamed typeName = some v.kind := by
  unfold extractSpecAttributeValue parseAttributeValue at h
  rw [htype] at h
  split at h
  . cases h
  . exact kindNamed_of_typed py h

theorem consistent_of_type (h : (explicitType spec).isSome = true) : Consistent py spec := by
  obtain ⟨typeName, htype⟩ := Option.isSome_iff_exists.mp h
  intro defaultValue currentValue hdefault hcurrent
  have hkind := extractSpecAttributeValue_typed htype hdefault
  rw [extractSpecAttributeValue_typed htype hcurrent] at hkind
  exact Option.some.inj hkind

theorem bind_eq_ok {ε α β : Type} {r : Except ε α} {f : α → Except ε β} {b : β}
    (h : (r >>= f) = .ok b)
    : ∃ a, r = .ok a ∧ f a = .ok b := by
  cases r with
  | error e => cases h
  | ok a => exact ⟨a, rfl, h⟩

theorem parseSceneAttributeSpec_kind {attr : SceneAttribute F}
    (h : parseSceneAttributeSpec py spec = .ok attr)
    : attr.currentValue.kind = attr.defaultValue.kind ↔ Consistent py spec := by
  unfold parseSceneAttributeSpec at h
  obtain ⟨name, -, h⟩ := bind_eq_ok h
  obtain ⟨defaultValue, hdefault, h⟩ := bind_eq_ok h
  obtain ⟨liveEnabled, -, h⟩ := bind_eq_ok h
  obtain ⟨recordEnabled, -, h⟩ := bind_eq_ok h
  cases h
  show ((extractSpecAttributeValue py spec "value").toOption.getD defaultValue).kind
    = defaultValue.kind ↔ _
  unfold Consistent
  cases hgiven : extractSpecAttributeValue py spec "default_value" with
  | ok given =>
    rw [hgiven] at hdefault
    cases hdefault
    cases extractSpecAttributeValue py spec "value" with
    | ok value => simp [Except.toOption]
    | error e => simp [Except.toOption]
  | error e =>
    rw [hgiven] at hdefault
    simp [show extractSpecAttributeValue py spec "value" = .ok defaultValue from hdefault,
      Except.toOption]

def ConsistentObject (py : Pyo3 F) (spec : PyDict F) : Prop :=
  ∀ items, specItems spec "attributes" = .ok items → ∀ attr, .dict attr ∈ items → Consistent py attr

def ConsistentScene (py : Pyo3 F) (spec : PyDict F) : Prop :=
  ∀ items, specItems spec "objects" = .ok items → ∀ object, .dict object ∈ items
    → ConsistentObject py object

def WellKindedObject (object : SceneObject F) : Prop :=
  ∀ name attr, object.attributes.get? name = some attr
    → attr.currentValue.kind = attr.defaultValue.kind

theorem addAttributes_wellKinded {items : List (PyAny F)} {object object' : SceneObject F}
    (h : addAttributes py items object = .ok object')
    (hitems : ∀ attr, .dict attr ∈ items → Consistent py attr) (hobject : WellKindedObject object)
    : WellKindedObject object' := by
  induction items generalizing object with
  | nil => cases h; exact hobject
  | cons item items ih =>
    cases item with
    | dict spec =>
      simp only [addAttributes] at h
      split at h
      . cases h
      . next attr hattr =>
        refine ih h (fun spec hspec => hitems spec (List.mem_cons_of_mem _ hspec)) ?_
        intro name attr' hget
        simp only [SceneObject.withAttribute, IndexMap.get?_insert] at hget
        split at hget
        . cases hget
          exact (parseSceneAttributeSpec_kind hattr).mpr (hitems spec List.mem_cons_self)
        . exact hobject name attr' hget
    | _ => cases h

theorem parseSceneObjectSpec_wellKinded {fresh : Uuid} {object : SceneObject F}
    (h : parseSceneObjectSpec py spec fresh = .ok object) (hspec : ConsistentObject py spec)
    : WellKindedObject object := by
  unfold parseSceneObjectSpec at h
  obtain ⟨name, -, h⟩ := bind_eq_ok h
  obtain ⟨id, -, h⟩ := bind_eq_ok h
  obtain ⟨items, hitems, h⟩ := bind_eq_ok h
  apply addAttributes_wellKinded h (hspec items hitems)
  intro name attr hget
  simp [SceneObject.new] at hget

theorem addObjects_wellKinded {items : List (PyAny F)} {fresh : Nat → Uuid} {scene scene' : Scene F}
    (h : addObjects py items fresh scene = .ok scene')
    (hitems : ∀ object, .dict object ∈ items → ConsistentObject py object)
    (hscene : scene.WellKinded)
    : scene'.WellKinded := by
  induction items generalizing fresh scene with
  | nil => cases h; exact hscene
  | cons item items ih =>
    cases item with
    | dict spec =>
      simp only [addObjects] at h
      split at h
      . cases h
      . next object hobject =>
        refine ih h (fun spec hspec => hitems spec (List.mem_cons_of_mem _ hspec)) ?_
        intro objectId name attr hget
        simp only [Scene.attributeAt, Scene.withObject, IndexMap.get?_insert] at hget
        split at hget
        . exact parseSceneObjectSpec_wellKinded hobject (hitems spec List.mem_cons_self) name attr hget
        . exact hscene objectId name attr hget
    | _ => cases h

theorem parseSceneSpec_wellKinded {fresh : Nat → Uuid} {scene : Scene F}
    (h : parseSceneSpec py spec fresh = .ok scene) (hspec : ConsistentScene py spec)
    : scene.WellKinded := by
  unfold parseSceneSpec at h
  obtain ⟨name, -, h⟩ := bind_eq_ok h
  obtain ⟨id, -, h⟩ := bind_eq_ok h
  obtain ⟨items, hitems, h⟩ := bind_eq_ok h
  apply addObjects_wellKinded h (hspec items hitems)
  intro objectId name attr hget
  simp [Scene.attributeAt, Scene.new] at hget

/--
The native `MotionStageServer`, with the scenes that have been upserted last.
-/
structure PyServer (F : Floats) where
  server : ServerState F
  upserted : SceneId → Option (Scene F)

inductive PyOp (F : Floats) where
  | upsertScene (spec : PyDict F) (fresh : Nat → Uuid)
  /-- any other call of the server, or a client of it -/
  | other (op : ServerOp F) (hop : ∀ scene, op ≠ .loadScene scene)

namespace PyServer

def start (config : ServerConfig) : PyServer F := ⟨.new config, fun _ => none⟩

def step (py : Pyo3 F) (s : PyServer F) : PyOp F → PyServer F
  | .upsertScene spec fresh =>
    match parseSceneSpec py spec fresh with
    | .error _ => s
    | .ok scene =>
      ⟨s.server.step (.loadScene scene), RuntimeOp.remember s.upserted (.loadScene scene)⟩
  | .other op _ => { s with server := s.server.step op }

end PyServer

def PyOp.Consistent (py : Pyo3 F) : PyOp F → Prop
  | .upsertScene spec _ => ConsistentScene py spec
  | .other _ _ => True

theorem runtimeOps_ne_loadScene {op : ServerOp F} (hop : ∀ scene, op ≠ .loadScene scene)
    (s : ServerState F)
    : ∀ runtimeOp ∈ s.runtimeOps op, ∀ scene, runtimeOp ≠ .loadScene scene := by
  intro runtimeOp hmem scene hload
  subst hload
  cases op with
  | loadScene scene => exact hop scene rfl
  | startRecording =>
    simp only [ServerState.runtimeOps] at hmem
    split at hmem <;> simp at hmem
  | stopRecording =>
    simp only [ServerState.runtimeOps] at hmem
    split at hmem <;> simp at hmem
  | schedulerTick =>
    simp only [ServerState.runtimeOps] at hmem
    split at hmem <;> simp at hmem
  | _ => simp [ServerState.runtimeOps] at hmem

theorem keepsKinds_runtimeOps {loaded : SceneId → Option (Scene F)} {runtimeOps : List (RuntimeOp F)}
    (hops : ∀ runtimeOp ∈ runtimeOps, ∀ scene, runtimeOp ≠ .loadScene scene) {s : RuntimeCore F}
    (h : s.KeepsKinds loaded)
    : (Run.run RuntimeCore.step s runtimeOps).KeepsKinds loaded := by
  refine Run.run_invariant (P := RuntimeCore.KeepsKinds loaded)
    (C := fun _ op => ∀ scene, op ≠ .loadScene scene) ?_ h (Run.allSteps_of_forall _ hops)
  intro s op hs hop
  have hstep := RuntimeCore.keepsKinds_step hs fun scene heq => absurd heq (hop scene)
  have hremember : op.remember loaded = loaded := by
    cases op with
    | loadScene scene => exact absurd rfl (hop scene)
    | _ => rfl
  rwa [hremember] at hstep

theorem keepsKinds_pyStep {s : PyServer F} (h : s.server.runtime.KeepsKinds s.upserted) {op : PyOp F}
    (hop : op.Consistent py)
    : (s.step py op).server.runtime.KeepsKinds (s.step py op).upserted := by
  cases op with
  | other op hother =>
    show (s.server.step op).runtime.KeepsKinds s.upserted
    rw [(s.server.step_frame op).2.1]
    exact keepsKinds_runtimeOps (runtimeOps_ne_loadScene hother s.server) h
  | upsertScene spec fresh =>
    simp only [PyServer.step]
    split
    . exact h
    . next scene hscene =>
      have hload : ∀ scene', RuntimeOp.loadScene scene = .loadScene scene' → scene'.WellKinded := by
        rintro scene' ⟨⟩
        exact parseSceneSpec_wellKinded hscene hop
      rw [(s.server.step_frame (.loadScene scene)).2.1]
      exact RuntimeCore.keepsKinds_step h hload

/--
If the attribute specs of every upserted scene name their type, or have no two values of different
kinds, each attribute of the runtime keeps the kind that its spec gave to both of its values,
whatever the clients do. A spec that has two such values is accepted as well, and then the attribute
has two kinds.
-/
theorem keepsKinds_upserted (py : Pyo3 F) (config : ServerConfig) (ops : List (PyOp F))
    (h : ∀ op ∈ ops, op.Consistent py)
    : Run.AllStates (PyServer.step py) (fun s => s.server.runtime.KeepsKinds s.upserted)
          (.start config) ops
        ∧ ∀ spec attr, parseSceneAttributeSpec py spec = .ok attr →
          (attr.currentValue.kind = attr.defaultValue.kind ↔ Consistent py spec) := by
  refine ⟨?_, fun _ _ hattr => parseSceneAttributeSpec_kind hattr⟩
  apply Run.allStates_of_allSteps (fun _ _ hs hop => keepsKinds_pyStep hs hop) _
    (Run.allSteps_of_forall _ h)
  intro t attr hattr
  cases hattr

/--
A scene with one attribute. The type makes a `Float32` of its two numbers.
-/
def stageSpec : PyDict Floats.rational :=
  [("name", .str "stage"),
    ("objects", .list [.dict [("name", .str "camera"),
      ("attributes", .list [.dict [("name", .str "zoom"), ("type", .str " Float32"),
        ("default_value", .int 1), ("value", .float (5 / 2 : Rat))]])]])]

theorem consistent_stageSpec : ConsistentScene demoPy stageSpec := by
  rintro items ⟨⟩ object hobject attributes hattributes attr hattr
  rw [List.mem_singleton] at hobject
  cases hobject
  cases hattributes
  rw [List.mem_singleton] at hattr
  cases hattr
  exact consistent_of_type (by decide)

theorem keepsKinds_upserted_demo
    : let s := Run.run (PyServer.step demoPy) (.start .default)
        [.upsertScene stageSpec fun n => ⟨BitVec.ofNat 128 n⟩]
      (s.server.runtime.attributeAt ⟨0, 1, "zoom"⟩).map (fun attr => attr.currentValue.kind)
          = some .float32
        ∧ s.server.runtime.KeepsKinds s.upserted :=
  ⟨by decide, (keepsKinds_upserted demoPy .default
    [.upsertScene stageSpec fun n => ⟨BitVec.ofNat 128 n⟩]
    (by
      intro op hop
      rw [List.mem_singleton.mp hop]
      exact consistent_stageSpec)).1.last⟩

end Sdk

end MotionStage
