import MotionStage.Core.Filters
import MotionStage.Core.Mask
import MotionStage.Core.Nan

/-!
This module contains the operations of the runtime that can panic, where `none` is a panic: the
`expect` of `create_mapping`, and the `clamp` calls of the filters that `apply_updates` runs.
-/

/--
A `clamp` call asserts that its bounds are in order.
-/
def FloatFormat.clamp? (R : FloatFormat) (v lo hi : R) : Option R :=
  if R.le lo hi then some (R.clamp v lo hi) else none

namespace MotionStage

section Filters

variable {F : Floats}

def applyEma? (previous current : AttributeValue F) (alpha : F.f32)
    : Option (AttributeValue F) := do
  let alpha ← F.f32.clamp? alpha (F.f32.ofNat 0) (F.f32.ofNat 1)
  let mix (R : FloatFormat) (alpha curr prev : R) : R :=
    R.add (R.mul alpha curr) (R.mul (R.sub (R.ofNat 1) alpha) prev)
  match previous, current with
  | .float32 prev, .float32 curr => return .float32 (mix F.f32 alpha curr prev)
  | .float64 prev, .float64 curr => return .float64 (mix F.f64 (F.widen alpha) curr prev)
  | .vec3f prev, .vec3f curr => return .vec3f (Vector.zipWith (mix F.f32 alpha) curr prev)
  | _, _ => return current

def applyClamp? (current : AttributeValue F) (min max : F.f32) : Option (AttributeValue F) :=
  let (lo, hi) := if F.f32.le min max then (min, max) else (max, min)
  match current with
  | .float32 v => (F.f32.clamp? v lo hi).map .float32
  | .float64 v => (F.f64.clamp? v (F.widen lo) (F.widen hi)).map .float64
  | .vec3f v => (v.mapM fun c => F.f32.clamp? c lo hi).map .vec3f
  | _ => some current

def applyFilter? (previous current : AttributeValue F) (filter : AttributeFilter F)
    : Option (AttributeValue F) :=
  match filter with
  | .passthrough => some current
  | .ema alpha => applyEma? previous current alpha
  | .deadband threshold => some (applyDeadband previous current threshold)
  | .clamp min max => applyClamp? current min max

def applyFilters? (previous incoming : AttributeValue F) (filters : List (AttributeFilter F))
    : Option (AttributeValue F) :=
  filters.foldlM (fun value filter => applyFilter? previous value filter) incoming

end Filters

section NanFilters

variable {K L : Type} [LinearOrder K] [LinearOrder L] {p : Casts K L}

def AttributeFilter.nanBound : AttributeFilter (Floats.withNan p) → Bool
  | .clamp min max => WithNan.isNan min || WithNan.isNan max
  | _ => false

variable (previous current incoming : AttributeValue (Floats.withNan p))

/--
The bounds of the `clamp` in the filter are literals.
-/
theorem applyEma?_eq (alpha : WithNan K)
    : applyEma? previous current alpha = some (applyEma previous current alpha) := by
  have hunit : (Floats.withNan p).f32.le ((Floats.withNan p).f32.ofNat 0)
      ((Floats.withNan p).f32.ofNat 1) = true :=
    decide_eq_true p.f32.zero_le_one
  unfold applyEma? applyEma FloatFormat.clamp?
  rw [if_pos hunit]
  cases previous <;> cases current <;> rfl

theorem clamp?_eq {M : Type} [LinearOrder M] (ops : Arithmetic M) {lo hi : WithNan M} {nan : Bool}
    (h : lo.le hi = !nan) (v : WithNan M)
    : (FloatFormat.withNan ops).clamp? v lo hi = bif nan then none else some (v.clamp lo hi) := by
  unfold FloatFormat.clamp?
  change (if lo.le hi = true then _ else _) = _
  rw [h]
  cases nan <;> rfl

theorem vector_mapM_none {α β : Type} {n : Nat} (v : Vector α (n + 1))
    : (v.mapM fun _ => (none : Option β)) = none := by
  have harray : Vector.toArray <$> (v.mapM fun _ => (none : Option β)) = _ := Vector.toArray_mapM
  rw [Array.mapM_eq_mapM_toList] at harray
  have hlist : v.toArray.toList.mapM (fun _ => (none : Option β)) = none := by
    cases hv : v.toArray.toList with
    | nil =>
      have hsize := v.size_toArray
      rw [← Array.length_toList, hv] at hsize
      cases hsize
    | cons a as =>
      rw [List.mapM_cons]
      rfl
  rw [hlist] at harray
  exact Option.map_eq_none_iff.mp harray

theorem applyClamp?_eq (a b : WithNan K)
    : applyClamp? current a b
        =
      bif current.kind.filtered && (a.isNan || b.isNan) then
        none
      else
        some (applyClamp current a b) := by
  have hsort : (if (Floats.withNan p).f32.le a b then (a, b) else (b, a)) = a.sort b := rfl
  have hle := WithNan.le_sort a b
  unfold applyClamp? applyClamp
  rw [hsort]
  generalize a.sort b = bounds at hle ⊢
  generalize (a.isNan || b.isNan) = nan at hle ⊢
  obtain ⟨lo, hi⟩ := bounds
  have hle' : (lo.map p.widen).le (hi.map p.widen) = !nan := by
    rw [WithNan.le_map, hle]
  have h32 (v : WithNan K) : (Floats.withNan p).f32.clamp? v lo hi = _ := clamp?_eq p.f32 hle v
  have h64 (v : WithNan L)
      : (Floats.withNan p).f64.clamp? v (lo.map p.widen) (hi.map p.widen) = _ :=
    clamp?_eq p.f64 hle' v
  cases current with
  | float32 v =>
    simp only [h32]
    cases nan <;> rfl
  | float64 v =>
    simp only [h64]
    cases nan <;> rfl
  | vec3f v =>
    simp only [h32]
    cases nan with
    | true =>
      dsimp only [cond_true]
      rw [vector_mapM_none]
      rfl
    | false =>
      dsimp only [cond_false]
      exact congrArg (Option.map AttributeValue.vec3f) (Vector.mapM_pure _)
  | _ => rfl

theorem applyFilter?_eq (filter : AttributeFilter (Floats.withNan p))
    : applyFilter? previous current filter
        =
      bif current.kind.filtered && filter.nanBound then
        none
      else
        some (applyFilter previous current filter) := by
  cases filter with
  | passthrough => simp [applyFilter?, applyFilter, AttributeFilter.nanBound]
  | ema alpha => simp [applyFilter?, applyFilter, AttributeFilter.nanBound, applyEma?_eq]
  | deadband threshold => simp [applyFilter?, applyFilter, AttributeFilter.nanBound]
  | clamp min max => exact applyClamp?_eq current min max

theorem applyFilters?_eq (filters : List (AttributeFilter (Floats.withNan p)))
    : applyFilters? previous incoming filters
        =
      bif incoming.kind.filtered && filters.any AttributeFilter.nanBound then
        none
      else
        some (applyFilters previous incoming filters) := by
  unfold applyFilters? applyFilters
  induction filters generalizing incoming with
  | nil => simp
  | cons filter filters ih =>
    have hkind : (applyFilter previous incoming filter).kind = incoming.kind :=
      AttributeValue.kind_eq_of_typeName_eq (typeName_applyFilter previous incoming filter)
    have hrest := ih (applyFilter previous incoming filter)
    rw [hkind] at hrest
    rw [List.foldlM_cons, List.foldl_cons, List.any_cons, applyFilter?_eq]
    cases hnan : incoming.kind.filtered && filter.nanBound with
    | true =>
      obtain ⟨hfiltered, hbound⟩ := Bool.and_eq_true_iff.mp hnan
      simp [hfiltered, hbound]
    | false =>
      rw [Bool.and_or_distrib_left, hnan, Bool.false_or]
      exact hrest

end NanFilters

namespace RuntimeCore

section Calls

variable {F : Floats}

def nextValue? (attr : SceneAttribute F) (value : AttributeValue F) (mask : Option (List Nat))
    : Option (Except CoreError (AttributeValue F)) :=
  match transformStep attr value mask with
  | .error e => some (.error e)
  | .ok transformed => (applyFilters? attr.currentValue transformed attr.filterChain).map .ok

def applyUpdate? (deviceId : Uuid) (activeScene : SceneId) (self : RuntimeCore F)
    (update : AttributeUpdate F) (applied : Applied F)
    : Option (Except CoreError (Applied F × RuntimeCore F)) :=
  match self.route deviceId activeScene update.outputAttribute with
  | none =>
    some (.error (.mappingDenied s!"no active mapping for output '{update.outputAttribute}'"))
  | some mapping =>
    match self.resolve mapping.target with
    | .error e => some (.error e)
    | .ok (object, attr) =>
      if !attr.liveEnabled then
        some (.ok (applied, self))
      else
        match nextValue? attr update.value mapping.componentMask with
        | none => none
        | some (.error e) => some (.error e)
        | some (.ok value) =>
          some (.ok (applied.insert s!"{object}.{attr.name}" value,
            self.writeCurrent mapping.target value))

def applyUpdatesLoop? (deviceId : Uuid) (activeScene : SceneId)
    : RuntimeCore F → List (AttributeUpdate F) → Applied F
        → Option (Except CoreError (Applied F) × RuntimeCore F)
  | self, [], applied => some (.ok applied, { self with tickCount := self.tickCount + 1 })
  | self, update :: updates, applied =>
    match applyUpdate? deviceId activeScene self update applied with
    | none => none
    | some (.error e) => some (.error e, self)
    | some (.ok (applied, self)) => applyUpdatesLoop? deviceId activeScene self updates applied

def applyUpdates? (self : RuntimeCore F) (deviceId : Uuid) (updates : List (AttributeUpdate F))
    (nowNs : Nat) : Option (Except CoreError (Applied F) × RuntimeCore F) :=
  let self := self.heartbeat deviceId nowNs
  if self.mode = .idle then
    some (.ok .empty, self)
  else
    match self.activeScene with
    | none => some (.error (.mappingDenied "no active scene"), self)
    | some activeScene => applyUpdatesLoop? deviceId activeScene self updates .empty

def mappingIdForTarget (self : RuntimeCore F) (t : Target) : Option MappingId :=
  (self.mappings.values.find? (ownsTarget t)).map fun m => m.id

def createMapping? (self : RuntimeCore F) (req : MappingRequest) (nowNs : Nat) (id : MappingId)
    : Option (Except CoreError MappingId × RuntimeCore F) :=
  if self.mode = .recording then
    some (.error .mappingBlockedInRecording, self)
  else
    match self.ensureTargetExists req.target with
    | .error e => some (.error e, self)
    | .ok () =>
      match self.validateComponentMask req.target req.componentMask with
      | .error e => some (.error e, self)
      | .ok () =>
        match self.mappingIdForTarget req.target with
        | none =>
          some (.ok id, { self with mappings := self.mappings.insert (newMapping req nowNs id) })
        | some existingId =>
          match self.mappings.get? existingId with
          -- "mapping id lookup must succeed"
          | none => none
          | some existing =>
            if existing.lock then
              some (.error (.mappingDenied "mapping is locked"), self)
            else if !self.canReclaim existing nowNs then
              some (.error (.mappingDenied "target attribute already owned by active mapping"),
                self)
            else
              some (.ok id,
                { self with
                  mappings :=
                    (self.mappings.shiftRemove existingId).insert (newMapping req nowNs id) })

def step? (self : RuntimeCore F) : RuntimeOp F → Option (RuntimeCore F)
  | .createMapping req nowNs id => (self.createMapping? req nowNs id).map Prod.snd
  | .applyUpdates deviceId updates nowNs =>
    (self.applyUpdates? deviceId updates nowNs).map Prod.snd
  | op => some (self.step op)

/--
A mapping is stored under its own identifier, so the one that is found is found again.
-/
theorem createMapping?_eq (self : RuntimeCore F) (req : MappingRequest) (nowNs : Nat)
    (id : MappingId)
    : self.createMapping? req nowNs id = some (self.createMapping req nowNs id) := by
  have hfind : (self.findMappingForTarget req.target).map Subtype.val
      = self.mappings.values.find? (ownsTarget req.target) :=
    MappingTable.find?_val _ _
  unfold createMapping? createMapping mappingIdForTarget
  rw [← hfind]
  by_cases hmode : self.mode = .recording
  . rw [if_pos hmode, if_pos hmode]
  . rw [if_neg hmode, if_neg hmode]
    cases self.ensureTargetExists req.target with
    | error e => rfl
    | ok _ =>
      dsimp only
      cases self.validateComponentMask req.target req.componentMask with
      | error e => rfl
      | ok _ =>
        dsimp only
        cases self.findMappingForTarget req.target with
        | none => rfl
        | some existing =>
          simp only [Option.map_some, existing.property]
          split
          . rfl
          . split <;> rfl

end Calls

end RuntimeCore

namespace SceneAttribute

def incomingKind {F : Floats} (attr : SceneAttribute F) : ValueKind :=
  if supportsRelativeComposition attr.defaultValue then
    attr.defaultValue.kind
  else
    attr.currentValue.kind

theorem incomingKind_interchangeable {F : Floats} {a b : SceneAttribute F}
    (h : a.Interchangeable b)
    : b.incomingKind = a.incomingKind := by
  obtain ⟨hb, htype⟩ := h
  rw [hb]
  unfold incomingKind
  rcases htype with hrel | htype
  . simp only [hrel, if_true]
  . rw [AttributeValue.kind_eq_of_typeName_eq htype]

end SceneAttribute

theorem kind_transformStep {F : Floats} {attr : SceneAttribute F} {value v : AttributeValue F}
    {mask : Option (List Nat)} (h : transformStep attr value mask = .ok v)
    : v.kind = attr.incomingKind := by
  unfold transformStep at h
  unfold SceneAttribute.incomingKind
  split at h
  . next hrel =>
    rw [if_pos hrel]
    unfold relativeValue at h
    cases hdelta : applyMappingDeltaTransform attr.defaultValue value mask with
    | error e =>
      rw [hdelta] at h
      cases h
    | ok delta =>
      rw [hdelta] at h
      exact kind_composeRelativeValue h
  . next hrel =>
    rw [if_neg hrel]
    exact kind_applyMappingTransform h

variable {K L : Type} [LinearOrder K] [LinearOrder L] {p : Casts K L}

/--
What is written to the attribute goes through a clamp that has a `NaN` for a bound.
-/
def SceneAttribute.clampsAtNan (attr : SceneAttribute (Floats.withNan p)) : Bool :=
  attr.incomingKind.filtered && attr.filterChain.any AttributeFilter.nanBound

def Scene.NanFree (scene : Scene (Floats.withNan p)) : Prop :=
  ∀ objectId name attr, scene.attributeAt objectId name = some attr
    → attr.filterChain.any AttributeFilter.nanBound = false

theorem SceneAttribute.clampsAtNan_interchangeable {a b : SceneAttribute (Floats.withNan p)}
    (h : a.Interchangeable b)
    : b.clampsAtNan = a.clampsAtNan := by
  unfold clampsAtNan
  rw [incomingKind_interchangeable h, h.1]

namespace RuntimeCore

theorem nextValue?_eq (attr : SceneAttribute (Floats.withNan p))
    (value : AttributeValue (Floats.withNan p)) (mask : Option (List Nat))
    : nextValue? attr value mask
        =
      bif (nextValue attr value mask).isOk && attr.clampsAtNan then
        none
      else
        some (nextValue attr value mask) := by
  rw [nextValue_eq]
  unfold nextValue? SceneAttribute.clampsAtNan
  cases hstep : transformStep attr value mask with
  | error e => rfl
  | ok transformed =>
    simp only [applyFilters?_eq, kind_transformStep hstep]
    cases attr.incomingKind.filtered && attr.filterChain.any AttributeFilter.nanBound <;> rfl

section Loop

variable (deviceId : Uuid) (activeScene : SceneId) (self : RuntimeCore (Floats.withNan p))

def routesToNan (update : AttributeUpdate (Floats.withNan p)) : Bool :=
  match self.route deviceId activeScene update.outputAttribute with
  | none => false
  | some m =>
    match self.attributeAt m.target with
    | none => false
    | some attr => attr.liveEnabled && attr.clampsAtNan

theorem applyUpdate?_eq (update : AttributeUpdate (Floats.withNan p))
    (applied : Applied (Floats.withNan p))
    : applyUpdate? deviceId activeScene self update applied
        =
      bif self.accepts deviceId activeScene update
          && self.routesToNan deviceId activeScene update then
        none
      else
        some (applyUpdate deviceId activeScene self update applied) := by
  rw [applyUpdate_eq]
  unfold applyUpdate? accepts routesToNan
  cases self.route deviceId activeScene update.outputAttribute with
  | none => rfl
  | some m =>
    dsimp only
    rw [attributeAt_eq_resolve]
    cases self.resolve m.target with
    | error e => rfl
    | ok found =>
      obtain ⟨object, attr⟩ := found
      dsimp only [Except.toOption, Option.map_some]
      cases attr.liveEnabled with
      | false => simp
      | true =>
        rw [nextValue?_eq]
        cases nextValue attr update.value m.componentMask with
        | error e => simp [Except.isOk, Except.toBool]
        | ok v => cases attr.clampsAtNan <;> rfl

variable {deviceId activeScene self}

theorem Drifted.routesToNan_eq {self' : RuntimeCore (Floats.withNan p)} (h : Drifted self self')
    : self'.routesToNan deviceId activeScene = self.routesToNan deviceId activeScene := by
  funext update
  unfold routesToNan
  rw [h.route_eq]
  cases self.route deviceId activeScene update.outputAttribute with
  | none => rfl
  | some m =>
    dsimp only
    have hattr := h.2 m.target
    generalize self.attributeAt m.target = before at hattr
    generalize self'.attributeAt m.target = after at hattr
    cases hattr with
    | none => rfl
    | some hsame =>
      dsimp only
      rw [SceneAttribute.clampsAtNan_interchangeable hsame, hsame.1]

theorem routesToNan_heartbeat (deviceId' : Uuid) (nowNs : Nat)
    : (self.heartbeat deviceId' nowNs).routesToNan deviceId activeScene
        =
      self.routesToNan deviceId activeScene := by
  funext update
  unfold routesToNan
  rw [route_heartbeat]
  cases self.route deviceId activeScene update.outputAttribute with
  | none => rfl
  | some m =>
    simp only [Option.map_some, (m.beat_keeps deviceId' nowNs).2.1]
    rfl

theorem routesToNan_iff {update : AttributeUpdate (Floats.withNan p)}
    : self.routesToNan deviceId activeScene update = true
        ↔
      ∃ t attr, self.RoutedTo deviceId activeScene t update ∧ self.attributeAt t = some attr
        ∧ attr.liveEnabled = true ∧ attr.clampsAtNan = true := by
  unfold routesToNan RoutedTo
  cases self.route deviceId activeScene update.outputAttribute with
  | none => simp
  | some m =>
    cases hattr : self.attributeAt m.target with
    | none => simp [hattr]
    | some attr => simp [hattr]

theorem applyUpdatesLoop?_eq (updates : List (AttributeUpdate (Floats.withNan p)))
    (applied : Applied (Floats.withNan p))
    : applyUpdatesLoop? deviceId activeScene self updates applied
        =
      bif (updates.takeWhile (self.accepts deviceId activeScene)).any
          (self.routesToNan deviceId activeScene) then
        none
      else
        some (applyUpdatesLoop deviceId activeScene self updates applied) := by
  induction updates generalizing self applied with
  | nil => rfl
  | cons update updates ih =>
    have hok : (applyUpdate deviceId activeScene self update applied).isOk = _ :=
      isOk_applyUpdate self update applied
    simp only [applyUpdatesLoop?, applyUpdatesLoop, applyUpdate?_eq, List.takeWhile_cons, ← hok]
    cases hstep : applyUpdate deviceId activeScene self update applied with
    | error e => rfl
    | ok next =>
      obtain ⟨applied', self'⟩ := next
      have hdrift := drifted_applyUpdate hstep
      have hrest : applyUpdatesLoop? deviceId activeScene self' updates applied' = _ := ih applied'
      rw [hdrift.accepts_eq, hdrift.routesToNan_eq] at hrest
      cases hnan : self.routesToNan deviceId activeScene update with
      | true => simp [Except.isOk, Except.toBool, hnan]
      | false => simpa [Except.isOk, Except.toBool, hnan] using hrest

end Loop

section Step

variable {s : RuntimeCore (Floats.withNan p)}

def ClampsAtNan (s : RuntimeCore (Floats.withNan p)) : RuntimeOp (Floats.withNan p) → Prop
  | .applyUpdates deviceId updates _ =>
    ∃ t attr, s.Reaches t deviceId updates ∧ s.attributeAt t = some attr
      ∧ attr.liveEnabled = true ∧ attr.clampsAtNan = true
  | _ => False

theorem clampsAtNan_applyUpdates_iff {deviceId : Uuid} {activeScene : SceneId}
    (hmode : s.mode ≠ .idle) (hscene : s.activeScene = some activeScene)
    {updates : List (AttributeUpdate (Floats.withNan p))} {nowNs : Nat}
    : s.ClampsAtNan (.applyUpdates deviceId updates nowNs)
        ↔
      (updates.takeWhile (s.accepts deviceId activeScene)).any
        (s.routesToNan deviceId activeScene) = true := by
  rw [List.any_eq_true]
  constructor
  . rintro ⟨t, attr, ⟨-, scene, hactive, update, hmem, hrouted⟩, hattr, hlive, hnan⟩
    rw [hscene, Option.some.injEq] at hactive
    subst hactive
    exact ⟨update, hmem, routesToNan_iff.mpr ⟨t, attr, hrouted, hattr, hlive, hnan⟩⟩
  . rintro ⟨update, hmem, hroutes⟩
    obtain ⟨t, attr, hrouted, hattr, hlive, hnan⟩ := routesToNan_iff.mp hroutes
    exact ⟨t, attr, ⟨hmode, activeScene, hscene, update, hmem, hrouted⟩, hattr, hlive, hnan⟩

theorem applyUpdates?_of_activeScene {deviceId : Uuid} {activeScene : SceneId}
    (hmode : s.mode ≠ .idle) (hscene : s.activeScene = some activeScene)
    (updates : List (AttributeUpdate (Floats.withNan p))) (nowNs : Nat)
    : s.applyUpdates? deviceId updates nowNs
        =
      bif (updates.takeWhile (s.accepts deviceId activeScene)).any
          (s.routesToNan deviceId activeScene) then
        none
      else
        some (s.applyUpdates deviceId updates nowNs) := by
  have hmode' : (s.heartbeat deviceId nowNs).mode ≠ .idle := hmode
  have hscene' : (s.heartbeat deviceId nowNs).activeScene = some activeScene := hscene
  rw [applyUpdates_of_activeScene hmode hscene]
  simp only [applyUpdates?, if_neg hmode', hscene']
  rw [applyUpdatesLoop?_eq, accepts_heartbeat, routesToNan_heartbeat]

theorem applyUpdates?_of_not_reached {deviceId : Uuid}
    (h : s.mode = .idle ∨ s.activeScene = none)
    (updates : List (AttributeUpdate (Floats.withNan p))) (nowNs : Nat)
    : s.applyUpdates? deviceId updates nowNs = some (s.applyUpdates deviceId updates nowNs) := by
  unfold applyUpdates? applyUpdates
  dsimp only
  split
  . rfl
  . next hmode =>
    have hscene : (s.heartbeat deviceId nowNs).activeScene = none := h.resolve_left hmode
    rw [hscene]

theorem step?_cases (s : RuntimeCore (Floats.withNan p)) (op : RuntimeOp (Floats.withNan p))
    : (s.ClampsAtNan op ∧ s.step? op = none)
        ∨
      (¬ s.ClampsAtNan op ∧ s.step? op = some (s.step op)) := by
  cases op with
  | createMapping req nowNs id =>
    refine .inr ⟨not_false, ?_⟩
    rw [step?, createMapping?_eq]
    rfl
  | applyUpdates deviceId updates nowNs =>
    have hskip (h : s.mode = .idle ∨ s.activeScene = none)
        : s.step? (.applyUpdates deviceId updates nowNs)
            = some (s.step (.applyUpdates deviceId updates nowNs)) := by
      rw [step?, applyUpdates?_of_not_reached h]
      rfl
    by_cases hmode : s.mode = .idle
    . refine .inr ⟨?_, hskip (.inl hmode)⟩
      rintro ⟨t, attr, hreaches, -⟩
      exact hreaches.1 hmode
    . cases hscene : s.activeScene with
      | none =>
        refine .inr ⟨?_, hskip (.inr hscene)⟩
        rintro ⟨t, attr, ⟨-, activeScene, hactive, -⟩, -⟩
        rw [hscene] at hactive
        cases hactive
      | some activeScene =>
        rw [clampsAtNan_applyUpdates_iff hmode hscene, step?,
          applyUpdates?_of_activeScene hmode hscene]
        cases (updates.takeWhile (s.accepts deviceId activeScene)).any
            (s.routesToNan deviceId activeScene) with
        | true => exact .inl ⟨rfl, rfl⟩
        | false => exact .inr ⟨Bool.false_ne_true, rfl⟩
  | _ => exact .inr ⟨not_false, rfl⟩

theorem step?_of_not_clampsAtNan {op : RuntimeOp (Floats.withNan p)} (h : ¬ s.ClampsAtNan op)
    : s.step? op = some (s.step op) :=
  ((s.step?_cases op).resolve_left fun hcase => h hcase.1).2

theorem step?_of_clampsAtNan {op : RuntimeOp (Floats.withNan p)} (h : s.ClampsAtNan op)
    : s.step? op = none :=
  ((s.step?_cases op).resolve_right fun hcase => hcase.1 h).2

theorem evolves_filterChain {F : Floats}
    : Evolves fun before after : SceneAttribute F => after.filterChain = before.filterChain where
  refl _ := rfl
  trans hab hbc := hbc.trans hab
  write _ := rfl
  reset attr := by
    unfold BaselineSync.sync
    split <;> rfl
  commit attr := by
    unfold BaselineSync.sync
    split <;> rfl

def NanFree (s : RuntimeCore (Floats.withNan p)) : Prop :=
  ∀ t attr, s.attributeAt t = some attr
    → attr.filterChain.any AttributeFilter.nanBound = false

theorem nanFree_step (h : s.NanFree) {op : RuntimeOp (Floats.withNan p)}
    (hop : ∀ scene, op = .loadScene scene → scene.NanFree)
    : (s.step op).NanFree := by
  intro t attr hattr
  by_cases hload : ∃ scene, op = .loadScene scene
  . obtain ⟨scene, rfl⟩ := hload
    simp only [step, attributeAt_loadScene] at hattr
    split at hattr
    . exact hop scene rfl _ _ _ hattr
    . exact h t attr hattr
  . have hrel : Option.Rel _ (s.attributeAt t) ((s.step op).attributeAt t) :=
      evolves_filterChain.step (fun scene heq => hload ⟨scene, heq⟩) t
    rw [hattr] at hrel
    generalize hfound : s.attributeAt t = found at hrel
    cases hrel with
    | some hchain =>
      rw [hchain]
      exact h t _ hfound

theorem not_clampsAtNan_of_nanFree (h : s.NanFree) (op : RuntimeOp (Floats.withNan p))
    : ¬ s.ClampsAtNan op := by
  cases op with
  | applyUpdates deviceId updates nowNs =>
    rintro ⟨t, attr, -, hattr, -, hnan⟩
    unfold SceneAttribute.clampsAtNan at hnan
    rw [h t attr hattr, Bool.and_false] at hnan
    cases hnan
  | _ => exact not_false

theorem run?_of_nanFree (lease : LeaseConfig) {ops : List (RuntimeOp (Floats.withNan p))}
    (hops : ∀ scene, .loadScene scene ∈ ops → scene.NanFree)
    : Run.run? step? (new lease) ops = some (Run.run step (new lease) ops) := by
  apply Run.run?_of_allSteps fun s op hsafe => step?_of_not_clampsAtNan hsafe
  apply Run.allSteps_of_invariant (P := NanFree)
    (C := fun _ op => ∀ scene, op = .loadScene scene → scene.NanFree)
  . intro s op h hop
    exact nanFree_step h hop
  . intro s op h _
    exact not_clampsAtNan_of_nanFree h op
  . intro t attr hattr
    cases hattr
  . apply Run.allSteps_of_forall
    rintro op hop scene rfl
    exact hops scene hop

end Step

theorem noPanic_run_iff (lease : LeaseConfig) (ops : List (RuntimeOp (Floats.withNan p)))
    : ((Run.run? step? (new lease) ops).isSome = true
          ↔
        Run.AllSteps step (fun s op => ¬ s.ClampsAtNan op) (new lease) ops)
      ∧ ∀ s, Run.run? step? (new lease) ops = some s
          → ∀ req nowNs id, (s.createMapping? req nowNs id).isSome = true := by
  constructor
  . apply Run.isSome_run?_iff
    . intro s op hsafe
      exact step?_of_not_clampsAtNan hsafe
    . intro s op hclamps
      exact step?_of_clampsAtNan (not_not.mp hclamps)
  . intro s _ req nowNs id
    rw [createMapping?_eq]
    rfl

/--
A dial with an upper bound only: the lower bound of its clamp is a `NaN`.
-/
def unboundedDial : SceneAttribute (Floats.withNan .rational) :=
  { SceneAttribute.new "dial" (.float32 (WithNan.num 0)) with
    filterChain := [.clamp WithNan.nan (WithNan.num 1)] }

theorem noPanic_fails
    : Run.run? step? (new .default)
        [.loadScene ((Scene.new 1 "stage").withObject
            ((SceneObject.new 2 "panel").withAttribute unboundedDial)),
          .setMode .live, .createMapping (switchRequest 7 "dial") 10 100,
          .applyUpdates 7 [⟨"button", .float32 (WithNan.num 8)⟩] 20] = none :=
  rfl

end RuntimeCore

end MotionStage
