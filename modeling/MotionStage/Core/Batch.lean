import MotionStage.Core.Shape
import MotionStage.Core.Update

/-!
This module contains the exact effect of `apply_updates` on every single attribute: which updates
of a batch are accepted, and what the accepted ones add up to.
-/

namespace MotionStage

variable {F : Floats}

namespace RuntimeCore

def resolve (self : RuntimeCore F) (t : Target) : Except CoreError (String × SceneAttribute F) :=
  match self.scenes.get? t.scene with
  | none => .error (.sceneNotFound t.scene)
  | some scene =>
    match scene.objects.get? t.object with
    | none => .error (.objectNotFound t.object)
    | some object =>
      match object.attributes.get? t.attr with
      | none => .error (.attributeNotFound t.attr)
      | some attr => .ok (object.name, attr)

theorem attributeAt_eq_resolve (self : RuntimeCore F) (t : Target)
    : self.attributeAt t = (self.resolve t).toOption.map Prod.snd := by
  unfold attributeAt resolve
  cases self.scenes.get? t.scene with
  | none => rfl
  | some scene =>
    dsimp only [Option.bind_some]
    cases scene.objects.get? t.object with
    | none => rfl
    | some object =>
      dsimp only [Option.bind_some]
      cases object.attributes.get? t.attr <;> rfl

theorem applyUpdate_eq (deviceId : Uuid) (activeScene : SceneId) (self : RuntimeCore F)
    (update : AttributeUpdate F) (applied : Applied F)
    : applyUpdate deviceId activeScene self update applied
        =
      match self.route deviceId activeScene update.outputAttribute with
      | none =>
        .error (.mappingDenied s!"no active mapping for output '{update.outputAttribute}'")
      | some mapping =>
        match self.resolve mapping.target with
        | .error e => .error e
        | .ok (object, attr) =>
          if !attr.liveEnabled then
            .ok (applied, self)
          else
            match nextValue attr update.value mapping.componentMask with
            | .error e => .error e
            | .ok value =>
              .ok (applied.insert s!"{object}.{attr.name}" value,
                self.writeCurrent mapping.target value) := by
  unfold applyUpdate resolve Mapping.target
  cases self.route deviceId activeScene update.outputAttribute with
  | none => rfl
  | some m =>
    dsimp only
    cases self.scenes.get? m.targetScene with
    | none => rfl
    | some scene =>
      dsimp only
      cases scene.objects.get? m.targetObject with
      | none => rfl
      | some object =>
        dsimp only
        cases object.attributes.get? m.targetAttribute <;> rfl

theorem route_eq (self : RuntimeCore F) (deviceId : Uuid) (activeScene : SceneId)
    (output : String)
    : self.route deviceId activeScene output
        =
      self.mappings.values.find? fun m =>
        m.state == .active && m.sourceDevice == deviceId
          && sourceOutputMatches m.sourceOutput deviceId output
          && m.targetScene == activeScene :=
  MappingTable.find?_val _ _

theorem route_matches {self : RuntimeCore F} {deviceId : Uuid} {activeScene : SceneId}
    {output : String} {m : Mapping} (h : self.route deviceId activeScene output = some m)
    : sourceOutputMatches m.sourceOutput deviceId output = true := by
  rw [route_eq] at h
  have hroutes := List.find?_some h
  simp only [Bool.and_eq_true] at hroutes
  exact hroutes.1.2

theorem route_heartbeat (self : RuntimeCore F) (deviceId deviceId' : Uuid) (nowNs : Nat)
    (activeScene : SceneId) (output : String)
    : (self.heartbeat deviceId nowNs).route deviceId' activeScene output
        =
      (self.route deviceId' activeScene output).map (Mapping.beat deviceId nowNs) := by
  simp only [route_eq, heartbeat, MappingTable.values_mapValues, List.find?_map]
  congr 2
  funext m
  simp only [Function.comp_apply, Mapping.beat]
  split <;> rfl

section Accepts

variable (deviceId : Uuid) (activeScene : SceneId)

/--
Whether the loop of `apply_updates` accepts an update: it is routed, its target exists, and the
value has a type that the pipeline takes, unless the attribute is not live.
-/
def accepts (self : RuntimeCore F) (update : AttributeUpdate F) : Bool :=
  match self.route deviceId activeScene update.outputAttribute with
  | none => false
  | some m =>
    match self.attributeAt m.target with
    | none => false
    | some attr => !attr.liveEnabled || (nextValue attr update.value m.componentMask).isOk

def settleOne (self : RuntimeCore F) (t : Target) (attr : SceneAttribute F)
    (update : AttributeUpdate F) : SceneAttribute F :=
  match self.route deviceId activeScene update.outputAttribute with
  | none => attr
  | some m =>
    if m.target = t ∧ attr.liveEnabled = true then
      match nextValue attr update.value m.componentMask with
      | .error _ => attr
      | .ok value => { attr with currentValue := value }
    else
      attr

def settle (self : RuntimeCore F) (t : Target) (attr : SceneAttribute F)
    (updates : List (AttributeUpdate F)) : SceneAttribute F :=
  updates.foldl (self.settleOne deviceId activeScene t) attr

variable {deviceId activeScene}

theorem isOk_applyUpdate (self : RuntimeCore F) (update : AttributeUpdate F) (applied : Applied F)
    : (applyUpdate deviceId activeScene self update applied).isOk
        =
      self.accepts deviceId activeScene update := by
  rw [applyUpdate_eq]
  unfold accepts
  cases self.route deviceId activeScene update.outputAttribute with
  | none => rfl
  | some m =>
    dsimp only
    rw [attributeAt_eq_resolve]
    cases self.resolve m.target with
    | error e => rfl
    | ok found =>
      obtain ⟨object, attr⟩ := found
      dsimp only [Except.toOption, Option.map_some]
      cases attr.liveEnabled with
      | false => rfl
      | true =>
        cases nextValue attr update.value m.componentMask <;> rfl

theorem attributeAt_applyUpdate_eq {self self' : RuntimeCore F} {update : AttributeUpdate F}
    {applied applied' : Applied F}
    (h : applyUpdate deviceId activeScene self update applied = .ok (applied', self'))
    (t : Target)
    : self'.attributeAt t
        =
      (self.attributeAt t).map fun attr =>
        self.settleOne deviceId activeScene t attr update := by
  obtain ⟨m, attr, hroute, hattr, hcases⟩ := applyUpdate_spec h
  simp only [settleOne, hroute]
  by_cases ht : m.target = t
  . subst ht
    rw [hattr]
    rcases hcases with ⟨hlive, rfl⟩ | ⟨hlive, v, hv, rfl⟩
    . simp [hattr, hlive]
    . simp [attributeAt_writeCurrent, hattr, hlive, hv]
  . rcases hcases with ⟨-, rfl⟩ | ⟨-, v, -, rfl⟩
    . simp [ht]
    . simp [attributeAt_writeCurrent, ht, Ne.symm ht]

theorem rel_map {α : Type} {R : α → α → Prop} {f : α → α} (hf : ∀ a, R a (f a)) (found : Option α)
    : Option.Rel R found (found.map f) := by
  cases found with
  | none => exact .none
  | some a => exact .some (hf a)

theorem rel_self {α : Type} {R : α → α → Prop} (hR : ∀ a, R a a) (found : Option α)
    : Option.Rel R found found := by
  simpa using rel_map hR found

/--
The state `s'` is reached from `s` by writes of the loop: what it routes and what it accepts is the
same as in `s`.
-/
def Drifted (s s' : RuntimeCore F) : Prop :=
  s'.mappings = s.mappings
    ∧ ∀ t, Option.Rel SceneAttribute.Interchangeable (s.attributeAt t) (s'.attributeAt t)

theorem interchangeable_settleOne (self : RuntimeCore F) (t : Target) (attr : SceneAttribute F)
    (update : AttributeUpdate F)
    : attr.Interchangeable (self.settleOne deviceId activeScene t attr update) := by
  unfold settleOne
  split
  . exact .refl attr
  . split
    . split
      . exact .refl attr
      . next hv => exact interchangeable_nextValue hv
    . exact .refl attr

theorem drifted_applyUpdate {self self' : RuntimeCore F} {update : AttributeUpdate F}
    {applied applied' : Applied F}
    (h : applyUpdate deviceId activeScene self update applied = .ok (applied', self'))
    : Drifted self self' := by
  constructor
  . rw [applyUpdate_frame h]
  . intro t
    rw [attributeAt_applyUpdate_eq h]
    exact rel_map (fun attr => interchangeable_settleOne self t attr update) _

theorem Drifted.route_eq {s s' : RuntimeCore F} (h : Drifted s s')
    : s'.route deviceId activeScene = s.route deviceId activeScene := by
  funext output
  rw [RuntimeCore.route_eq, RuntimeCore.route_eq, h.1]

theorem Drifted.accepts_eq {s s' : RuntimeCore F} (h : Drifted s s')
    : s'.accepts deviceId activeScene = s.accepts deviceId activeScene := by
  funext update
  unfold accepts
  rw [h.route_eq]
  cases s.route deviceId activeScene update.outputAttribute with
  | none => rfl
  | some m =>
    dsimp only
    have hattr := h.2 m.target
    generalize s.attributeAt m.target = before at hattr
    generalize s'.attributeAt m.target = after at hattr
    cases hattr with
    | none => rfl
    | some hsame =>
      dsimp only
      rw [isOk_nextValue hsame]
      rw [hsame.1]

theorem Drifted.settle_eq {s s' : RuntimeCore F} (h : Drifted s s')
    : s'.settle deviceId activeScene = s.settle deviceId activeScene := by
  funext t attr updates
  unfold settle settleOne
  rw [h.route_eq]

theorem settle_eq_self {self : RuntimeCore F} {t : Target} {attr : SceneAttribute F}
    {updates : List (AttributeUpdate F)}
    (h : attr.liveEnabled = false
      ∨ ∀ update ∈ updates, ∀ m,
          self.route deviceId activeScene update.outputAttribute = some m → m.target ≠ t)
    : self.settle deviceId activeScene t attr updates = attr := by
  induction updates with
  | nil => rfl
  | cons update updates ih =>
    have hone : self.settleOne deviceId activeScene t attr update = attr := by
      unfold settleOne
      split
      . rfl
      . next m hroute =>
        rw [if_neg]
        rintro ⟨ht, hlive⟩
        rcases h with hlive' | hroutes
        . rw [hlive'] at hlive
          cases hlive
        . exact hroutes update List.mem_cons_self m hroute ht
    have hrest : self.settle deviceId activeScene t attr updates = attr := by
      apply ih
      exact h.imp_right fun hroutes update hmem => hroutes update (List.mem_cons_of_mem _ hmem)
    simp only [settle, List.foldl_cons, hone]
    exact hrest

theorem interchangeable_settle (self : RuntimeCore F) (t : Target) (attr : SceneAttribute F)
    (updates : List (AttributeUpdate F))
    : attr.Interchangeable (self.settle deviceId activeScene t attr updates) := by
  unfold settle
  induction updates generalizing attr with
  | nil => exact .refl attr
  | cons update updates ih =>
    exact (interchangeable_settleOne self t attr update).trans (ih _)

theorem settle_defaultValue (self : RuntimeCore F) (t : Target) (attr : SceneAttribute F)
    (updates : List (AttributeUpdate F))
    : (self.settle deviceId activeScene t attr updates).defaultValue = attr.defaultValue := by
  rw [(interchangeable_settle self t attr updates).1]

variable (deviceId activeScene)

theorem applyUpdatesLoop_spec (self : RuntimeCore F) (updates : List (AttributeUpdate F))
    (applied : Applied F)
    : let (result, self') := applyUpdatesLoop deviceId activeScene self updates applied
      result.isOk = updates.all (self.accepts deviceId activeScene)
        ∧ self'.tickCount = self.tickCount + result.isOk.toNat
        ∧ ∀ t, self'.attributeAt t = (self.attributeAt t).map fun attr =>
            self.settle deviceId activeScene t attr
              (updates.takeWhile (self.accepts deviceId activeScene)) := by
  induction updates generalizing self applied with
  | nil =>
    refine ⟨rfl, rfl, ?_⟩
    intro t
    simp [settle, attributeAt]
  | cons update updates ih =>
    have hok : (applyUpdate deviceId activeScene self update applied).isOk = _ :=
      isOk_applyUpdate self update applied
    simp only [applyUpdatesLoop, List.all_cons, List.takeWhile_cons, ← hok]
    cases hstep : applyUpdate deviceId activeScene self update applied with
    | error e => simp [settle, Except.isOk, Except.toBool]
    | ok next =>
      obtain ⟨applied', self'⟩ := next
      have hdrift := drifted_applyUpdate hstep
      obtain ⟨hresult, htick, hattr⟩ := ih self' applied'
      rw [hdrift.accepts_eq] at hresult hattr
      rw [hdrift.settle_eq] at hattr
      dsimp only
      refine ⟨?_, ?_, ?_⟩
      . rw [hresult]
        rfl
      . rw [htick, applyUpdate_frame hstep]
      . intro t
        rw [hattr, attributeAt_applyUpdate_eq hstep, Option.map_map]
        rfl

theorem accepts_heartbeat (self : RuntimeCore F) (deviceId' : Uuid) (nowNs : Nat)
    : (self.heartbeat deviceId' nowNs).accepts deviceId activeScene
        =
      self.accepts deviceId activeScene := by
  funext update
  unfold accepts
  rw [route_heartbeat]
  cases self.route deviceId activeScene update.outputAttribute with
  | none => rfl
  | some m =>
    simp only [Option.map_some, (m.beat_keeps deviceId' nowNs).2.1, m.beat_componentMask]
    rfl

theorem settle_heartbeat (self : RuntimeCore F) (deviceId' : Uuid) (nowNs : Nat)
    : (self.heartbeat deviceId' nowNs).settle deviceId activeScene
        =
      self.settle deviceId activeScene := by
  have hone : (self.heartbeat deviceId' nowNs).settleOne deviceId activeScene
      = self.settleOne deviceId activeScene := by
    funext t attr update
    unfold settleOne
    rw [route_heartbeat]
    cases self.route deviceId activeScene update.outputAttribute with
    | none => rfl
    | some m =>
      simp only [Option.map_some, (m.beat_keeps deviceId' nowNs).2.1, m.beat_componentMask]
  funext t attr updates
  rw [settle, hone, settle]

end Accepts

section Call

variable {self : RuntimeCore F} {deviceId : Uuid}

theorem applyUpdates_of_idle (hmode : self.mode = .idle) (updates : List (AttributeUpdate F))
    (nowNs : Nat)
    : self.applyUpdates deviceId updates nowNs = (.ok .empty, self.heartbeat deviceId nowNs) := by
  have hmode' : (self.heartbeat deviceId nowNs).mode = .idle := hmode
  simp only [applyUpdates, if_pos hmode']

theorem applyUpdates_of_noScene (hmode : self.mode ≠ .idle) (hscene : self.activeScene = none)
    (updates : List (AttributeUpdate F)) (nowNs : Nat)
    : self.applyUpdates deviceId updates nowNs
        =
      (.error (.mappingDenied "no active scene"), self.heartbeat deviceId nowNs) := by
  have hmode' : (self.heartbeat deviceId nowNs).mode ≠ .idle := hmode
  have hscene' : (self.heartbeat deviceId nowNs).activeScene = none := hscene
  simp only [applyUpdates, if_neg hmode', hscene']

theorem applyUpdates_of_activeScene {activeScene : SceneId} (hmode : self.mode ≠ .idle)
    (hscene : self.activeScene = some activeScene) (updates : List (AttributeUpdate F))
    (nowNs : Nat)
    : self.applyUpdates deviceId updates nowNs
        =
      applyUpdatesLoop deviceId activeScene (self.heartbeat deviceId nowNs) updates .empty := by
  have hmode' : (self.heartbeat deviceId nowNs).mode ≠ .idle := hmode
  have hscene' : (self.heartbeat deviceId nowNs).activeScene = some activeScene := hscene
  simp only [applyUpdates, if_neg hmode', hscene']

end Call

inductive Applies (self : RuntimeCore F) (deviceId : Uuid) (updates : List (AttributeUpdate F))
    (nowNs : Nat) : Except CoreError (Applied F) × RuntimeCore F → Prop where
  | idle (hmode : self.mode = .idle)
    : Applies self deviceId updates nowNs (.ok .empty, self.heartbeat deviceId nowNs)
  | noScene (hmode : self.mode ≠ .idle) (hscene : self.activeScene = none)
    : Applies self deviceId updates nowNs
        (.error (.mappingDenied "no active scene"), self.heartbeat deviceId nowNs)
  | loop (activeScene result self') (hmode : self.mode ≠ .idle)
    (hscene : self.activeScene = some activeScene)
    (hresult : result.isOk = updates.all (self.accepts deviceId activeScene))
    (htick : self'.tickCount = self.tickCount + result.isOk.toNat)
    (hattr : ∀ t, self'.attributeAt t = (self.attributeAt t).map fun attr =>
      self.settle deviceId activeScene t attr
        (updates.takeWhile (self.accepts deviceId activeScene)))
    : Applies self deviceId updates nowNs (result, self')

theorem applies_applyUpdates (self : RuntimeCore F) (deviceId : Uuid)
    (updates : List (AttributeUpdate F)) (nowNs : Nat)
    : Applies self deviceId updates nowNs (self.applyUpdates deviceId updates nowNs) := by
  by_cases hmode : self.mode = .idle
  . rw [applyUpdates_of_idle hmode]
    exact .idle hmode
  . cases hscene : self.activeScene with
    | none =>
      rw [applyUpdates_of_noScene hmode hscene]
      exact .noScene hmode hscene
    | some activeScene =>
      rw [applyUpdates_of_activeScene hmode hscene]
      obtain ⟨hresult, htick, hattr⟩ := applyUpdatesLoop_spec deviceId activeScene
        (self.heartbeat deviceId nowNs) updates .empty
      rw [accepts_heartbeat] at hresult hattr
      rw [settle_heartbeat] at hattr
      exact .loop activeScene _ _ hmode hscene hresult htick hattr

theorem attributeAt_of_unrouted {s : RuntimeCore F} {deviceId : Uuid}
    {updates : List (AttributeUpdate F)} {nowNs : Nat} {t : Target}
    (h : ∀ activeScene ∈ s.activeScene, ∀ update ∈ updates, ∀ m,
      s.route deviceId activeScene update.outputAttribute = some m → m.target ≠ t)
    : (s.applyUpdates deviceId updates nowNs).2.attributeAt t = s.attributeAt t := by
  have happlies := s.applies_applyUpdates deviceId updates nowNs
  generalize s.applyUpdates deviceId updates nowNs = r at happlies
  cases happlies with
  | idle => rfl
  | noScene => rfl
  | loop activeScene result s' _ hscene _ _ hattr =>
    have hsettle : ∀ attr, s.settle deviceId activeScene t attr
        (updates.takeWhile (s.accepts deviceId activeScene)) = attr := by
      intro attr
      apply settle_eq_self
      refine .inr ?_
      intro update hupdate
      exact h activeScene hscene update ((List.takeWhile_sublist _).subset hupdate)
    simp [hattr, hsettle]

def currentAt (self : RuntimeCore F) (t : Target) : Option (AttributeValue F) :=
  (self.attributeAt t).map fun attr => attr.currentValue

def defaultAt (self : RuntimeCore F) (t : Target) : Option (AttributeValue F) :=
  (self.attributeAt t).map fun attr => attr.defaultValue

/--
The state `s'` differs from `s` at most in the heartbeat of the mappings of a device.
-/
structure OnlyBeats (deviceId : Uuid) (nowNs : Nat) (s s' : RuntimeCore F) : Prop where
  currentAt : ∀ t, s'.currentAt t = s.currentAt t
  defaultAt : ∀ t, s'.defaultAt t = s.defaultAt t
  activeScene : s'.activeScene = s.activeScene
  mode : s'.mode = s.mode
  tickCount : s'.tickCount = s.tickCount
  connectedDevices : s'.connectedDevices = s.connectedDevices
  mappings : s'.mappings = (s.heartbeat deviceId nowNs).mappings

/--
The batch has no unacceptable update, or the acceptable ones in front of it leave every attribute at
the value it has. Without an active scene, and in idle mode, no update is looked at.
-/
def SettlesInPlace (self : RuntimeCore F) (deviceId : Uuid) (updates : List (AttributeUpdate F))
    : Prop :=
  self.mode = .idle ∨ ∀ activeScene ∈ self.activeScene,
    updates.all (self.accepts deviceId activeScene) = true
      ∨ ∀ t attr, self.attributeAt t = some attr →
          (self.settle deviceId activeScene t attr
            (updates.takeWhile (self.accepts deviceId activeScene))).currentValue
              =
            attr.currentValue

theorem onlyBeats_heartbeat (self : RuntimeCore F) (deviceId : Uuid) (nowNs : Nat)
    : OnlyBeats deviceId nowNs self (self.heartbeat deviceId nowNs) :=
  ⟨fun _ => rfl, fun _ => rfl, rfl, rfl, rfl, rfl, rfl⟩

theorem onlyBeats_of_error_iff (self : RuntimeCore F) (deviceId : Uuid)
    (updates : List (AttributeUpdate F)) (nowNs : Nat)
    : (∀ e, (self.applyUpdates deviceId updates nowNs).1 = .error e →
        OnlyBeats deviceId nowNs self (self.applyUpdates deviceId updates nowNs).2)
        ↔
      self.SettlesInPlace deviceId updates := by
  have hframe := self.applyUpdates_frame deviceId updates nowNs
  have happlies := self.applies_applyUpdates deviceId updates nowNs
  generalize self.applyUpdates deviceId updates nowNs = r at hframe happlies
  cases happlies with
  | idle hmode => simp [SettlesInPlace, hmode]
  | noScene hmode hscene =>
    simp only [SettlesInPlace, hscene, Option.mem_def, reduceCtorEq, false_implies, implies_true,
      or_true, iff_true]
    intro e he
    exact self.onlyBeats_heartbeat deviceId nowNs
  | loop activeScene result self' hmode hscene hresult htick hattr =>
    simp only [SettlesInPlace, hmode, hscene, Option.mem_def, Option.some.injEq, forall_eq',
      false_or, ← hresult]
    dsimp only at hframe ⊢
    cases result with
    | ok applied => simp [Except.isOk, Except.toBool]
    | error e =>
      simp only [Except.isOk, Except.toBool, Bool.false_eq_true, false_or]
      constructor
      . intro h t attr ht
        have hcurrent := (h e rfl).currentAt t
        simpa [currentAt, hattr, ht] using hcurrent
      . intro h e' _
        refine ⟨?_, ?_, ?_, ?_, htick, ?_, ?_⟩
        . intro t
          simp only [currentAt, hattr]
          cases ht : self.attributeAt t with
          | none => rfl
          | some attr => simp [h t attr ht]
        . intro t
          simp only [defaultAt, hattr, Option.map_map]
          congr 1
          funext attr
          exact settle_defaultValue self t attr _
        . rw [hframe]; rfl
        . rw [hframe]; rfl
        . rw [hframe]; rfl
        . rw [hframe]

/--
No update in front of the first unacceptable one goes to a live attribute, or there is no
unacceptable one. Without an active scene, and in idle mode, no update is looked at.
-/
def RejectsBeforeWriting (self : RuntimeCore F) (deviceId : Uuid)
    (updates : List (AttributeUpdate F)) : Prop :=
  self.mode = .idle ∨ ∀ activeScene ∈ self.activeScene,
    updates.all (self.accepts deviceId activeScene) = true
      ∨ ∀ update ∈ updates.takeWhile (self.accepts deviceId activeScene),
          ∀ m ∈ self.route deviceId activeScene update.outputAttribute,
            ∀ attr ∈ self.attributeAt m.target, attr.liveEnabled = false

theorem settlesInPlace_of_rejectsBeforeWriting {self : RuntimeCore F} {deviceId : Uuid}
    {updates : List (AttributeUpdate F)} (h : self.RejectsBeforeWriting deviceId updates)
    : self.SettlesInPlace deviceId updates := by
  rcases h with hidle | h
  . exact .inl hidle
  . refine .inr fun activeScene hactive => (h activeScene hactive).imp_right ?_
    intro hfront t attr hattr
    -- an update to `t` in front shows that the attribute there is not live
    rw [settle_eq_self]
    by_cases hlive : attr.liveEnabled = false
    . exact .inl hlive
    . refine .inr ?_
      rintro update hupdate m hroute rfl
      exact hlive (hfront update hupdate m hroute attr hattr)

theorem applyUpdates_atomic {self : RuntimeCore F} {deviceId : Uuid}
    {updates : List (AttributeUpdate F)} (h : self.RejectsBeforeWriting deviceId updates)
    (nowNs : Nat) (e : CoreError)
    (herror : (self.applyUpdates deviceId updates nowNs).1 = .error e)
    : OnlyBeats deviceId nowNs self (self.applyUpdates deviceId updates nowNs).2 :=
  (self.onlyBeats_of_error_iff deviceId updates nowNs).mpr
    (settlesInPlace_of_rejectsBeforeWriting h) e herror

/--
The switch that is not live takes every update without a write, so a batch that fails after three of
them has changed nothing.
-/
theorem applyUpdates_atomic_muted
    : let muted : SceneAttribute Floats.rational :=
        { SceneAttribute.new "left" (.bool false) with liveEnabled := false }
      let s := Run.run step (new .default)
        [.loadScene ((Scene.new 1 "stage").withObject
            ((SceneObject.new 2 "panel").withAttribute muted)),
          .createMapping (switchRequest 7 "left") 10 100, .setMode .live]
      let updates : List (AttributeUpdate Floats.rational) :=
        [⟨"button", .bool true⟩, ⟨"button", .int32 1⟩, ⟨"button", .bool false⟩,
          ⟨"stick", .bool true⟩]
      (s.applyUpdates 7 updates 20).1
          = .error (.mappingDenied "no active mapping for output 'stick'")
        ∧ OnlyBeats 7 20 s (s.applyUpdates 7 updates 20).2 := by
  intro muted s updates
  have h : s.RejectsBeforeWriting 7 updates := by
    refine .inr fun activeScene hactive => .inr ?_
    obtain rfl : 1 = activeScene := Option.some.inj hactive
    intro update hupdate m hroute attr hattr
    have hfront : updates.takeWhile (s.accepts 7 1)
        = [⟨"button", .bool true⟩, ⟨"button", .int32 1⟩, ⟨"button", .bool false⟩] := rfl
    have hname : update.outputAttribute = "button" := by
      rw [hfront] at hupdate
      simp only [List.mem_cons, List.not_mem_nil, or_false] at hupdate
      rcases hupdate with rfl | rfl | rfl <;> rfl
    rw [hname] at hroute
    obtain rfl : newMapping (switchRequest 7 "left") 10 100 = m := Option.some.inj hroute
    obtain rfl : muted = attr := Option.some.inj hattr
    rfl
  exact ⟨rfl, applyUpdates_atomic h 20 _ rfl⟩

def switchLive : RuntimeCore Floats.rational :=
  Run.run step (new .default)
    [.loadScene (switchScene _), .createMapping (switchRequest 7 "left") 10 100, .setMode .live]

/--
The second update has the wrong type, but the first one has been written by then.
-/
theorem applyUpdates_atomic_fails
    : ¬ ∀ (deviceId : Uuid) (updates : List (AttributeUpdate Floats.rational)) (nowNs : Nat)
        (e : CoreError), (switchLive.applyUpdates deviceId updates nowNs).1 = .error e →
        OnlyBeats deviceId nowNs switchLive
          (switchLive.applyUpdates deviceId updates nowNs).2 := by
  intro h
  have hcurrent := (h 7 [⟨"button", .bool true⟩, ⟨"button", .int32 1⟩] 20
    (.typeMismatch "bool" "int32") rfl).currentAt ⟨1, 2, "left"⟩
  have hbefore : switchLive.currentAt ⟨1, 2, "left"⟩ = some (.bool false) := rfl
  rw [hbefore] at hcurrent
  cases hcurrent

end RuntimeCore

end MotionStage
