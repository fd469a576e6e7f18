import MotionStage.Core.Batch

/-!
This module contains the independence of devices: the updates of two devices that do not share a
target can be applied in either order.
-/

namespace MotionStage

variable {F : Floats}

namespace RuntimeCore

theorem writeCurrent_comm (self : RuntimeCore F) {t t' : Target} (h : t ≠ t')
    (v v' : AttributeValue F)
    : (self.writeCurrent t v).writeCurrent t' v' = (self.writeCurrent t' v').writeCurrent t v := by
  simp only [writeCurrent, RuntimeCore.mk.injEq, true_and, and_true]
  apply IndexMap.modify_comm
  intro hscene scene
  simp only [Scene.mk.injEq, true_and]
  symm
  apply IndexMap.modify_comm
  intro hobject object
  simp only [SceneObject.mk.injEq, true_and]
  symm
  apply IndexMap.modify_comm
  intro hattr
  -- the targets differ in at least one of the three keys
  exact absurd (by cases t; cases t'; simp_all) h

theorem resolve_writeCurrent_of_ne (self : RuntimeCore F) {t t' : Target} (h : t' ≠ t)
    (v : AttributeValue F)
    : (self.writeCurrent t v).resolve t' = self.resolve t' := by
  unfold resolve writeCurrent
  dsimp only
  rw [IndexMap.get?_modify]
  by_cases hscene : t'.scene = t.scene
  . rw [if_pos hscene]
    cases self.scenes.get? t'.scene with
    | none => rfl
    | some scene =>
      dsimp only [Option.map_some]
      rw [IndexMap.get?_modify]
      by_cases hobject : t'.object = t.object
      . rw [if_pos hobject]
        cases scene.objects.get? t'.object with
        | none => rfl
        | some object =>
          dsimp only [Option.map_some]
          rw [IndexMap.get?_modify, if_neg]
          intro hattr
          exact absurd (by cases t; cases t'; simp_all) h
      . rw [if_neg hobject]
  . rw [if_neg hscene]

def tick (self : RuntimeCore F) : RuntimeCore F :=
  { self with tickCount := self.tickCount + 1 }

section Loop

variable {deviceId : Uuid} {activeScene : SceneId}

/--
A change `g` of the state that no single update of a device sees is not seen by a whole batch, and
the batch leaves the same behind before and after it.
-/
theorem applyUpdatesLoop_comm {P : RuntimeCore F → Prop} {g : RuntimeCore F → RuntimeCore F}
    (hP : ∀ s update applied applied' s', P s →
      applyUpdate deviceId activeScene s update applied = .ok (applied', s') → P s')
    (hg : ∀ s update applied, P s →
      applyUpdate deviceId activeScene (g s) update applied
        =
      (applyUpdate deviceId activeScene s update applied).map fun r => (r.1, g r.2))
    (htick : ∀ s, (g s).tick = g s.tick) {s : RuntimeCore F} (hs : P s)
    (updates : List (AttributeUpdate F)) (applied : Applied F)
    : applyUpdatesLoop deviceId activeScene (g s) updates applied
        =
      ((applyUpdatesLoop deviceId activeScene s updates applied).1,
        g (applyUpdatesLoop deviceId activeScene s updates applied).2) := by
  induction updates generalizing s applied with
  | nil =>
    have := htick s
    simp only [tick] at this
    simp only [applyUpdatesLoop, this]
  | cons update updates ih =>
    simp only [applyUpdatesLoop, hg s update applied hs]
    cases hstep : applyUpdate deviceId activeScene s update applied with
    | error e => rfl
    | ok next =>
      obtain ⟨applied', s'⟩ := next
      exact ih (hP s update applied applied' s' hs hstep) applied'

theorem applyUpdate_comm (g : RuntimeCore F → RuntimeCore F) {s : RuntimeCore F}
    {update : AttributeUpdate F} (applied : Applied F)
    (hroute : (g s).route deviceId activeScene update.outputAttribute
      = s.route deviceId activeScene update.outputAttribute)
    (hresolve : ∀ m, s.route deviceId activeScene update.outputAttribute = some m →
      (g s).resolve m.target = s.resolve m.target)
    (hwrite : ∀ m v, s.route deviceId activeScene update.outputAttribute = some m →
      (g s).writeCurrent m.target v = g (s.writeCurrent m.target v))
    : applyUpdate deviceId activeScene (g s) update applied
        =
      (applyUpdate deviceId activeScene s update applied).map fun r => (r.1, g r.2) := by
  rw [applyUpdate_eq, applyUpdate_eq, hroute]
  cases hm : s.route deviceId activeScene update.outputAttribute with
  | none => rfl
  | some m =>
    dsimp only
    rw [hresolve m hm]
    cases s.resolve m.target with
    | error e => rfl
    | ok found =>
      obtain ⟨object, attr⟩ := found
      dsimp only
      split
      . rfl
      . cases nextValue attr update.value m.componentMask with
        | error e => rfl
        | ok v =>
          dsimp only
          rw [hwrite m v hm]
          rfl

theorem applyUpdatesLoop_tick (s : RuntimeCore F) (updates : List (AttributeUpdate F))
    (applied : Applied F)
    : applyUpdatesLoop deviceId activeScene s.tick updates applied
        =
      ((applyUpdatesLoop deviceId activeScene s updates applied).1,
        (applyUpdatesLoop deviceId activeScene s updates applied).2.tick) := by
  refine applyUpdatesLoop_comm (P := fun _ => True) (g := tick) ?_ ?_ ?_ trivial updates applied
  . intros
    trivial
  . intro s update applied _
    exact applyUpdate_comm tick applied rfl (fun _ _ => rfl) (fun _ _ _ => rfl)
  . intros
    rfl

theorem untouched_applyUpdate {s s' : RuntimeCore F} {update : AttributeUpdate F}
    {applied applied' : Applied F} {deviceId' : Uuid} {t : Target}
    (h : applyUpdate deviceId activeScene s update applied = .ok (applied', s'))
    (ht : s.Untouched deviceId' t)
    : s'.Untouched deviceId' t := by
  rw [applyUpdate_frame h]
  exact ht

theorem ne_of_untouched {s : RuntimeCore F} {output : String} {m : Mapping} {t : Target}
    (ht : s.Untouched deviceId t) (hroute : s.route deviceId activeScene output = some m)
    : m.target ≠ t := by
  obtain ⟨hmem, hactive, hsource, -⟩ := route_spec hroute
  exact ht m hmem hactive hsource

theorem applyUpdatesLoop_writeCurrent {s : RuntimeCore F} {t : Target}
    (ht : s.Untouched deviceId t) (v : AttributeValue F) (updates : List (AttributeUpdate F))
    (applied : Applied F)
    : applyUpdatesLoop deviceId activeScene (s.writeCurrent t v) updates applied
        =
      ((applyUpdatesLoop deviceId activeScene s updates applied).1,
        (applyUpdatesLoop deviceId activeScene s updates applied).2.writeCurrent t v) := by
  refine applyUpdatesLoop_comm (P := fun s => s.Untouched deviceId t)
    (g := fun s => s.writeCurrent t v) ?_ ?_ ?_ ht updates applied
  . intro s update applied applied' s' ht hstep
    exact untouched_applyUpdate hstep ht
  . intro s update applied ht
    apply applyUpdate_comm (fun s => s.writeCurrent t v) applied rfl
    . intro m hroute
      exact s.resolve_writeCurrent_of_ne (ne_of_untouched ht hroute) v
    . intro m v' hroute
      exact s.writeCurrent_comm (ne_of_untouched ht hroute).symm v v'
  . intros
    rfl

theorem applyUpdatesLoop_heartbeat {deviceId' : Uuid} (hne : deviceId' ≠ deviceId) (nowNs : Nat)
    (s : RuntimeCore F) (updates : List (AttributeUpdate F)) (applied : Applied F)
    : applyUpdatesLoop deviceId activeScene (s.heartbeat deviceId' nowNs) updates applied
        =
      ((applyUpdatesLoop deviceId activeScene s updates applied).1,
        (applyUpdatesLoop deviceId activeScene s updates applied).2.heartbeat deviceId' nowNs) := by
  refine applyUpdatesLoop_comm (P := fun _ => True) (g := fun s => s.heartbeat deviceId' nowNs)
    ?_ ?_ ?_ trivial updates applied
  . intros
    trivial
  . intro s update applied _
    refine applyUpdate_comm (fun s => s.heartbeat deviceId' nowNs) applied ?_ (fun _ _ => rfl)
      (fun _ _ _ => rfl)
    rw [route_heartbeat]
    cases hroute : s.route deviceId activeScene update.outputAttribute with
    | none => rfl
    | some m =>
      -- the mapping that routes the update is not one of the other device
      obtain ⟨-, -, hsource, -⟩ := route_spec hroute
      have hother : m.sourceDevice ≠ deviceId' := fun h => hne (h.symm.trans hsource)
      rw [Option.map_some, Mapping.beat_of_ne hother]
  . intros
    rfl

theorem resolve_applyUpdatesLoop {s : RuntimeCore F} {t : Target} (ht : s.Untouched deviceId t)
    (updates : List (AttributeUpdate F)) (applied : Applied F)
    : (applyUpdatesLoop deviceId activeScene s updates applied).2.resolve t = s.resolve t := by
  induction updates generalizing s applied with
  | nil => rfl
  | cons update updates ih =>
    simp only [applyUpdatesLoop]
    cases hstep : applyUpdate deviceId activeScene s update applied with
    | error e => rfl
    | ok next =>
      obtain ⟨applied', s'⟩ := next
      dsimp only
      rw [ih (untouched_applyUpdate hstep ht)]
      obtain ⟨m, attr, hroute, -, ⟨-, rfl⟩ | ⟨-, v, -, rfl⟩⟩ := applyUpdate_spec hstep
      . rfl
      . exact s.resolve_writeCurrent_of_ne (ne_of_untouched ht hroute).symm v

end Loop

def TargetsDisjoint (self : RuntimeCore F) (activeScene : SceneId) (deviceId deviceId' : Uuid)
    : Prop :=
  ∀ m ∈ self.mappings.values, ∀ m' ∈ self.mappings.values,
    m.state = .active → m.sourceDevice = deviceId → m.targetScene = activeScene →
    m'.state = .active → m'.sourceDevice = deviceId' → m.target ≠ m'.target

instance (self : RuntimeCore F) (activeScene : SceneId) (deviceId deviceId' : Uuid)
    : Decidable (self.TargetsDisjoint activeScene deviceId deviceId') :=
  inferInstanceAs (Decidable (∀ m ∈ _, ∀ m' ∈ _, _))

section Disjoint

variable {deviceId deviceId' : Uuid} {activeScene : SceneId}

theorem TargetsDisjoint.symm {s : RuntimeCore F}
    (h : s.TargetsDisjoint activeScene deviceId deviceId')
    : s.TargetsDisjoint activeScene deviceId' deviceId := by
  intro m hm m' hm' hactive hsource hscene hactive' hsource' heq
  have hscene' : m'.targetScene = activeScene := by
    rw [← hscene]
    exact congrArg Target.scene heq.symm
  exact h m' hm' m hm hactive' hsource' hscene' hactive hsource heq.symm

theorem TargetsDisjoint.heartbeat {s : RuntimeCore F}
    (h : s.TargetsDisjoint activeScene deviceId deviceId') (device : Uuid) (nowNs : Nat)
    : (s.heartbeat device nowNs).TargetsDisjoint activeScene deviceId deviceId' := by
  simp only [TargetsDisjoint, RuntimeCore.heartbeat, MappingTable.values_mapValues, List.mem_map]
  rintro _ ⟨m, hm, rfl⟩ _ ⟨m', hm', rfl⟩
  obtain ⟨hstate, htarget, hdevice⟩ := m.beat_keeps device nowNs
  obtain ⟨hstate', htarget', hdevice'⟩ := m'.beat_keeps device nowNs
  have hscene : (m.beat device nowNs).targetScene = m.targetScene :=
    congrArg Target.scene htarget
  rw [hstate, hdevice, hscene, hstate', hdevice', htarget, htarget']
  exact h m hm m' hm'

theorem TargetsDisjoint.untouched {s : RuntimeCore F} {output : String} {m : Mapping}
    (h : s.TargetsDisjoint activeScene deviceId deviceId')
    (hroute : s.route deviceId activeScene output = some m)
    : s.Untouched deviceId' m.target := by
  obtain ⟨hmem, hactive, hsource, hscene⟩ := route_spec hroute
  intro m' hmem' hactive' hsource' heq
  exact h m hmem m' hmem' hactive hsource hscene hactive' hsource' heq.symm

theorem applyUpdatesLoop_applyUpdatesLoop {s : RuntimeCore F}
    (h : s.TargetsDisjoint activeScene deviceId deviceId')
    (updates updates' : List (AttributeUpdate F)) (applied applied' : Applied F)
    : applyUpdatesLoop deviceId activeScene
          (applyUpdatesLoop deviceId' activeScene s updates' applied').2 updates applied
        =
      ((applyUpdatesLoop deviceId activeScene s updates applied).1,
        (applyUpdatesLoop deviceId' activeScene
          (applyUpdatesLoop deviceId activeScene s updates applied).2 updates' applied').2) := by
  refine applyUpdatesLoop_comm (P := fun s => s.TargetsDisjoint activeScene deviceId deviceId')
    (g := fun s => (applyUpdatesLoop deviceId' activeScene s updates' applied').2)
    ?_ ?_ ?_ h updates applied
  . intro s update applied applied' s' h hstep
    rw [applyUpdate_frame hstep]
    exact h
  . intro s update applied h
    apply applyUpdate_comm (fun s => (applyUpdatesLoop deviceId' activeScene s updates' applied').2)
    . rw [route_eq, route_eq, applyUpdatesLoop_frame]
    . intro m hroute
      exact resolve_applyUpdatesLoop (h.untouched hroute) updates' applied'
    . intro m v hroute
      rw [applyUpdatesLoop_writeCurrent (h.untouched hroute)]
  . intro s
    rw [applyUpdatesLoop_tick]

theorem heartbeat_comm (s : RuntimeCore F) (hne : deviceId ≠ deviceId') (nowNs nowNs' : Nat)
    : (s.heartbeat deviceId' nowNs').heartbeat deviceId nowNs
        =
      (s.heartbeat deviceId nowNs).heartbeat deviceId' nowNs' := by
  simp only [heartbeat, RuntimeCore.mk.injEq, true_and, and_true]
  simp only [MappingTable.mapValues, MappingTable.mk.injEq, IndexMap.mapValues, IndexMap.mk.injEq,
    List.map_map]
  apply List.map_congr_left
  rintro ⟨id, m⟩ -
  simp only [Function.comp_apply, Prod.mk.injEq, true_and]
  -- a mapping has one source device, so at most one of the two heartbeats reaches it
  by_cases hsource : m.sourceDevice = deviceId
  . have hother : m.sourceDevice ≠ deviceId' := fun h => hne (hsource.symm.trans h)
    have hother' : (m.beat deviceId nowNs).sourceDevice ≠ deviceId' := by
      rw [(m.beat_keeps deviceId nowNs).2.2]
      exact hother
    rw [Mapping.beat_of_ne hother, Mapping.beat_of_ne hother']
  . have hsource' : (m.beat deviceId' nowNs').sourceDevice ≠ deviceId := by
      rw [(m.beat_keeps deviceId' nowNs').2.2]
      exact hsource
    rw [Mapping.beat_of_ne hsource, Mapping.beat_of_ne hsource']

theorem applyUpdates_applyUpdates {s : RuntimeCore F} (hne : deviceId ≠ deviceId')
    (h : ∀ activeScene ∈ s.activeScene, s.TargetsDisjoint activeScene deviceId deviceId')
    (updates updates' : List (AttributeUpdate F)) (nowNs nowNs' : Nat)
    : (s.applyUpdates deviceId' updates' nowNs').2.applyUpdates deviceId updates nowNs
        =
      ((s.applyUpdates deviceId updates nowNs).1,
        ((s.applyUpdates deviceId updates nowNs).2.applyUpdates deviceId' updates' nowNs').2) := by
  by_cases hmode : s.mode = .idle
  . have hbeat : ∀ device now, (s.heartbeat device now).mode = .idle := fun _ _ => hmode
    rw [applyUpdates_of_idle hmode, applyUpdates_of_idle hmode, applyUpdates_of_idle (hbeat _ _),
      applyUpdates_of_idle (hbeat _ _), s.heartbeat_comm hne]
  . cases hscene : s.activeScene with
    | none =>
      have hmode' : ∀ device now, (s.heartbeat device now).mode ≠ .idle := fun _ _ => hmode
      have hscene' : ∀ device now, (s.heartbeat device now).activeScene = none := fun _ _ => hscene
      rw [applyUpdates_of_noScene hmode hscene, applyUpdates_of_noScene hmode hscene,
        applyUpdates_of_noScene (hmode' _ _) (hscene' _ _),
        applyUpdates_of_noScene (hmode' _ _) (hscene' _ _), s.heartbeat_comm hne]
    | some activeScene =>
      have hdisjoint := ((h activeScene hscene).heartbeat deviceId nowNs).heartbeat deviceId' nowNs'
      have hmode' : ∀ device us now, (s.applyUpdates device us now).2.mode ≠ .idle := by
        intro device us now
        rw [applyUpdates_frame]
        exact hmode
      have hscene' : ∀ device us now,
          (s.applyUpdates device us now).2.activeScene = some activeScene := by
        intro device us now
        rw [applyUpdates_frame]
        exact hscene
      rw [applyUpdates_of_activeScene (hmode' _ _ _) (hscene' _ _ _),
        applyUpdates_of_activeScene (hmode' _ _ _) (hscene' _ _ _),
        applyUpdates_of_activeScene hmode hscene, applyUpdates_of_activeScene hmode hscene]
      -- both heartbeats come first, then the two loops change places
      have hbeat : ∀ us, applyUpdatesLoop deviceId activeScene
          ((s.heartbeat deviceId nowNs).heartbeat deviceId' nowNs') us .empty = _ :=
        fun us => applyUpdatesLoop_heartbeat hne.symm nowNs' (s.heartbeat deviceId nowNs) us .empty
      have hbeat' : ∀ us, applyUpdatesLoop deviceId' activeScene
          ((s.heartbeat deviceId' nowNs').heartbeat deviceId nowNs) us .empty = _ :=
        fun us => applyUpdatesLoop_heartbeat hne nowNs (s.heartbeat deviceId' nowNs') us .empty
      have hswap := applyUpdatesLoop_applyUpdatesLoop hdisjoint updates updates' .empty .empty
      rw [hbeat, ← s.heartbeat_comm hne, hbeat'] at hswap
      exact hswap

end Disjoint

theorem applyUpdates_comm (s : RuntimeCore F) {deviceId₁ deviceId₂ : Uuid}
    (hne : deviceId₁ ≠ deviceId₂)
    (h : ∀ activeScene ∈ s.activeScene, s.TargetsDisjoint activeScene deviceId₁ deviceId₂)
    (updates₁ updates₂ : List (AttributeUpdate F)) (nowNs₁ nowNs₂ : Nat)
    : ((s.applyUpdates deviceId₁ updates₁ nowNs₁).2.applyUpdates deviceId₂ updates₂ nowNs₂).2
          =
        ((s.applyUpdates deviceId₂ updates₂ nowNs₂).2.applyUpdates deviceId₁ updates₁ nowNs₁).2
        ∧
      (s.applyUpdates deviceId₁ updates₁ nowNs₁).1
          =
        ((s.applyUpdates deviceId₂ updates₂ nowNs₂).2.applyUpdates deviceId₁ updates₁ nowNs₁).1
        ∧
      ((s.applyUpdates deviceId₁ updates₁ nowNs₁).2.applyUpdates deviceId₂ updates₂ nowNs₂).1
          =
        (s.applyUpdates deviceId₂ updates₂ nowNs₂).1 := by
  have h₁₂ := applyUpdates_applyUpdates hne h updates₁ updates₂ nowNs₁ nowNs₂
  have h₂₁ := applyUpdates_applyUpdates hne.symm (fun scene hscene => (h scene hscene).symm)
    updates₂ updates₁ nowNs₂ nowNs₁
  refine ⟨?_, ?_, ?_⟩
  . rw [h₁₂]
  . rw [h₁₂]
  . rw [h₂₁]

theorem applyUpdates_comm_switchBoth
    : let s := Run.run step (new (F := Floats.rational) .default)
        [.loadScene (switchScene _), .createMapping (switchRequest 7 "left") 10 100,
          .createMapping (switchRequest 8 "right") 10 101, .setMode .live]
      let updates : List (AttributeUpdate Floats.rational) :=
        [⟨"button", .bool true⟩, ⟨"button", .int32 1⟩]
      (∀ activeScene ∈ s.activeScene, s.TargetsDisjoint activeScene 7 8)
        ∧
      ((s.applyUpdates 7 [⟨"button", .bool true⟩] 20).2.applyUpdates 8 updates 30).2
        =
      ((s.applyUpdates 8 updates 30).2.applyUpdates 7 [⟨"button", .bool true⟩] 20).2 := by
  intro s updates
  have hdisjoint : ∀ activeScene ∈ s.activeScene, s.TargetsDisjoint activeScene 7 8 := by
    intro activeScene hscene
    cases hscene
    decide
  exact ⟨hdisjoint, (applyUpdates_comm s (by decide) hdisjoint _ updates 20 30).1⟩

end RuntimeCore

end MotionStage
