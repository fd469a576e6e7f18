import MotionStage.Core.Ownership

/-!
This module contains what `apply_updates` writes: only the targets of the active mappings of the
device it is called for.
-/

namespace MotionStage

variable {F : Floats}

namespace RuntimeCore

theorem attributeAt_writeCurrent (self : RuntimeCore F) (t t' : Target) (v : AttributeValue F)
    : (self.writeCurrent t v).attributeAt t'
        =
      if t' = t then
        (self.attributeAt t').map fun attr => { attr with currentValue := v }
      else
        self.attributeAt t' := by
  obtain ⟨scene, object, attr⟩ := t
  obtain ⟨scene', object', attr'⟩ := t'
  simp only [attributeAt, writeCurrent, Target.mk.injEq]
  by_cases hscene : scene' = scene
  . subst hscene
    simp only [IndexMap.get?_modify_self, Option.bind_map, Function.comp_def, true_and]
    cases self.scenes.get? scene' with
    | none => simp
    | some s =>
      simp only [Option.bind_some]
      by_cases hobject : object' = object
      . subst hobject
        simp only [IndexMap.get?_modify_self, Option.bind_map, Function.comp_def, true_and]
        cases s.objects.get? object' with
        | none => simp
        | some o =>
          simp only [Option.bind_some]
          exact IndexMap.get?_modify _ _ _ _
      . simp [IndexMap.get?_modify_of_ne _ _ hobject, hobject]
  . simp [IndexMap.get?_modify_of_ne _ _ hscene, hscene]

theorem route_spec {self : RuntimeCore F} {deviceId : Uuid} {activeScene : SceneId}
    {output : String} {m : Mapping} (h : self.route deviceId activeScene output = some m)
    : m ∈ self.mappings.values ∧ m.state = .active ∧ m.sourceDevice = deviceId
        ∧ m.targetScene = activeScene := by
  unfold route at h
  obtain ⟨found, hfound, rfl⟩ := Option.map_eq_some_iff.mp h
  have hroutes := MappingTable.find?_eq_some hfound
  simp only [Bool.and_eq_true, beq_iff_eq] at hroutes
  obtain ⟨⟨⟨hactive, hsource⟩, -⟩, hscene⟩ := hroutes
  exact ⟨MappingTable.mem_values.mpr ⟨_, found.property⟩, hactive, hsource, hscene⟩

theorem target_ne_of_route {self : RuntimeCore F} {deviceId : Uuid} {activeScene : SceneId}
    {output : String} {m : Mapping} {t : Target}
    (h : self.route deviceId activeScene output = some m) (ht : activeScene ≠ t.scene)
    : m.target ≠ t := by
  intro htarget
  apply ht
  rw [← (route_spec h).2.2.2]
  exact congrArg Target.scene htarget

section Untouched

variable {deviceId : Uuid} {t : Target}

def Untouched (self : RuntimeCore F) (deviceId : Uuid) (t : Target) : Prop :=
  ∀ m ∈ self.mappings.values, m.state = .active → m.sourceDevice = deviceId → m.target ≠ t

theorem attributeAt_applyUpdates {self : RuntimeCore F} (ht : self.Untouched deviceId t)
    (updates : List (AttributeUpdate F)) (nowNs : Nat)
    : (self.applyUpdates deviceId updates nowNs).2.attributeAt t = self.attributeAt t := by
  have ht' : (self.heartbeat deviceId nowNs).Untouched deviceId t := by
    intro m hm hactive hsource
    obtain ⟨id, hid⟩ := MappingTable.mem_values.mp hm
    simp only [heartbeat, MappingTable.get?_mapValues] at hid
    obtain ⟨m₀, hm₀, rfl⟩ := Option.map_eq_some_iff.mp hid
    obtain ⟨hstate, htarget, hdevice⟩ := m₀.beat_keeps deviceId nowNs
    rw [hstate] at hactive
    rw [hdevice] at hsource
    rw [htarget]
    exact ht m₀ (MappingTable.mem_values.mpr ⟨id, hm₀⟩) hactive hsource
  -- the mappings stay the same in the loop, so the target stays untouched
  suffices h : (self.applyUpdates deviceId updates nowNs).2.Untouched deviceId t
      ∧ (self.applyUpdates deviceId updates nowNs).2.attributeAt t = self.attributeAt t from h.2
  apply applyUpdates_invariant
    (P := fun s => s.Untouched deviceId t ∧ s.attributeAt t = self.attributeAt t)
  . intro s n h
    exact h
  . rintro s activeScene output m v hroute ⟨hs, hattr⟩
    obtain ⟨hmem, hactive, hsource, -⟩ := route_spec hroute
    refine ⟨hs, ?_⟩
    rw [attributeAt_writeCurrent, if_neg]
    . exact hattr
    . exact fun heq => hs m hmem hactive hsource heq.symm
  . exact ⟨ht', rfl⟩

end Untouched

end RuntimeCore

end MotionStage
