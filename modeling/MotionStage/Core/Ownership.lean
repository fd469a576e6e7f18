import MotionStage.Core.Op
import MotionStage.Data.Run

/-!
This module contains the ownership discipline of the mapping table: which mappings own which
attribute, and which operations keep the owner of an attribute unique.
-/

namespace MotionStage

variable {F : Floats}

namespace MappingTable

def Owns (table : MappingTable) (id : MappingId) (t : Target) : Prop :=
  ∃ m, table.get? id = some m ∧ m.state = .active ∧ m.target = t

instance (table : MappingTable) (id : MappingId) (t : Target) : Decidable (table.Owns id t) :=
  decidable_of_iff ((table.get? id).any (fun m => m.state = .active ∧ m.target = t) = true) (by
    simp [Owns, Option.any_eq_true])

def Exclusive (table : MappingTable) : Prop :=
  ∀ id₁ id₂ t, table.Owns id₁ t → table.Owns id₂ t → id₁ = id₂

theorem exclusive_empty : empty.Exclusive := by
  rintro id₁ id₂ t ⟨m, hm, -⟩
  simp at hm

theorem Exclusive.mono {table table' : MappingTable} (h : table.Exclusive)
    (hle : ∀ id t, table'.Owns id t → table.Owns id t)
    : table'.Exclusive := by
  intro id₁ id₂ t h₁ h₂
  exact h id₁ id₂ t (hle id₁ t h₁) (hle id₂ t h₂)

theorem Owns.of_shiftRemove {table : MappingTable} {id' id : MappingId} {t : Target}
    (h : (table.shiftRemove id').Owns id t)
    : id ≠ id' ∧ table.Owns id t := by
  obtain ⟨m, hm, hrest⟩ := h
  rw [get?_shiftRemove] at hm
  split at hm
  . cases hm
  . next hne => exact ⟨hne, m, hm, hrest⟩

theorem Owns.of_insert {table : MappingTable} {m : Mapping} {id : MappingId} {t : Target}
    (h : (table.insert m).Owns id t)
    : (id = m.id ∧ m.target = t) ∨ (id ≠ m.id ∧ table.Owns id t) := by
  obtain ⟨n, hn, hstate, htarget⟩ := h
  rw [get?_insert] at hn
  split at hn
  . next heq =>
    cases hn
    exact .inl ⟨heq, htarget⟩
  . next hne => exact .inr ⟨hne, n, hn, hstate, htarget⟩

theorem Exclusive.insert {table : MappingTable} (h : table.Exclusive) {m : Mapping}
    (hfree : ∀ id, ¬ table.Owns id m.target)
    : (table.insert m).Exclusive := by
  intro id₁ id₂ t h₁ h₂
  rcases Owns.of_insert h₁ with ⟨rfl, rfl⟩ | ⟨-, h₁⟩
  . rcases Owns.of_insert h₂ with ⟨rfl, -⟩ | ⟨-, h₂⟩
    . rfl
    . exact absurd h₂ (hfree id₂)
  . rcases Owns.of_insert h₂ with ⟨rfl, rfl⟩ | ⟨-, h₂⟩
    . exact absurd h₁ (hfree id₁)
    . exact h id₁ id₂ t h₁ h₂

theorem Owns.of_modify {table : MappingTable} {id' id : MappingId} {f : Mapping → Mapping} {hf}
    {t : Target} (h : (table.modify id' f hf).Owns id t)
    : (id = id' ∧ ∃ m, table.get? id' = some m ∧ (f m).state = .active ∧ (f m).target = t)
        ∨
      (id ≠ id' ∧ table.Owns id t) := by
  obtain ⟨n, hn, hstate, htarget⟩ := h
  rw [get?_modify] at hn
  split at hn
  . next heq =>
    rw [Option.map_eq_some_iff] at hn
    obtain ⟨m, hm, rfl⟩ := hn
    subst heq
    exact .inl ⟨rfl, m, hm, hstate, htarget⟩
  . next hne => exact .inr ⟨hne, n, hn, hstate, htarget⟩

end MappingTable

namespace Mapping

theorem disconnect_keeps (deviceId : Uuid) (nowNs : Nat) (m : Mapping)
    : (m.disconnect deviceId nowNs).state = m.state
        ∧ (m.disconnect deviceId nowNs).target = m.target := by
  unfold disconnect
  split <;> exact ⟨rfl, rfl⟩

theorem disconnect_componentMask (deviceId : Uuid) (nowNs : Nat) (m : Mapping)
    : (m.disconnect deviceId nowNs).componentMask = m.componentMask := by
  unfold disconnect
  split <;> rfl

theorem beat_keeps (deviceId : Uuid) (nowNs : Nat) (m : Mapping)
    : (m.beat deviceId nowNs).state = m.state
        ∧ (m.beat deviceId nowNs).target = m.target
        ∧ (m.beat deviceId nowNs).sourceDevice = m.sourceDevice := by
  unfold beat
  split <;> exact ⟨rfl, rfl, rfl⟩

theorem beat_of_ne {deviceId : Uuid} {m : Mapping} (h : m.sourceDevice ≠ deviceId) (nowNs : Nat)
    : m.beat deviceId nowNs = m := by
  simp [beat, h]

theorem beat_componentMask (deviceId : Uuid) (nowNs : Nat) (m : Mapping)
    : (m.beat deviceId nowNs).componentMask = m.componentMask := by
  unfold beat
  split <;> rfl

theorem expire_keeps (connected : Finset Uuid) (lease : LeaseConfig) (nowNs : Nat) (m : Mapping)
    (h : (m.expire connected lease nowNs).state = .active)
    : m.expire connected lease nowNs = m := by
  unfold expire at h ⊢
  split
  . rfl
  . split
    . simp_all
    . rfl

end Mapping

namespace RuntimeCore

open MappingTable

theorem acceptsRequest_iff {self : RuntimeCore F} {req : MappingRequest}
    : self.acceptsRequest req = true
        ↔
      self.mode ≠ .recording
        ∧ self.ensureTargetExists req.target = .ok ()
        ∧ self.validateComponentMask req.target req.componentMask = .ok () := by
  have hok : ∀ r : Except CoreError Unit, r.isOk = true ↔ r = .ok () := by
    intro r
    cases r <;> simp [Except.isOk, Except.toBool]
  simp [acceptsRequest, hok, and_assoc]

theorem updateMapping_of_accepts {self : RuntimeCore F} {mappingId : MappingId}
    {req : MappingRequest} {m : Mapping} (nowNs : Nat) (hreq : self.acceptsRequest req = true)
    (hm : self.mappings.get? mappingId = some m) (hlock : m.lock = false)
    : self.updateMapping mappingId req nowNs
        =
      (.ok (),
        { self with
          mappings := self.mappings.modify mappingId (Mapping.retarget req nowNs)
            (Mapping.retarget_id req nowNs) }) := by
  obtain ⟨hmode, htarget, hmask⟩ := acceptsRequest_iff.mp hreq
  simp [updateMapping, hmode, htarget, hmask, hm, hlock]

/--
An `update_mapping` that passes every check of the source and moves an active mapping onto a target
that another active mapping owns.
-/
def RetargetClash (self : RuntimeCore F) (mappingId : MappingId) (req : MappingRequest) : Prop :=
  self.acceptsRequest req = true
    ∧ (∃ m, self.mappings.get? mappingId = some m ∧ m.lock = false ∧ m.state = .active)
    ∧ ∃ other, other ≠ mappingId ∧ self.mappings.Owns other req.target

def NoRetargetClash (self : RuntimeCore F) : RuntimeOp F → Prop
  | .updateMapping mappingId req _ => ¬ self.RetargetClash mappingId req
  | _ => True

theorem exclusive_modify_retarget {self : RuntimeCore F} {mappingId : MappingId}
    {req : MappingRequest} {nowNs : Nat} {m : Mapping} (h : self.mappings.Exclusive)
    (hreq : self.acceptsRequest req = true) (hm : self.mappings.get? mappingId = some m)
    (hlock : m.lock = false) (hclash : ¬ self.RetargetClash mappingId req)
    : (self.mappings.modify mappingId (Mapping.retarget req nowNs)
        (Mapping.retarget_id req nowNs)).Exclusive := by
  -- a mapping that is still active after the assignments leaves no room for another owner
  have hnone : m.state = .active → ∀ other, other ≠ mappingId →
      ¬ self.mappings.Owns other req.target := by
    intro hactive other hne howns
    exact hclash ⟨hreq, ⟨m, hm, hlock, hactive⟩, other, hne, howns⟩
  intro id₁ id₂ t h₁ h₂
  rcases Owns.of_modify h₁ with ⟨rfl, m₁, hm₁, hs₁, rfl⟩ | ⟨hne₁, howns₁⟩
  . rcases Owns.of_modify h₂ with ⟨rfl, -⟩ | ⟨hne₂, howns₂⟩
    . rfl
    . rw [hm, Option.some.injEq] at hm₁
      subst hm₁
      exact absurd howns₂ (hnone hs₁ id₂ hne₂)
  . rcases Owns.of_modify h₂ with ⟨rfl, m₂, hm₂, hs₂, rfl⟩ | ⟨hne₂, howns₂⟩
    . rw [hm, Option.some.injEq] at hm₂
      subst hm₂
      exact absurd howns₁ (hnone hs₂ id₁ hne₁)
    . exact h id₁ id₂ t howns₁ howns₂

def assigns : RuntimeOp F → Bool
  | .createMapping _ _ _ | .updateMapping _ _ _ => true
  | _ => false

theorem Origin.of_active {self : RuntimeCore F} {op : RuntimeOp F} {id : MappingId} {m' : Mapping}
    (h : Origin self id op m') (hactive : m'.state = .active)
    : (∃ m, self.mappings.get? id = some m ∧ m.state = .active ∧ m'.target = m.target
        ∧ m'.componentMask = m.componentMask)
        ∨
      (assigns op = true ∧ ∃ req, self.acceptsRequest req = true ∧ m'.target = req.target
        ∧ m'.componentMask = req.componentMask) := by
  cases h with
  | keep _ _ hm => exact .inl ⟨m', hm, hactive, rfl, rfl⟩
  | disconnect deviceId nowNs m hm =>
    obtain ⟨hstate, htarget⟩ := m.disconnect_keeps deviceId nowNs
    have hmask := m.disconnect_componentMask deviceId nowNs
    exact .inl ⟨m, hm, hstate ▸ hactive, htarget, hmask⟩
  | beat _ deviceId nowNs m hbeat hm =>
    obtain ⟨hstate, htarget, -⟩ := m.beat_keeps deviceId nowNs
    have hmask := m.beat_componentMask deviceId nowNs
    exact .inl ⟨m, hm, hstate ▸ hactive, htarget, hmask⟩
  | expire nowNs m hm =>
    have hsame := Mapping.expire_keeps _ _ nowNs m hactive
    rw [hsame] at hactive ⊢
    exact .inl ⟨m, hm, hactive, rfl, rfl⟩
  | lock lock m hm => exact .inl ⟨m, hm, hactive, rfl, rfl⟩
  | retarget req nowNs m hreq hm hlock => exact .inr ⟨rfl, req, hreq, rfl, rfl⟩
  | create req nowNs hreq => exact .inr ⟨rfl, req, hreq, rfl, rfl⟩

theorem owns_of_step {self : RuntimeCore F} {op : RuntimeOp F} (hop : assigns op = false)
    {id : MappingId} {t : Target} (h : (self.step op).mappings.Owns id t)
    : self.mappings.Owns id t := by
  obtain ⟨m', hm', hactive, htarget'⟩ := h
  rcases (origin_step hm').of_active hactive with ⟨m, hm, hstate, htarget, -⟩ | ⟨hassigns, -⟩
  . exact ⟨m, hm, hstate, htarget.symm.trans htarget'⟩
  . rw [hop] at hassigns
    cases hassigns

theorem exclusive_createStep {self : RuntimeCore F} {req : MappingRequest} {nowNs : Nat}
    {id : MappingId} {table : MappingTable} (h : self.mappings.Exclusive)
    (hcreate : CreateStep self req nowNs id table)
    : table.Exclusive := by
  cases hcreate with
  | free hreq hfree =>
    apply h.insert
    rintro other ⟨m, hm, hstate, htarget⟩
    exact findMappingForTarget_eq_none.mp hfree other m hm hstate htarget
  | evict owner hreq howner hlock hreclaim =>
    have hshift : (self.mappings.shiftRemove owner.val.id).Exclusive :=
      h.mono (fun id t howns => howns.of_shiftRemove.2)
    apply hshift.insert
    intro other howns
    obtain ⟨hne, hother⟩ := Owns.of_shiftRemove howns
    -- the evicted mapping was the only owner
    obtain ⟨hactive, htarget⟩ := findMappingForTarget_eq_some howner
    apply hne
    exact h other owner.val.id req.target hother ⟨owner.val, owner.property, hactive, htarget⟩

theorem exclusive_step_of_noRetargetClash {self : RuntimeCore F} {op : RuntimeOp F}
    (h : self.mappings.Exclusive) (hop : self.NoRetargetClash op)
    : (self.step op).mappings.Exclusive := by
  cases hassigns : assigns op with
  | false => exact h.mono fun id t howns => owns_of_step hassigns howns
  | true =>
    generalize htable : (self.step op).mappings = table
    have hstep := tableStep_step self op
    rw [htable] at hstep
    cases hstep with
    | keep => exact h
    | retarget mappingId req nowNs m hreq hm hlock =>
      exact exclusive_modify_retarget h hreq hm hlock hop
    | create req nowNs id table hcreate => exact exclusive_createStep h hcreate
    | beat _ deviceId nowNs hbeat => rcases hbeat with rfl | ⟨updates, rfl⟩ <;> cases hassigns
    | _ => cases hassigns

theorem not_exclusive_of_retargetClash {self : RuntimeCore F} {mappingId : MappingId}
    {req : MappingRequest} {nowNs : Nat} (hclash : self.RetargetClash mappingId req)
    : ¬ (self.updateMapping mappingId req nowNs).2.mappings.Exclusive := by
  obtain ⟨hreq, ⟨m, hm, hlock, hactive⟩, other, hne, n, hn, hstate, htarget⟩ := hclash
  rw [updateMapping_of_accepts nowNs hreq hm hlock]
  dsimp only
  intro h
  apply hne
  apply h other mappingId req.target
  . exact ⟨n, by rw [get?_modify, if_neg hne, hn], hstate, htarget⟩
  . exact ⟨m.retarget req nowNs, by rw [get?_modify, if_pos rfl, hm]; rfl, hactive, rfl⟩

theorem exclusive_step_iff {self : RuntimeCore F} {op : RuntimeOp F}
    (h : self.mappings.Exclusive)
    : (self.step op).mappings.Exclusive ↔ self.NoRetargetClash op := by
  constructor
  . intro hnext
    cases op with
    | updateMapping mappingId req nowNs =>
      intro hclash
      exact not_exclusive_of_retargetClash hclash hnext
    | _ => trivial
  . exact exclusive_step_of_noRetargetClash h

theorem exclusive_run_iff (lease : LeaseConfig) (ops : List (RuntimeOp F))
    : Run.AllStates step (fun s => s.mappings.Exclusive) (new lease) ops
        ↔
      Run.AllSteps step NoRetargetClash (new lease) ops := by
  apply Run.allStates_iff_allSteps
  . intro s op h
    exact exclusive_step_iff h
  . exact exclusive_empty

def switchScene (F : Floats) : Scene F :=
  (Scene.new 1 "stage").withObject
    (((SceneObject.new 2 "panel").withAttribute (.new "left" (.bool false))).withAttribute
      (.new "right" (.bool false)))

def switchRequest (deviceId : Uuid) (name : String) : MappingRequest where
  sourceDevice := deviceId
  sourceOutput := "button"
  targetScene := 1
  targetObject := 2
  targetAttribute := name
  componentMask := none

/--
`update_mapping` has no ownership check: moving the mapping of device 8 from one switch to the
other gives the switch of device 7 a second active owner.
-/
theorem exclusive_fails
    : ¬ (Run.run step (new (F := Floats.rational) .default)
          [.loadScene (switchScene _), .createMapping (switchRequest 7 "left") 10 100,
            .createMapping (switchRequest 8 "right") 10 101,
            .updateMapping 101 (switchRequest 8 "left") 20]).mappings.Exclusive := by
  intro h
  have hsame := h 100 101 ⟨1, 2, "left"⟩ (by decide) (by decide)
  exact absurd hsame (by decide)

end RuntimeCore

end MotionStage
