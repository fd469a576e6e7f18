import MotionStage.Core.Drift

/-!
This module contains which mappings a batch of updates serves: every update is routed to the first
active mapping in the order of the table, so of several mappings that match one output only the
first one gets the value.
-/

namespace MotionStage

variable {F : Floats}

structure Mapping.Listens (m : Mapping) (deviceId : Uuid) (activeScene : SceneId) (output : String)
    : Prop where
  active : m.state = .active
  source : m.sourceDevice = deviceId
  output : sourceOutputMatches m.sourceOutput deviceId output = true
  scene : m.targetScene = activeScene

namespace RuntimeCore

/--
An update of the batch has an output that the mapping matches, and when its turn comes, after the
updates before it, the target of the mapping gets the value that the mapping makes of it.
-/
def WrittenFrom (self : RuntimeCore F) (deviceId : Uuid) (updates : List (AttributeUpdate F))
    (nowNs : Nat) (m : Mapping) : Prop :=
  ∃ earlier update later attr v, updates = earlier ++ update :: later
    ∧ sourceOutputMatches m.sourceOutput deviceId update.outputAttribute = true
    ∧ (self.applyUpdates deviceId earlier nowNs).2.attributeAt m.target = some attr
    ∧ nextValue attr update.value m.componentMask = .ok v
    ∧ (self.applyUpdates deviceId (earlier ++ [update]) nowNs).2.currentAt m.target = some v

theorem route_eq_some_of_first {self : RuntimeCore F} {deviceId : Uuid} {activeScene : SceneId}
    {output : String} {earlier later : List Mapping} {m : Mapping}
    (hvalues : self.mappings.values = earlier ++ m :: later)
    (hlistens : m.Listens deviceId activeScene output)
    (hfirst : ∀ m' ∈ earlier, ¬ m'.Listens deviceId activeScene output)
    : self.route deviceId activeScene output = some m := by
  rw [route_eq, hvalues, List.find?_append, List.find?_eq_none.mpr]
  . simp [hlistens.active, hlistens.source, hlistens.output, hlistens.scene]
  . intro m' hm' hroutes
    simp only [Bool.and_eq_true, beq_iff_eq] at hroutes
    obtain ⟨⟨⟨hactive, hsource⟩, houtput⟩, hscene⟩ := hroutes
    exact hfirst m' hm' ⟨hactive, hsource, houtput, hscene⟩

section Batch

variable {self : RuntimeCore F} {deviceId : Uuid} {activeScene : SceneId}

theorem attributeAt_applyUpdates_of_accepts (hmode : self.mode ≠ .idle)
    (hscene : self.activeScene = some activeScene) {updates : List (AttributeUpdate F)}
    (hall : ∀ update ∈ updates, self.accepts deviceId activeScene update = true) (nowNs : Nat)
    (t : Target)
    : (self.applyUpdates deviceId updates nowNs).2.attributeAt t
        =
      (self.attributeAt t).map fun attr => self.settle deviceId activeScene t attr updates := by
  have happlies := self.applies_applyUpdates deviceId updates nowNs
  generalize self.applyUpdates deviceId updates nowNs = r at happlies
  cases happlies with
  | idle hidle => exact absurd hidle hmode
  | noScene _ hnone =>
    rw [hscene] at hnone
    cases hnone
  | loop active result self' _ hactive _ _ hattr =>
    rw [hscene, Option.some.injEq] at hactive
    subst hactive
    rw [hattr, List.takeWhile_eq_self_iff.mpr hall]

theorem writtenFrom_of_routed (hmode : self.mode ≠ .idle)
    (hscene : self.activeScene = some activeScene) {updates : List (AttributeUpdate F)}
    {nowNs : Nat} (hok : (self.applyUpdates deviceId updates nowNs).1.isOk = true) {m : Mapping}
    {attr : SceneAttribute F} (hattr : self.attributeAt m.target = some attr)
    (hlive : attr.liveEnabled = true) {update : AttributeUpdate F} (hupdate : update ∈ updates)
    (hroute : self.route deviceId activeScene update.outputAttribute = some m)
    : self.WrittenFrom deviceId updates nowNs m := by
  obtain ⟨hall, -⟩ := accepts_of_isOk hmode hscene hok
  obtain ⟨earlier, later, rfl⟩ := List.append_of_mem hupdate
  have hearlier : ∀ u ∈ earlier, self.accepts deviceId activeScene u = true :=
    fun u hu => hall u (List.mem_append_left _ hu)
  have hupto : ∀ u ∈ earlier ++ [update], self.accepts deviceId activeScene u = true := by
    intro u hu
    apply hall
    rcases List.mem_append.mp hu with hu | hu
    . exact List.mem_append_left _ hu
    . rw [List.mem_singleton.mp hu]
      exact List.mem_append_right _ List.mem_cons_self
  -- the updates before it change the current value at most, so this one is still accepted
  have hsame : attr.Interchangeable (self.settle deviceId activeScene m.target attr earlier) :=
    interchangeable_settle self m.target attr earlier
  have haccepts := hall update hupdate
  simp only [accepts, hroute, hattr, hlive, Bool.not_true, Bool.false_or] at haccepts
  rw [← isOk_nextValue hsame] at haccepts
  cases hnext : nextValue (self.settle deviceId activeScene m.target attr earlier) update.value
      m.componentMask with
  | error e =>
    rw [hnext] at haccepts
    cases haccepts
  | ok v =>
    refine ⟨earlier, update, later, _, v, rfl, route_matches hroute, ?_, hnext, ?_⟩
    . rw [attributeAt_applyUpdates_of_accepts hmode hscene hearlier, hattr]
      rfl
    . rw [currentAt, attributeAt_applyUpdates_of_accepts hmode hscene hupto, hattr]
      have hlive' : (self.settle deviceId activeScene m.target attr earlier).liveEnabled = true := by
        rw [hsame.1]
        exact hlive
      rw [Option.map_some, Option.map_some, settle, List.foldl_append]
      change some (self.settleOne deviceId activeScene m.target
        (self.settle deviceId activeScene m.target attr earlier) update).currentValue = some v
      simp [settleOne, hroute, hlive', hnext]

theorem writtenFrom_of_first {updates : List (AttributeUpdate F)} {nowNs : Nat}
    (hmode : self.mode ≠ .idle) (hscene : self.activeScene = some activeScene)
    (hok : (self.applyUpdates deviceId updates nowNs).1.isOk = true) {m : Mapping}
    {earlier later : List Mapping} (hvalues : self.mappings.values = earlier ++ m :: later)
    (hlive : ∃ attr, self.attributeAt m.target = some attr ∧ attr.liveEnabled = true)
    (hlistens : ∃ update ∈ updates, m.Listens deviceId activeScene update.outputAttribute
      ∧ ∀ m' ∈ earlier, ¬ m'.Listens deviceId activeScene update.outputAttribute)
    : self.WrittenFrom deviceId updates nowNs m := by
  obtain ⟨attr, hattr, hlive⟩ := hlive
  obtain ⟨update, hupdate, hlistens, hfirst⟩ := hlistens
  exact writtenFrom_of_routed hmode hscene hok hattr hlive hupdate
    (route_eq_some_of_first hvalues hlistens hfirst)

end Batch

/--
Device 7 drives both switches with one button.
-/
def switchTwice : RuntimeCore Floats.rational :=
  Run.run step (new .default)
    [.loadScene (switchScene _), .createMapping (switchRequest 7 "left") 10 100,
      .createMapping (switchRequest 7 "right") 10 101, .setMode .live]

theorem switchTwice_values
    : switchTwice.mappings.values
        =
      [] ++ newMapping (switchRequest 7 "left") 10 100
        :: [newMapping (switchRequest 7 "right") 10 101] :=
  rfl

def buttonPress : List (AttributeUpdate Floats.rational) := [⟨"button", .bool true⟩]

theorem writtenFrom_of_first_switchTwice
    : switchTwice.WrittenFrom 7 buttonPress 20 (newMapping (switchRequest 7 "left") 10 100) := by
  apply writtenFrom_of_first (by decide) (show switchTwice.activeScene = some 1 from rfl) rfl
    switchTwice_values ⟨_, rfl, rfl⟩
  refine ⟨_, List.mem_singleton_self _, ⟨rfl, rfl, by decide, rfl⟩, ?_⟩
  intro m' hm'
  cases hm'

/--
The press succeeds, and the right switch, whose mapping listens to the button as well, stays off.
-/
theorem writtenFrom_fails
    : ¬ ∀ (s : RuntimeCore Floats.rational) (deviceId : Uuid) (activeScene : SceneId)
        (updates : List (AttributeUpdate Floats.rational)) (nowNs : Nat),
        s.mode ≠ .idle → s.activeScene = some activeScene
          → (s.applyUpdates deviceId updates nowNs).1.isOk = true
          → ∀ m ∈ s.mappings.values,
            (∃ attr, s.attributeAt m.target = some attr ∧ attr.liveEnabled = true)
              → (∃ update ∈ updates, m.Listens deviceId activeScene update.outputAttribute)
              → s.WrittenFrom deviceId updates nowNs m := by
  intro h
  obtain ⟨earlier, update, later, attr, v, hsplit, -, hattr, hnext, hwritten⟩ :=
    h switchTwice 7 1 buttonPress 20 (by decide) rfl rfl
      (newMapping (switchRequest 7 "right") 10 101)
      (by rw [switchTwice_values]; simp) ⟨_, rfl, rfl⟩
      ⟨_, List.mem_singleton_self _, rfl, rfl, by decide, rfl⟩
  -- the batch has one update, and the right switch is off before it and after it
  obtain ⟨rfl, rfl, rfl⟩ : earlier = [] ∧ update = ⟨"button", .bool true⟩ ∧ later = [] := by
    cases earlier with
    | nil =>
      simp only [buttonPress, List.nil_append, List.cons.injEq] at hsplit
      exact ⟨rfl, hsplit.1.symm, hsplit.2.symm⟩
    | cons first earlier => simp [buttonPress] at hsplit
  have hbefore : (switchTwice.applyUpdates 7 [] 20).2.attributeAt ⟨1, 2, "right"⟩
      = some (.new "right" (.bool false)) := rfl
  have hafter : (switchTwice.applyUpdates 7 buttonPress 20).2.currentAt ⟨1, 2, "right"⟩
      = some (.bool false) := rfl
  obtain rfl := Option.some.inj (hbefore.symm.trans hattr)
  obtain rfl := Option.some.inj (hafter.symm.trans hwritten)
  cases hnext

end RuntimeCore

end MotionStage
