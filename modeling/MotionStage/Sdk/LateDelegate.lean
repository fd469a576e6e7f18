import MotionStage.Data.Run
import MotionStage.Sdk.EventPump

/-!
This module contains what a delegate is sent that is bound while the polls are running. The caches
advance whether or not a delegate is bound, so a delegate is only sent what the next round finds
changed.
-/

namespace MotionStage

namespace Sdk

structure PollRound (α : Type) where
  sessions : List SessionRow
  order : SetOrder
  mode : String
  rows : List (AttributeRow α)

inductive ServerCall (α : Type) where
  | start
  | stop
  | bindDelegate
  | round (r : PollRound α)

def ServerCall.isLifecycle {α : Type} : ServerCall α → Bool
  | .start | .stop => true
  | .bindDelegate | .round _ => false

namespace MotionStageServer

variable {α : Type} (lower : String → String) (repr : α → String)

/--
One time around the loop of `_poll_client_events` in which all three polls are due.
-/
def pollRound (s : MotionStageServer α) (r : PollRound α) : MotionStageServer α :=
  ((s.emitClientDeltas lower r.order r.sessions).emitModeDelta lower r.mode).2
    |>.emitRuntimeAttributeBatch repr r.rows

def step (s : MotionStageServer α) : ServerCall α → MotionStageServer α
  | .start => s.start
  | .stop => s.stop
  | .bindDelegate => s.bindDelegate
  | .round r => if s.pumping then s.pollRound lower repr r else s

def sent (s : MotionStageServer α) : List (DelegateCall α) := s.delegate.getD []

structure UpToDate (s : MotionStageServer α) (r : PollRound α) : Prop where
  mode : .onModeEvent (lower (strip r.mode)) ∈ s.sent
  clients : ∀ client ∈ clients lower r.sessions, .onClientEvent (.upsert client) ∈ s.sent
  attributes : ∀ change ∈ attributeChanges r.rows,
    ∃ batch, .onAttributeBatch batch ∈ s.sent ∧ change ∈ batch

/--
The polls run, there is a mode, and the caches hold nothing of what the round finds.
-/
structure Unseen (s : MotionStageServer α) (r : PollRound α) : Prop where
  pumping : s.pumping = true
  someMode : lower (strip r.mode) ≠ ""
  mode : s.knownMode ≠ some (lower (strip r.mode))
  clients : ∀ client ∈ clients lower r.sessions,
    s.knownClients.get? client.deviceId ≠ some client.known
  attributes : ∀ change ∈ attributeChanges r.rows,
    s.knownAttributeValues.get? change.key ≠ some (repr change.value)

def modeCalls (known : Option String) (mode : String) : List (DelegateCall α) :=
  if lower (strip mode) = "" ∨ some (lower (strip mode)) = known then
    []
  else
    [.onModeEvent (lower (strip mode))]

def roundCalls (s : MotionStageServer α) (r : PollRound α) : List (DelegateCall α) :=
  (clientEvents lower r.order s.knownClients r.sessions).map .onClientEvent
    ++ modeCalls lower s.knownMode r.mode ++ attributeCalls repr s.knownAttributeValues r.rows

variable {lower repr}

theorem emitModeDelta_delegate (s : MotionStageServer α) (mode : String)
    : (s.emitModeDelta lower mode).2.delegate
        = s.delegate.map fun sent => sent ++ modeCalls lower s.knownMode mode := by
  by_cases hsame : lower (strip mode) = "" ∨ some (lower (strip mode)) = s.knownMode
  . simp [emitModeDelta, modeCalls, hsame]
  . simp [emitModeDelta, modeCalls, emit, hsame]

theorem emitModeDelta_known (s : MotionStageServer α) (mode : String)
    : (s.emitModeDelta lower mode).2.knownAttributeValues = s.knownAttributeValues := by
  by_cases hsame : lower (strip mode) = "" ∨ some (lower (strip mode)) = s.knownMode
  . simp [emitModeDelta, hsame]
  . simp [emitModeDelta, emit, hsame]

theorem emitRuntimeAttributeBatch_delegate (s : MotionStageServer α) (rows : List (AttributeRow α))
    : (s.emitRuntimeAttributeBatch repr rows).delegate
        = s.delegate.map fun sent => sent ++ attributeCalls repr s.knownAttributeValues rows := by
  by_cases hrows : rows = []
  . subst hrows
    simp [emitRuntimeAttributeBatch, attributeCalls, attributeChanges, Delta.changes]
  . rw [emitRuntimeAttributeBatch_eq repr s hrows]
    rfl

theorem pollRound_delegate (s : MotionStageServer α) (r : PollRound α)
    : (s.pollRound lower repr r).delegate
        = s.delegate.map fun sent => sent ++ s.roundCalls lower repr r := by
  rw [pollRound, emitRuntimeAttributeBatch_delegate, emitModeDelta_delegate, emitModeDelta_known,
    emitClientDeltas_eq]
  simp [emitAll, roundCalls, Function.comp_def]

theorem mem_modeCalls {known : Option String} {mode : String} {call : DelegateCall α}
    : call ∈ modeCalls lower known mode
        ↔ (lower (strip mode) ≠ "" ∧ known ≠ some (lower (strip mode)))
          ∧ call = .onModeEvent (lower (strip mode)) := by
  by_cases hsame : lower (strip mode) = "" ∨ some (lower (strip mode)) = known
  . rw [modeCalls, if_pos hsame]
    refine iff_of_false (by simp) ?_
    rintro ⟨⟨hsome, hknown⟩, -⟩
    exact hsame.elim hsome fun h => hknown h.symm
  . rw [modeCalls, if_neg hsame, List.mem_singleton]
    have hchanged : lower (strip mode) ≠ "" ∧ known ≠ some (lower (strip mode)) :=
      ⟨fun h => hsame (.inl h), fun h => hsame (.inr h.symm)⟩
    simp [hchanged]

theorem mem_attributeCalls {known : IndexMap (String × String) String}
    {rows : List (AttributeRow α)} {call : DelegateCall α}
    : call ∈ attributeCalls repr known rows
        ↔ Delta.changes AttributeChange.key (fun change => repr change.value) known
            (attributeChanges rows) ≠ []
          ∧ call = .onAttributeBatch (Delta.changes AttributeChange.key
              (fun change => repr change.value) known (attributeChanges rows)) := by
  by_cases hnil : Delta.changes AttributeChange.key (fun change => repr change.value) known
      (attributeChanges rows) = []
  . simp [attributeCalls, hnil]
  . simp [attributeCalls, hnil]

theorem modeEvent_mem_roundCalls {s : MotionStageServer α} {r : PollRound α}
    : .onModeEvent (lower (strip r.mode)) ∈ s.roundCalls lower repr r
        ↔ lower (strip r.mode) ≠ "" ∧ s.knownMode ≠ some (lower (strip r.mode)) := by
  simp [roundCalls, mem_modeCalls, mem_attributeCalls]

theorem upsert_mem_roundCalls {s : MotionStageServer α} {r : PollRound α} {client : Client}
    : .onClientEvent (.upsert client) ∈ s.roundCalls lower repr r
        ↔ client ∈ clients lower r.sessions
          ∧ s.knownClients.get? client.deviceId ≠ some client.known := by
  simp [roundCalls, mem_modeCalls, mem_attributeCalls, clientEvents, Delta.mem_changes]

theorem batch_mem_roundCalls {s : MotionStageServer α} {r : PollRound α}
    {change : AttributeChange α}
    : (∃ batch, .onAttributeBatch batch ∈ s.roundCalls lower repr r ∧ change ∈ batch)
        ↔ change ∈ attributeChanges r.rows
          ∧ s.knownAttributeValues.get? change.key ≠ some (repr change.value) := by
  have hchanges : (∃ batch, .onAttributeBatch batch ∈ s.roundCalls lower repr r ∧ change ∈ batch)
      ↔ change ∈ Delta.changes AttributeChange.key (fun change => repr change.value)
          s.knownAttributeValues (attributeChanges r.rows) := by
    simp only [roundCalls, List.mem_append, List.mem_map, mem_modeCalls, mem_attributeCalls]
    constructor
    . rintro ⟨batch, (⟨event, -, hcall⟩ | ⟨-, hcall⟩) | ⟨-, hcall⟩, hmem⟩
      . cases hcall
      . cases hcall
      . cases hcall
        exact hmem
    . intro hmem
      exact ⟨_, .inr ⟨List.ne_nil_of_mem hmem, rfl⟩, hmem⟩
  rw [hchanges, Delta.mem_changes]

theorem upToDate_pollRound_iff {s : MotionStageServer α} (h : s.delegate = some []) (r : PollRound α)
    : (s.step lower repr (.round r)).UpToDate lower r ↔ s.Unseen lower repr r := by
  by_cases hpumping : s.pumping = true
  . have hsent : (s.step lower repr (.round r)).sent = s.roundCalls lower repr r := by
      simp [step, hpumping, sent, pollRound_delegate, h]
    constructor
    . rintro ⟨hmode, hclients, hattributes⟩
      rw [hsent] at hmode hclients hattributes
      obtain ⟨hsome, hknown⟩ := modeEvent_mem_roundCalls.mp hmode
      refine ⟨hpumping, hsome, hknown, ?_, ?_⟩
      . exact fun client hclient => (upsert_mem_roundCalls.mp (hclients client hclient)).2
      . exact fun change hchange => (batch_mem_roundCalls.mp (hattributes change hchange)).2
    . rintro ⟨-, hsome, hknown, hclients, hattributes⟩
      constructor
      . rw [hsent]
        exact modeEvent_mem_roundCalls.mpr ⟨hsome, hknown⟩
      . rw [hsent]
        exact fun client hclient =>
          upsert_mem_roundCalls.mpr ⟨hclient, hclients client hclient⟩
      . rw [hsent]
        exact fun change hchange =>
          batch_mem_roundCalls.mpr ⟨hchange, hattributes change hchange⟩
  . have hsent : (s.step lower repr (.round r)).sent = [] := by simp [step, hpumping, sent, h]
    refine iff_of_false ?_ fun hunseen => hpumping hunseen.pumping
    intro hupToDate
    have hmode := hupToDate.mode
    rw [hsent] at hmode
    cases hmode

theorem delegate_lifecycle {s : MotionStageServer α} {calls : List (ServerCall α)}
    (h : ∀ call ∈ calls, call.isLifecycle = true)
    : (Run.run (step lower repr) s calls).delegate = s.delegate := by
  refine Run.run_invariant (P := fun t : MotionStageServer α => t.delegate = s.delegate)
    (C := fun _ (call : ServerCall α) => call.isLifecycle = true) ?_ rfl
    (Run.allSteps_of_forall _ h)
  intro t call ht hcall
  cases call with
  | start => exact ht
  | stop => exact ht
  | bindDelegate => cases hcall
  | round r => cases hcall

theorem upToDate_iff_unseen (lower : String → String) (repr : α → String)
    (before between : List (ServerCall α)) (hbetween : ∀ call ∈ between, call.isLifecycle = true)
    (r : PollRound α)
    : (Run.run (step lower repr) new (before ++ .bindDelegate :: between ++ [.round r])).UpToDate
          lower r
        ↔ (Run.run (step lower repr) new (before ++ .bindDelegate :: between)).Unseen lower repr r := by
  rw [Run.run_append, Run.run_cons, Run.run_nil]
  apply upToDate_pollRound_iff
  rw [Run.run_append, Run.run_cons, delegate_lifecycle hbetween]
  rfl

/--
A server that is stopped and started again has forgotten everything, so its delegate is brought up
to date by the first round that has a mode.
-/
theorem upToDate_of_restart (before : List (ServerCall α)) {r : PollRound α}
    (hmode : lower (strip r.mode) ≠ "")
    : (Run.run (step lower repr) new
        (before ++ [.bindDelegate, .stop, .start, .round r])).UpToDate lower r := by
  rw [show before ++ [ServerCall.bindDelegate, .stop, .start, .round r]
    = (before ++ [.bindDelegate, .stop, .start]) ++ [.round r] by simp]
  rw [Run.run_append _ _ (before ++ _), Run.run_cons, Run.run_nil, upToDate_pollRound_iff]
  . rw [Run.run_append]
    refine ⟨rfl, hmode, nofun, ?_, ?_⟩
    . intro client _
      simp [step, start, stop]
    . intro change _
      simp [step, start, stop]
  . rw [Run.run_append]
    rfl

def reprBool (b : Bool) : String := if b then "True" else "False"

def stage : PollRound Bool where
  sessions :=
    [⟨some "ipad-1", some "iPad Pro", some "session-1", none, none, none, some "Active"⟩]
  order := .listed
  mode := "Live"
  rows := [⟨none, some "camera", some "visible", true⟩]

theorem upToDate_iff_unseen_stage
    : (Run.run (step asciiLower reprBool) new
        ([] ++ .bindDelegate :: [.start] ++ [.round stage])).UpToDate asciiLower stage :=
  (upToDate_iff_unseen asciiLower reprBool [] [.start] (by decide) stage).mpr
    ⟨by decide, by decide, by decide, by decide, by decide⟩

/--
A delegate that is bound after the first round: the second round finds nothing new, and the delegate
is sent nothing.
-/
theorem upToDate_fails
    : ¬ (Run.run (step asciiLower reprBool) new
        [.start, .round stage, .bindDelegate, .round stage]).UpToDate asciiLower stage := by
  rintro ⟨hmode, -, -⟩
  revert hmode
  decide

end MotionStageServer

end Sdk

end MotionStage
