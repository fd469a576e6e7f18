import MotionStage.Data.Run
import MotionStage.Sdk.EventPump

/-!
This module contains what a listener makes of the client events: it stores the fields of every
upsert and deletes on every removal. The cached tuple of a client leaves out the session, so a
client that comes back under a new session is not sent again.
-/

namespace MotionStage

namespace Sdk

def listen {α : Type} (table : String → Option Client) : DelegateCall α → String → Option Client
  | .onClientEvent (.upsert client) => Function.update table client.deviceId (some client)
  | .onClientEvent (.removed deviceId) => Function.update table deviceId none
  | .onModeEvent _ | .onAttributeBatch _ => table

def MotionStageServer.mirror {α : Type} (s : MotionStageServer α) : String → Option Client :=
  (s.delegate.getD []).foldl listen fun _ => none

structure ClientPoll where
  sessions : List SessionRow
  order : SetOrder

structure ClientMirror (α : Type) where
  server : MotionStageServer α
  sessions : List SessionRow

namespace ClientMirror

variable {α : Type} (lower : String → String)

def start : ClientMirror α := ⟨MotionStageServer.new.bindDelegate, []⟩

def step (m : ClientMirror α) (poll : ClientPoll) : ClientMirror α :=
  ⟨m.server.emitClientDeltas lower poll.order poll.sessions, poll.sessions⟩

def Mirrors (m : ClientMirror α) : Prop :=
  Delta.Holds Client.deviceId m.server.mirror (MotionStageServer.clients lower m.sessions)

/--
A device identifier stands for one client of the list. A client that has the fields that it had in
the list before has the session that it had there.
-/
structure Steady (m : ClientMirror α) (poll : ClientPoll) : Prop where
  unique : ∀ c ∈ MotionStageServer.clients lower poll.sessions,
    ∀ c' ∈ MotionStageServer.clients lower poll.sessions, c.deviceId = c'.deviceId → c = c'
  session : ∀ c ∈ MotionStageServer.clients lower poll.sessions,
    ∀ old ∈ MotionStageServer.clients lower m.sessions,
      old.deviceId = c.deviceId → old.known = c.known → old.sessionId = c.sessionId

variable {lower}

theorem steady_iff_tracked {m : ClientMirror α} {poll : ClientPoll}
    : m.Steady lower poll
        ↔ Delta.Tracked Client.deviceId Client.known (MotionStageServer.clients lower m.sessions)
            (MotionStageServer.clients lower poll.sessions) := by
  constructor
  . intro h
    refine ⟨h.unique, ?_⟩
    rintro ⟨_, _, _⟩ hc ⟨_, _, _⟩ hold rfl rfl
    cases h.session _ hc _ hold rfl rfl
    rfl
  . intro h
    refine ⟨h.unique, ?_⟩
    intro c hc old hold hdevice hknown
    rw [h.same c hc old hold hdevice hknown]

structure Cached (lower : String → String) (m : ClientMirror α) : Prop where
  bound : m.server.delegate.isSome
  known : m.server.knownClients
    = Delta.cache Client.deviceId Client.known (MotionStageServer.clients lower m.sessions)

theorem cached_step {m : ClientMirror α} (h : m.Cached lower) (poll : ClientPoll)
    : (m.step lower poll).Cached lower := by
  rw [step, MotionStageServer.emitClientDeltas_eq]
  refine ⟨?_, rfl⟩
  simpa [MotionStageServer.emitAll] using h.bound

theorem mirror_emitAll {s : MotionStageServer α} (h : s.delegate.isSome)
    (calls : List (DelegateCall α))
    : (s.emitAll calls).mirror = calls.foldl listen s.mirror := by
  obtain ⟨sent, hsent⟩ := Option.isSome_iff_exists.mp h
  simp [MotionStageServer.mirror, MotionStageServer.emitAll, hsent]

theorem mirror_step {m : ClientMirror α} (h : m.Cached lower) (poll : ClientPoll)
    : (m.step lower poll).server.mirror
        =
      Delta.refreshed Client.deviceId Client.known m.server.mirror m.server.knownClients
        (MotionStageServer.clients lower poll.sessions)
        (poll.order.order (Delta.vanished Client.deviceId Client.known m.server.knownClients
          (MotionStageServer.clients lower poll.sessions))) := by
  rw [step, MotionStageServer.emitClientDeltas_eq]
  refine (mirror_emitAll h.bound _).trans ?_
  rw [MotionStageServer.clientEvents, List.map_append, List.foldl_append, List.map_map,
    List.map_map, List.foldl_map, List.foldl_map]
  rfl

theorem mirrors_step_iff {m : ClientMirror α} (hcached : m.Cached lower) (h : m.Mirrors lower)
    (poll : ClientPoll)
    : (m.step lower poll).Mirrors lower ↔ m.Steady lower poll := by
  rw [Mirrors, mirror_step hcached, hcached.known, steady_iff_tracked]
  exact Delta.holds_iff_tracked h fun k => (poll.order.perm _).mem_iff

theorem mirrors_iff_steady (lower : String → String) (polls : List ClientPoll)
    : Run.AllStates (step lower) (Mirrors lower) (start : ClientMirror α) polls
        ↔ Run.AllSteps (step lower) (Steady lower) (start : ClientMirror α) polls := by
  have hcached : (start : ClientMirror α).Cached lower := ⟨rfl, rfl⟩
  have hmirrors : (start : ClientMirror α).Mirrors lower := by
    intro deviceId client
    simp [start, MotionStageServer.bindDelegate, MotionStageServer.mirror,
      MotionStageServer.clients]
  exact Run.allStates_iff_allSteps_of_invariant (fun _ poll h => cached_step h poll)
    (fun _ poll hI h => mirrors_step_iff hI h poll) hcached hmirrors

/--
A tablet that registers again between two polls: all of its fields are as before, and its session
is a new one.
-/
def reconnect : List ClientPoll :=
  [⟨[⟨some "ipad-1", some "iPad Pro", some "session-1", none, none, none, some "Active"⟩], .listed⟩,
    ⟨[⟨some "ipad-1", some "iPad Pro", some "session-2", none, none, none, some "Active"⟩], .listed⟩]

theorem mirrors_fails
    : ¬ Run.AllStates (step asciiLower) (Mirrors asciiLower) (start : ClientMirror Nat) reconnect := by
  intro h
  have hold : (Run.run (step asciiLower) (start : ClientMirror Nat) reconnect).server.mirror "ipad-1"
      = some ⟨"ipad-1", ⟨"iPad Pro", [], [], [], "Active"⟩, some "session-1"⟩ := by
    decide
  have hmem := ((h.last "ipad-1" _).mp hold).1
  revert hmem
  decide

end ClientMirror

end Sdk

end MotionStage
