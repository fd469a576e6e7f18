import MotionStage.Data.Threads
import MotionStage.Discovery.Basic
import MotionStage.Server.Signaling

/-!
This module contains the start and the stop of the server. The calls run as threads that take their
steps in any order, and a ledger of the spawned tasks says which of them nobody can stop any more.
-/

namespace MotionStage

variable {F : Floats}

/--
The tick loop and the publish loop of one start. The source has a shutdown channel and two join
handles for them.
-/
structure SchedulerLoops where
  id : Nat
  tickPeriodNs : Nat
  publishPeriodNs : Nat
  deriving DecidableEq, Repr

/--
The number stands for the accept loop that the shutdown channel and the join handle belong to.
-/
structure QuicRuntime where
  localAddr : SocketAddr
  id : Nat
  deriving DecidableEq, Repr

inductive Task where
  | quic (id : Nat)
  | scheduler (loops : SchedulerLoops)
  deriving DecidableEq, Repr

def Task.isQuic : Task → Bool
  | .quic _ => true
  | .scheduler _ => false

def Task.isScheduler : Task → Bool
  | .quic _ => false
  | .scheduler _ => true

structure RuntimeResources where
  quicRuntime : QuicRuntime
  discovery : Option DiscoveryPublisher
  scheduler : SchedulerLoops
  deriving DecidableEq, Repr

/--
The rest of the source's `ServerConfig`.
-/
structure NetworkConfig where
  name : String
  quicBindAddr : SocketAddr
  enableDiscovery : Bool
  tickHz : Nat
  publishHz : Nat
  deriving DecidableEq, Repr

def NetworkConfig.default : NetworkConfig where
  name := "motionstage"
  quicBindAddr := ⟨.v4 0, 7788⟩
  enableDiscovery := true
  tickHz := 120
  publishHz := 60

/--
The server state with the fields that starting and stopping are about, and beside it the tasks that
are alive.
-/
structure NetworkState (F : Floats) where
  server : ServerState F
  config : NetworkConfig
  runtimeResources : Option RuntimeResources
  activeAdvertisement : Option DiscoveryAdvertisement
  tasks : List Task
  /-- How many tasks have been spawned so far, from which each takes its number. -/
  spawned : Nat

structure NetworkResults where
  /-- `QuicServer::bind` and `local_addr`, for the address to bind. -/
  bound : SocketAddr → Except String SocketAddr
  /-- The mDNS calls of `DiscoveryPublisher::advertise`. -/
  registered : Except String Unit
  /-- The mDNS calls of `DiscoveryPublisher::stop`. -/
  unregistered : Except String Unit

structure StartConfig where
  name : String
  features : List Feature
  securityMode : String
  enableDiscovery : Bool
  tickHz : Nat
  publishHz : Nat

/--
The next step of a call of `start` (the first eight phases) or of `stop`.
-/
inductive LifecyclePhase where
  | readRunning
  | readConfig
  | readBindAddr (config : StartConfig)
  | bind (config : StartConfig) (bindAddr : SocketAddr)
  | advertise (config : StartConfig) (quicRuntime : QuicRuntime)
      (advertisement : DiscoveryAdvertisement)
  | spawnLoops (config : StartConfig) (quicRuntime : QuicRuntime)
      (advertisement : DiscoveryAdvertisement) (discovery : Option DiscoveryPublisher)
  | store (resources : RuntimeResources) (advertisement : DiscoveryAdvertisement)
  | started (result : Except ServerError DiscoveryAdvertisement)
  | takeResources
  | stopLoops (resources : RuntimeResources)
  | stopQuic (quicRuntime : QuicRuntime) (discovery : Option DiscoveryPublisher)
  | stopPublisher (discovery : Option DiscoveryPublisher)
  | stopped (result : Except ServerError Unit)

def LifecyclePhase.returned : LifecyclePhase → Bool
  | .started _ | .stopped _ => true
  | _ => false

def advertisedHostFor (addr : SocketAddr) : String :=
  if addr.ip.isUnspecified then "127.0.0.1" else addr.ip.display

namespace NetworkState

def new (config : ServerConfig) (network : NetworkConfig) : NetworkState F where
  server := .new config
  config := network
  runtimeResources := none
  activeAdvertisement := none
  tasks := []
  spawned := 0

def startConfig (self : NetworkState F) : StartConfig where
  name := self.config.name
  features := self.server.config.supportedFeatures
  securityMode := self.server.config.securityMode.asStr
  enableDiscovery := self.config.enableDiscovery
  tickHz := self.config.tickHz
  publishHz := self.config.publishHz

/--
The part of `start_quic_runtime` after it has read the address.
-/
def startQuicRuntime (self : NetworkState F) (bindAddr : SocketAddr) (results : NetworkResults)
    : Except ServerError QuicRuntime × NetworkState F :=
  match results.bound bindAddr with
  | .error e => (.error (.runtime e), self)
  | .ok localAddr =>
    (.ok ⟨localAddr, self.spawned⟩,
      { self with tasks := .quic self.spawned :: self.tasks, spawned := self.spawned + 1 })

def spawnSchedulerLoops (self : NetworkState F) (tickHz publishHz : Nat)
    : SchedulerLoops × NetworkState F :=
  let loops : SchedulerLoops :=
    { id := self.spawned
      tickPeriodNs := max (1000000000 / max tickHz 1) 1
      publishPeriodNs := max (1000000000 / max publishHz 1) 1 }
  (loops, { self with tasks := .scheduler loops :: self.tasks, spawned := self.spawned + 1 })

def advertisementFor (config : StartConfig) (localAddr : SocketAddr) : DiscoveryAdvertisement where
  serviceName := config.name
  bindHost := advertisedHostFor localAddr
  bindPort := localAddr.port
  protocolMajor := MotionStage.protocolMajor
  protocolMinor := MotionStage.protocolMinor
  features := config.features
  securityMode := config.securityMode

def storeResources (self : NetworkState F) (resources : RuntimeResources)
    (advertisement : DiscoveryAdvertisement) : NetworkState F :=
  { self with
    server := self.server.step (.setRunning true)
    config := { self.config with quicBindAddr := resources.quicRuntime.localAddr }
    runtimeResources := some resources
    activeAdvertisement := some advertisement }

def clearResources (self : NetworkState F) : NetworkState F :=
  { self with
    server := self.server.step (.setRunning false)
    runtimeResources := none
    activeAdvertisement := none }

/--
A task ends once it has been told to, and whoever tells it waits for that. No task panics, so the
join handles return no error.
-/
def endTask (self : NetworkState F) (task : Task) : NetworkState F :=
  { self with tasks := self.tasks.erase task }

def turn (self : NetworkState F) (phase : LifecyclePhase) (results : NetworkResults)
    : NetworkState F × LifecyclePhase :=
  match phase with
  | .readRunning =>
    match self.server.running, self.activeAdvertisement with
    | true, some advertisement => (self, .started (.ok advertisement))
    | _, _ => (self, .readConfig)
  | .readConfig => (self, .readBindAddr self.startConfig)
  | .readBindAddr config => (self, .bind config self.config.quicBindAddr)
  | .bind config bindAddr =>
    match self.startQuicRuntime bindAddr results with
    | (.error e, self) => (self, .started (.error e))
    | (.ok quicRuntime, self) =>
      (self, .advertise config quicRuntime (advertisementFor config quicRuntime.localAddr))
  | .advertise config quicRuntime advertisement =>
    if config.enableDiscovery then
      match DiscoveryPublisher.advertise advertisement results.registered with
      -- the accept loop runs on, its shutdown channel is dropped with `quicRuntime`
      | .error e => (self, .started (.error (.discovery e.display)))
      | .ok publisher => (self, .spawnLoops config quicRuntime advertisement (some publisher))
    else
      (self, .spawnLoops config quicRuntime advertisement none)
  | .spawnLoops config quicRuntime advertisement discovery =>
    let (scheduler, self) := self.spawnSchedulerLoops config.tickHz config.publishHz
    (self, .store ⟨quicRuntime, discovery, scheduler⟩ advertisement)
  -- resources that are stored already are dropped here, and their tasks run on
  | .store resources advertisement =>
    (self.storeResources resources advertisement, .started (.ok advertisement))
  | .takeResources =>
    match self.runtimeResources with
    | none => (self.clearResources, .stopped (.ok ()))
    | some resources => (self.clearResources, .stopLoops resources)
  | .stopLoops resources =>
    (self.endTask (.scheduler resources.scheduler),
      .stopQuic resources.quicRuntime resources.discovery)
  | .stopQuic quicRuntime discovery =>
    (self.endTask (.quic quicRuntime.id), .stopPublisher discovery)
  | .stopPublisher none => (self, .stopped (.ok ()))
  | .stopPublisher (some publisher) =>
    match publisher.stop results.unregistered with
    | .error e => (self, .stopped (.error (.discovery e.display)))
    | .ok () => (self, .stopped (.ok ()))
  | .started result => (self, .started result)
  | .stopped result => (self, .stopped result)

/--
The other calls of the server.
-/
def act (self : NetworkState F) : ServerOp F → NetworkState F
  | .setRunning _ => self
  | op => { self with server := self.server.step op }

end NetworkState

inductive LifecycleCall where
  | start
  | stop
  deriving DecidableEq, Repr

def LifecycleCall.enter : LifecycleCall → LifecyclePhase
  | .start => .readRunning
  | .stop => .takeResources

def lifecycle (F : Floats)
    : Threads.Machine (NetworkState F) LifecyclePhase LifecycleCall NetworkResults (ServerOp F) where
  enter := LifecycleCall.enter
  turn := NetworkState.turn
  act := NetworkState.act

section Ownership

def RuntimeResources.tasks (self : RuntimeResources) : Multiset Task :=
  {.quic self.quicRuntime.id} + {.scheduler self.scheduler}

/--
The tasks that only this call can still stop.
-/
def LifecyclePhase.held : LifecyclePhase → Multiset Task
  | .advertise _ quicRuntime _ => {.quic quicRuntime.id}
  | .spawnLoops _ quicRuntime _ _ => {.quic quicRuntime.id}
  | .store resources _ => resources.tasks
  | .stopLoops resources => resources.tasks
  | .stopQuic quicRuntime _ => {.quic quicRuntime.id}
  | _ => 0

namespace NetworkState

def storedTasks (self : NetworkState F) : Multiset Task :=
  (self.runtimeResources.map RuntimeResources.tasks).getD 0

def ledger : Threads.Ledger (NetworkState F) LifecyclePhase Task where
  alive self := self.tasks
  stored := storedTasks
  held := LifecyclePhase.held

/--
The step leaves no task behind: an advertisement goes out if one is asked for, and resources are
stored where none are.
-/
def Keeps (self : NetworkState F) : LifecyclePhase → NetworkResults → Prop
  | .advertise config _ _, results => config.enableDiscovery = true → results.registered.isOk = true
  | .store _ _, _ => self.runtimeResources.isNone = true
  | _, _ => True

instance (self : NetworkState F) (phase : LifecyclePhase) (results : NetworkResults)
    : Decidable (self.Keeps phase results) := by
  unfold Keeps
  split <;> infer_instance

def lost (self : NetworkState F) : LifecyclePhase → NetworkResults → Multiset Task
  | .advertise config quicRuntime _, results =>
    if config.enableDiscovery = true → results.registered.isOk = true then
      0
    else
      {.quic quicRuntime.id}
  | .store _ _, _ => self.storedTasks
  | _, _ => 0

theorem lost_cases (self : NetworkState F) (phase : LifecyclePhase) (results : NetworkResults)
    : (self.Keeps phase results ∧ self.lost phase results = 0)
        ∨
      (¬ self.Keeps phase results ∧ ∃ id, Task.quic id ∈ self.lost phase results) := by
  cases phase with
  | advertise config quicRuntime advertisement =>
    by_cases h : config.enableDiscovery = true → results.registered.isOk = true
    . exact .inl ⟨h, if_pos h⟩
    . refine .inr ⟨h, quicRuntime.id, ?_⟩
      rw [lost, if_neg h]
      exact Multiset.mem_singleton_self _
  | store resources advertisement =>
    simp only [Keeps, lost, storedTasks]
    cases self.runtimeResources with
    | none => exact .inl ⟨rfl, rfl⟩
    | some stored => exact .inr ⟨by simp, stored.quicRuntime.id, by simp [RuntimeResources.tasks]⟩
  | _ => exact .inl ⟨trivial, rfl⟩

theorem endTask_balanced {self : NetworkState F} {task : Task} (h : task ∈ self.tasks)
    (rest : Multiset Task)
    : ((self.endTask task).tasks + (rest + {task}) : Multiset Task) = self.tasks + rest := by
  have hcons : task ::ₘ (self.tasks : Multiset Task).erase task = self.tasks :=
    Multiset.cons_erase (Multiset.mem_coe.mpr h)
  simp only [endTask, ← Multiset.coe_erase]
  rw [← hcons, Multiset.erase_cons_head, ← Multiset.singleton_add]
  abel

theorem turn_balanced : (ledger (F := F)).Balanced (lifecycle F) lost := by
  intro self phase results hle
  have hquiet {next : NetworkState F × LifecyclePhase} (htasks : next.1.tasks = self.tasks)
      (hstored : next.1.storedTasks = self.storedTasks) (hheld : next.2.held = phase.held)
      (hlost : self.lost phase results = 0)
      : (next.1.tasks + (self.storedTasks + phase.held) : Multiset Task)
          =
        self.tasks + (next.1.storedTasks + next.2.held) + self.lost phase results := by
    rw [htasks, hstored, hheld, hlost, add_zero]
  simp only [ledger, lifecycle] at hle ⊢
  cases phase with
  | readRunning =>
    simp only [turn]
    split <;> exact hquiet rfl rfl rfl rfl
  | bind config bindAddr =>
    simp only [turn, startQuicRuntime]
    cases results.bound bindAddr with
    | error e => exact hquiet rfl rfl rfl rfl
    | ok localAddr =>
      simp only [LifecyclePhase.held, lost, storedTasks, ← Multiset.cons_coe,
        ← Multiset.singleton_add]
      abel
  | advertise config quicRuntime advertisement =>
    simp only [turn]
    cases hdiscovery : config.enableDiscovery with
    | false => exact hquiet rfl rfl rfl (if_pos (by simp [hdiscovery]))
    | true =>
      cases hregistered : results.registered with
      | error e =>
        have hfails : ¬ (config.enableDiscovery = true → results.registered.isOk = true) := by
          simp [hdiscovery, hregistered, Except.isOk, Except.toBool]
        simp only [↓reduceIte, DiscoveryPublisher.advertise, LifecyclePhase.held, lost,
          if_neg hfails]
        abel
      | ok => exact hquiet rfl rfl rfl (if_pos (by simp [hregistered, Except.isOk, Except.toBool]))
  | spawnLoops config quicRuntime advertisement discovery =>
    simp only [turn, spawnSchedulerLoops, LifecyclePhase.held, lost, storedTasks,
      RuntimeResources.tasks, ← Multiset.cons_coe, ← Multiset.singleton_add]
    abel
  | store resources advertisement =>
    simp only [turn, storeResources, LifecyclePhase.held, lost, storedTasks, Option.map_some,
      Option.getD_some]
    abel
  | takeResources =>
    cases hstored : self.runtimeResources with
    | none => simp [turn, lost, storedTasks, clearResources, hstored, LifecyclePhase.held]
    | some resources => simp [turn, lost, storedTasks, clearResources, hstored, LifecyclePhase.held]
  | stopLoops resources =>
    have halive : Task.scheduler resources.scheduler ∈ self.tasks := by
      apply Multiset.mem_coe.mp
      apply Multiset.mem_of_le hle
      simp [LifecyclePhase.held, RuntimeResources.tasks]
    have hend := endTask_balanced halive (self.storedTasks + {.quic resources.quicRuntime.id})
    rw [add_assoc] at hend
    exact hend.trans (add_zero _).symm
  | stopQuic quicRuntime discovery =>
    have halive : Task.quic quicRuntime.id ∈ self.tasks := by
      apply Multiset.mem_coe.mp
      apply Multiset.mem_of_le hle
      simp [LifecyclePhase.held]
    have hend := endTask_balanced halive self.storedTasks
    simpa [turn, lost, LifecyclePhase.held, endTask, storedTasks] using hend
  | stopPublisher discovery =>
    cases discovery with
    | none => exact hquiet rfl rfl rfl rfl
    | some publisher =>
      simp only [turn]
      split <;> exact hquiet rfl rfl rfl rfl
  | _ => exact hquiet rfl rfl rfl rfl

theorem act_accounted (self : NetworkState F) (op : ServerOp F)
    : (self.act op).tasks = self.tasks
        ∧ (self.act op).runtimeResources = self.runtimeResources
        ∧ (self.act op).server.running = self.server.running := by
  cases op with
  | setRunning => exact ⟨rfl, rfl, rfl⟩
  | _ => exact ⟨rfl, rfl, ServerState.running_step (by simp)⟩

end NetworkState

end Ownership

section Runs

namespace NetworkState

def Stored (self : NetworkState F) : Prop := self.server.running = self.runtimeResources.isSome

theorem turn_stored {self : NetworkState F} (h : self.Stored) (phase : LifecyclePhase)
    (results : NetworkResults)
    : (self.turn phase results).1.Stored := by
  cases phase with
  | readRunning =>
    simp only [turn]
    split <;> exact h
  | bind config bindAddr =>
    simp only [turn, startQuicRuntime]
    cases results.bound bindAddr <;> exact h
  | advertise config quicRuntime advertisement =>
    simp only [turn]
    split
    . split <;> exact h
    . exact h
  | store resources advertisement => rfl
  | takeResources =>
    simp only [turn]
    split <;> rfl
  | stopPublisher discovery =>
    cases discovery with
    | none => exact h
    | some publisher =>
      simp only [turn]
      split <;> exact h
  | _ => exact h

def quicAlive (self : NetworkState F) : Nat := self.tasks.countP Task.isQuic

def schedulersAlive (self : NetworkState F) : Nat := self.tasks.countP Task.isScheduler

def NoStray (self : NetworkState F) : Prop :=
  self.quicAlive = self.server.running.toNat ∧ self.schedulersAlive = self.server.running.toNat

instance (self : NetworkState F) : Decidable self.NoStray := by
  unfold NoStray
  infer_instance

theorem count_storedTasks {self : NetworkState F} (h : self.Stored)
    : self.storedTasks.countP (Task.isQuic ·) = self.server.running.toNat
        ∧ self.storedTasks.countP (Task.isScheduler ·) = self.server.running.toNat := by
  rw [h, storedTasks]
  cases self.runtimeResources with
  | none => simp
  | some resources => exact ⟨rfl, rfl⟩

theorem count_tasks {self : NetworkState F} (hstored : self.Stored) {stray : Multiset Task}
    (h : (self.tasks : Multiset Task) = self.storedTasks + stray)
    : self.quicAlive = self.server.running.toNat + stray.countP (Task.isQuic ·)
        ∧ self.schedulersAlive
            = self.server.running.toNat + stray.countP (Task.isScheduler ·) := by
  obtain ⟨hquic, hscheduler⟩ := count_storedTasks hstored
  have hcount (kind : Task → Bool)
      : self.tasks.countP kind
          = self.storedTasks.countP (kind ·) + stray.countP (kind ·) := by
    rw [← Multiset.countP_add, ← h, Multiset.coe_countP]
    simp
  exact ⟨by rw [quicAlive, hcount, hquic], by rw [schedulersAlive, hcount, hscheduler]⟩

end NetworkState

def Quiet (p : Threads.Pool (NetworkState F) LifecyclePhase) : Prop :=
  ∀ phase ∈ p.threads, phase.returned = true

instance (p : Threads.Pool (NetworkState F) LifecyclePhase) : Decidable (Quiet p) := by
  unfold Quiet
  infer_instance

theorem owned_of_quiet {p : Threads.Pool (NetworkState F) LifecyclePhase} (h : Quiet p)
    : NetworkState.ledger.owned p = p.shared.storedTasks := by
  have hheld : ∀ tasks ∈ p.threads.map LifecyclePhase.held, tasks = 0 := by
    simp only [List.mem_map]
    rintro tasks ⟨phase, hphase, rfl⟩
    have hreturned := h phase hphase
    cases phase with
    | started => rfl
    | stopped => rfl
    | _ => cases hreturned
  simp only [Threads.Ledger.owned, NetworkState.ledger, List.sum_eq_zero_iff.mpr hheld, add_zero]

theorem lostBy_cases (p : Threads.Pool (NetworkState F) LifecyclePhase)
    (e : Threads.Event LifecycleCall NetworkResults (ServerOp F))
    : (Threads.lostBy NetworkState.lost p e = 0
        ∧ Threads.Machine.OnStep NetworkState.Keeps (fun _ _ => True) p e)
        ∨
      ((∃ id, Task.quic id ∈ Threads.lostBy NetworkState.lost p e)
        ∧ ¬ Threads.Machine.OnStep NetworkState.Keeps (fun _ _ => True) p e) := by
  cases e with
  | call => exact .inl ⟨rfl, trivial⟩
  | act => exact .inl ⟨rfl, trivial⟩
  | turn i results =>
    cases h : p.threads[i]? with
    | none => simp [Threads.lostBy, Threads.Machine.OnStep, h]
    | some phase =>
      simp only [Threads.lostBy, Threads.Machine.OnStep, h, Option.map_some, Option.getD_some,
        Option.mem_some_iff, forall_eq']
      exact (p.shared.lost_cases phase results).imp And.symm And.symm

abbrev LifecycleEvents (F : Floats) : Type :=
  List (Threads.Event LifecycleCall NetworkResults (ServerOp F))

def runLifecycle (config : ServerConfig) (network : NetworkConfig) (es : LifecycleEvents F)
    : Threads.Pool (NetworkState F) LifecyclePhase :=
  Run.run (lifecycle F).step ⟨.new config network, []⟩ es

theorem stored_runLifecycle (config : ServerConfig) (network : NetworkConfig)
    (es : LifecycleEvents F)
    : (runLifecycle config network es).shared.Stored := by
  apply Threads.Machine.shared_invariant (m := lifecycle F) (P := NetworkState.Stored)
  . exact fun self phase results h => NetworkState.turn_stored h phase results
  . intro self op h
    obtain ⟨-, hresources, hrunning⟩ := self.act_accounted op
    simpa only [lifecycle, NetworkState.Stored, hresources, hrunning] using h
  . rfl

theorem noStray_run_iff (config : ServerConfig) (network : NetworkConfig) (es : LifecycleEvents F)
    (h : Quiet (runLifecycle config network es))
    : (runLifecycle config network es).shared.NoStray
        ↔
      Run.AllSteps (lifecycle F).step
        (Threads.Machine.OnStep NetworkState.Keeps fun _ _ => True) ⟨.new config network, []⟩ es := by
  have haccounted :=
    Threads.Ledger.run_accounted (p := ⟨.new config network, []⟩) NetworkState.turn_balanced
      (by rintro (_ | _) <;> rfl)
      (fun self op => by
        obtain ⟨htasks, hresources, -⟩ := self.act_accounted op
        simp only [NetworkState.ledger, lifecycle, NetworkState.storedTasks, htasks, hresources,
          and_self])
      rfl es
  change _ = NetworkState.ledger.owned (runLifecycle config network es) + _ at haccounted
  rw [owned_of_quiet h] at haccounted
  obtain ⟨hquic, hscheduler⟩ :=
    NetworkState.count_tasks (stored_runLifecycle config network es) haccounted
  rw [Run.allSteps_iff_log]
  constructor
  . rintro ⟨hnoStray, -⟩ entry hentry
    rcases lostBy_cases entry.1 entry.2 with ⟨-, hkeeps⟩ | ⟨⟨id, hlost⟩, -⟩
    . exact hkeeps
    . -- the lost accept loop is one that `running` does not account for
      have hstray := Multiset.mem_of_le (Threads.lostBy_le_lostIn _ hentry) hlost
      have hpos := Multiset.countP_pos_of_mem (p := (Task.isQuic ·)) hstray rfl
      omega
  . intro hkeeps
    have hlost : ∀ entry ∈ Run.log (lifecycle F).step ⟨.new config network, []⟩ es,
        Threads.lostBy NetworkState.lost entry.1 entry.2 = 0 := by
      intro entry hentry
      rcases lostBy_cases entry.1 entry.2 with ⟨hlost, -⟩ | ⟨-, hno⟩
      . exact hlost
      . exact absurd (hkeeps entry hentry) hno
    rw [Threads.lostIn_eq_zero hlost] at hquic hscheduler
    exact ⟨by simpa using hquic, by simpa using hscheduler⟩

def localNetwork (port : Nat) (registered : Except String Unit) : NetworkResults where
  bound addr := .ok { addr with port := if addr.port = 0 then port else addr.port }
  registered := registered
  unregistered := .ok ()

def turns (i count : Nat) (results : NetworkResults) : LifecycleEvents Floats.rational :=
  List.replicate count (.turn i results)

def anyPort : NetworkConfig := { NetworkConfig.default with quicBindAddr := ⟨.v4 0, 0⟩ }

def startThenStop : LifecycleEvents Floats.rational :=
  [.call .start] ++ turns 0 7 (localNetwork 50000 (.ok ())) ++ [.call .stop]
    ++ turns 1 4 (localNetwork 50000 (.ok ()))

/--
The second start has read that the server is not running before the first one stores its resources.
-/
def startsOverlapping : LifecycleEvents Floats.rational :=
  [.call .start, .call .start] ++ turns 1 3 (localNetwork 50001 (.ok ()))
    ++ turns 0 7 (localNetwork 50000 (.ok ())) ++ turns 1 4 (localNetwork 50001 (.ok ()))

def startUnadvertised : LifecycleEvents Floats.rational :=
  [.call .start] ++ turns 0 5 (localNetwork 50000 (.error "no network interface"))

theorem noStray_run_startThenStop : (runLifecycle .default anyPort startThenStop).shared.NoStray :=
  (noStray_run_iff .default anyPort startThenStop (by decide)).mpr (by decide)

theorem noStray_fails
    : (Quiet (runLifecycle .default anyPort startsOverlapping)
        ∧ ¬ (runLifecycle .default anyPort startsOverlapping).shared.NoStray)
        ∧ Quiet (runLifecycle .default anyPort startUnadvertised)
        ∧ ¬ (runLifecycle .default anyPort startUnadvertised).shared.NoStray := by
  decide

end Runs

end MotionStage
