import Mathlib.Data.Prod.Lex
import MotionStage.Data.IndexMap
import MotionStage.Data.Strings
import MotionStage.Discovery.Browser

/-!
This module contains how the simulator finds the server that it connects to.
-/

namespace MotionStage

namespace IpAddr

def isLoopback : IpAddr → Bool
  | .v4 bits => bits.toNat / 2 ^ 24 = 127
  | .v6 bits => bits = 1

def isIpv4 : IpAddr → Bool
  | .v4 _ => true
  | .v6 _ => false

end IpAddr

def SocketAddr.display (addr : SocketAddr) : String :=
  match addr.ip with
  | .v4 _ => s!"{addr.ip.display}:{addr.port}"
  | .v6 _ => s!"[{addr.ip.display}]:{addr.port}"

namespace Simulate

inductive ResolvedConnectTarget where
  | direct (addr : SocketAddr)
  | discovered (serviceName : String) (endpoint : SocketAddr) (hostName : String)
    (protocolMajor protocolMinor : Option Nat)
  deriving DecidableEq, Repr

def normalizeServiceName (name : String) : String :=
  String.ofList ((Text.trim name).toList.map Char.toLower)

/--
IPv4 comes before IPv6, and the loopback last.
-/
def endpointKey (ip : IpAddr) : Nat ×ₗ Nat ×ₗ String :=
  toLex (if ip.isIpv4 then 0 else 1, toLex (if ip.isLoopback then 1 else 0, ip.display))

def selectPreferredEndpoint (service : DiscoveredService) : Option SocketAddr :=
  let addresses := service.addresses.mergeSort fun a b => decide (endpointKey a ≤ endpointKey b)
  addresses.head?.map fun ip => ⟨ip, service.port⟩

def candidate (service : DiscoveredService) (endpoint : SocketAddr) : ResolvedConnectTarget :=
  .discovered service.serviceName endpoint service.hostName service.protocolMajor
    service.protocolMinor

/--
The source keeps the candidates in a `BTreeMap`.
-/
def inKeyOrder (candidates : IndexMap String ResolvedConnectTarget)
    : List ResolvedConnectTarget :=
  (candidates.entries.mergeSort fun a b => decide (a.1 ≤ b.1)).map Prod.snd

def option : ResolvedConnectTarget → String
  | .direct _ => ""
  | .discovered serviceName endpoint _ _ _ => s!"{serviceName} ({endpoint.display})"

def chooseCandidate (serviceNameFilter : Option String) (timeoutSecs : Nat)
    (candidates : IndexMap String ResolvedConnectTarget) : Except String ResolvedConnectTarget :=
  match serviceNameFilter with
  | some serviceName =>
    .error s!"no motionstage server named `{serviceName}` discovered within {timeoutSecs}s"
  | none =>
    match inKeyOrder candidates with
    | [] =>
      .error
        s!"no motionstage servers discovered within {timeoutSecs}s; use `--connect host:port` or ensure discovery is enabled"
    | [target] => .ok target
    | targets =>
      let options := ", ".intercalate ((targets.map option).filter fun v => v ≠ "")
      .error
        s!"multiple motionstage servers discovered: {options}; rerun with `--connect discover:<service-name>` to select one"

/--
The loop, which leaves at the deadline and whenever the receiver returns no service.
-/
def discoverLoop (serviceNameFilter : Option String) (timeoutSecs : Nat) (disconnected : Bool)
    : List ServiceEvent → IndexMap String ResolvedConnectTarget
      → Except String ResolvedConnectTarget
  | [], candidates =>
    match (BrowseReceiver.recvServiceTimeout ⟨[], disconnected⟩).1 with
    | .error e => .error s!"discovery browse failed: {e.display}"
    | .ok _ => chooseCandidate serviceNameFilter timeoutSecs candidates
  | event :: events, candidates =>
    match (BrowseReceiver.recvServiceTimeout ⟨event :: events, disconnected⟩).1 with
    | .error e => .error s!"discovery browse failed: {e.display}"
    | .ok none => chooseCandidate serviceNameFilter timeoutSecs candidates
    | .ok (some service) =>
      match selectPreferredEndpoint service with
      | none => discoverLoop serviceNameFilter timeoutSecs disconnected events candidates
      | some endpoint =>
        match serviceNameFilter.map normalizeServiceName with
        | some filter =>
          if normalizeServiceName service.serviceName = filter then
            .ok (candidate service endpoint)
          else
            discoverLoop serviceNameFilter timeoutSecs disconnected events candidates
        | none =>
          discoverLoop serviceNameFilter timeoutSecs disconnected events
            (candidates.insert service.serviceName (candidate service endpoint))

/--
`browser` is what starting the browser comes to.
-/
def discoverConnectTarget (serviceNameFilter : Option String) (timeoutSecs : Nat)
    (browser : Except DiscoveryError BrowseReceiver) : Except String ResolvedConnectTarget :=
  match browser with
  | .error e => .error s!"failed to start mDNS browser: {e.display}"
  | .ok receiver =>
    discoverLoop serviceNameFilter timeoutSecs receiver.disconnected receiver.events .empty

theorem selectPreferredEndpoint_eq_some {service : DiscoveredService} {endpoint : SocketAddr}
    (h : selectPreferredEndpoint service = some endpoint)
    : endpoint.port = service.port ∧ endpoint.ip ∈ service.addresses
        ∧ ∀ ip ∈ service.addresses, endpointKey endpoint.ip ≤ endpointKey ip := by
  unfold selectPreferredEndpoint at h
  obtain ⟨ip, hip, rfl⟩ := Option.map_eq_some_iff.mp h
  obtain ⟨rest, hsorted⟩ := List.head?_eq_some_iff.mp hip
  have hpairwise : (service.addresses.mergeSort fun a b =>
      decide (endpointKey a ≤ endpointKey b)).Pairwise fun a b =>
        decide (endpointKey a ≤ endpointKey b) = true :=
    List.pairwise_mergeSort (by simpa using fun a b c hab hbc => le_trans hab hbc)
      (by simpa using fun a b => le_total (endpointKey a) (endpointKey b)) service.addresses
  rw [hsorted, List.pairwise_cons] at hpairwise
  refine ⟨rfl, List.mem_mergeSort.mp (List.mem_of_head? hip), ?_⟩
  intro ip' hip'
  have hmem : ip' ∈ service.addresses.mergeSort fun a b =>
      decide (endpointKey a ≤ endpointKey b) :=
    List.mem_mergeSort.mpr hip'
  rw [hsorted] at hmem
  rcases List.mem_cons.mp hmem with rfl | hmem
  . exact le_rfl
  . simpa using hpairwise.1 ip' hmem

theorem isSome_selectPreferredEndpoint (service : DiscoveredService)
    : (selectPreferredEndpoint service).isSome = true ↔ service.addresses ≠ [] := by
  unfold selectPreferredEndpoint
  rw [Option.isSome_map, List.isSome_head?, ← List.length_pos_iff, List.length_mergeSort,
    List.length_pos_iff]

end Simulate

open Simulate

def ServiceEvent.offers (name : String) : ServiceEvent → Option DiscoveredService
  | .serviceResolved info =>
    let service := DiscoveredService.fromInfo info
    if service.addresses ≠ []
        ∧ normalizeServiceName service.serviceName = normalizeServiceName name then
      some service
    else
      none
  | _ => none

def FindsServer (name : String) (events : List ServiceEvent)
    (result : Except String ResolvedConnectTarget) : Prop :=
  match events.findSome? (ServiceEvent.offers name) with
  | some service =>
    ∃ endpoint, selectPreferredEndpoint service = some endpoint
      ∧ result = .ok (candidate service endpoint)
  | none => result.isOk = false

def Undisturbed (name : String) (events : List ServiceEvent) : Prop :=
  (events.findSome? (ServiceEvent.offers name)).isSome = true
    → ∀ event ∈ events.takeWhile (fun event => (event.offers name).isNone),
        event.isResolved = true

section Loop

variable {name : String} {timeoutSecs : Nat} {disconnected : Bool} {events : List ServiceEvent}
  {candidates : IndexMap String ResolvedConnectTarget}

theorem discoverLoop_of_offers {event : ServiceEvent} {service : DiscoveredService}
    (h : event.offers name = some service)
    : ∃ endpoint, selectPreferredEndpoint service = some endpoint
        ∧ discoverLoop (some name) timeoutSecs disconnected (event :: events) candidates
            = .ok (candidate service endpoint) := by
  cases event with
  | serviceResolved info =>
    simp only [ServiceEvent.offers] at h
    split at h
    . next hoffers =>
      cases h
      obtain ⟨endpoint, hendpoint⟩ := Option.isSome_iff_exists.mp
        ((isSome_selectPreferredEndpoint _).mpr hoffers.1)
      refine ⟨endpoint, hendpoint, ?_⟩
      simp [discoverLoop, BrowseReceiver.recvServiceTimeout, BrowseReceiver.recvTimeout, hendpoint,
        hoffers.2]
    . cases h
  | _ => cases h

theorem discoverLoop_of_resolved {event : ServiceEvent} (h : event.offers name = none)
    (hresolved : event.isResolved = true)
    : discoverLoop (some name) timeoutSecs disconnected (event :: events) candidates
        =
      discoverLoop (some name) timeoutSecs disconnected events candidates := by
  cases event with
  | serviceResolved info =>
    simp only [ServiceEvent.offers] at h
    split at h
    . cases h
    . next hoffers =>
      simp only [discoverLoop, BrowseReceiver.recvServiceTimeout, BrowseReceiver.recvTimeout]
      cases hendpoint : selectPreferredEndpoint (DiscoveredService.fromInfo info) with
      | none => rfl
      | some endpoint =>
        have haddresses := (isSome_selectPreferredEndpoint _).mp (by rw [hendpoint]; rfl)
        have hname : normalizeServiceName (DiscoveredService.fromInfo info).serviceName
            ≠ normalizeServiceName name := fun heq => hoffers ⟨haddresses, heq⟩
        simp [hname]
  | _ => cases hresolved

/--
Any other event is taken for the end of the search.
-/
theorem discoverLoop_of_not_resolved {event : ServiceEvent} (hresolved : event.isResolved = false)
    : (discoverLoop (some name) timeoutSecs disconnected (event :: events) candidates).isOk
        = false := by
  cases event with
  | serviceResolved info => cases hresolved
  | _ => rfl

theorem findsServer_discoverLoop_iff
    : FindsServer name events
          (discoverLoop (some name) timeoutSecs disconnected events candidates)
        ↔
      Undisturbed name events := by
  unfold FindsServer Undisturbed
  induction events with
  | nil =>
    apply iff_of_true
    . cases disconnected <;> rfl
    . intro hsome
      cases hsome
  | cons event events ih =>
    cases hoffers : event.offers name with
    | some service =>
      simp only [List.findSome?_cons, hoffers, List.takeWhile_cons]
      exact iff_of_true (discoverLoop_of_offers hoffers) (by simp)
    | none =>
      simp only [List.findSome?_cons, hoffers, List.takeWhile_cons, Option.isNone_none, if_true,
        List.mem_cons, forall_eq_or_imp]
      cases hresolved : event.isResolved with
      | true =>
        rw [discoverLoop_of_resolved hoffers hresolved, ih]
        simp
      | false =>
        have herror : (discoverLoop (some name) timeoutSecs disconnected (event :: events)
            candidates).isOk = false :=
          discoverLoop_of_not_resolved hresolved
        cases hlater : events.findSome? (ServiceEvent.offers name) with
        | none => exact iff_of_true herror (by simp)
        | some service =>
          apply iff_of_false
          . rintro ⟨endpoint, -, hok⟩
            rw [hok] at herror
            cases herror
          . intro h
            cases (h rfl).1

end Loop

theorem findsServer_iff (name : String) (timeoutSecs : Nat) (receiver : BrowseReceiver)
    : FindsServer name receiver.events
          (discoverConnectTarget (some name) timeoutSecs (.ok receiver))
        ↔
      Undisturbed name receiver.events :=
  findsServer_discoverLoop_iff

def stageInfo : ServiceInfo where
  fullname := "stage._motionstage._udp.local."
  hostname := "stage.local."
  addresses := [.v4 0xC0A80102]
  port := 7788
  propertyValStr _ := none

def stageEvents : List ServiceEvent :=
  [.searchStarted serviceType, .serviceFound serviceType stageInfo.fullname,
    .serviceResolved stageInfo]

/--
The daemon first reports that it searches and what it has found, and the service that it resolves
then is not waited for.
-/
theorem findsServer_fails
    : ¬ FindsServer "stage" stageEvents
        (discoverConnectTarget (some "stage") 5 (.ok ⟨stageEvents, false⟩)) := by
  have hname : (DiscoveredService.fromInfo stageInfo).serviceName = "stage" := by decide
  have haddresses : (DiscoveredService.fromInfo stageInfo).addresses ≠ [] := by
    simp [DiscoveredService.fromInfo, stageInfo]
  have hoffers : stageEvents.findSome? (ServiceEvent.offers "stage")
      = some (DiscoveredService.fromInfo stageInfo) := by
    simp [stageEvents, List.findSome?_cons, ServiceEvent.offers, hname, haddresses]
  unfold FindsServer
  rw [hoffers]
  rintro ⟨endpoint, -, hok⟩
  cases hok

end MotionStage
