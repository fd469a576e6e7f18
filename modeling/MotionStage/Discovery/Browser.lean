import Mathlib.Data.String.Basic
import MotionStage.Discovery.Basic

/-!
This module contains the part of the discovery crate that looks for servers. The events of the mDNS
daemon are an argument.
-/

namespace MotionStage

/--
What the accessors of the daemon's service description return.
-/
structure ServiceInfo where
  fullname : String
  hostname : String
  addresses : List IpAddr
  port : Nat
  propertyValStr : String → Option String

inductive ServiceEvent where
  | searchStarted (serviceType : String)
  | serviceFound (serviceType fullname : String)
  | serviceResolved (info : ServiceInfo)
  | serviceRemoved (serviceType fullname : String)
  | searchStopped (serviceType : String)

def ServiceEvent.isResolved : ServiceEvent → Bool
  | .serviceResolved _ => true
  | _ => false

structure DiscoveredService where
  serviceName : String
  fullname : String
  hostName : String
  addresses : List IpAddr
  port : Nat
  protocolMajor : Option Nat
  protocolMinor : Option Nat
  deriving DecidableEq, Repr

def serviceNameFromFullname (fullname : String) : String :=
  let ending := serviceType.toList.reverse
  let rest := fullname.toList.reverse
  let rest := if ending.isPrefixOf rest then rest.drop ending.length else rest
  String.ofList (rest.dropWhile fun c => c == '.').reverse

/--
`str::parse` at `u16`: decimal digits, with a plus sign in front or not.
-/
def parseU16 (s : String) : Option Nat :=
  let digits : List Char := match s.toList with
    | '+' :: digits => digits
    | digits => digits
  let value := digits.foldl (fun n c => 10 * n + (c.toNat - '0'.toNat)) 0
  if digits ≠ [] ∧ digits.all Char.isDigit = true ∧ value < 2 ^ 16 then some value else none

def DiscoveredService.fromInfo (info : ServiceInfo) : DiscoveredService where
  serviceName := (info.propertyValStr "name").getD (serviceNameFromFullname info.fullname)
  fullname := info.fullname
  hostName := info.hostname
  addresses := info.addresses.mergeSort fun a b => decide (a.display ≤ b.display)
  port := info.port
  protocolMajor := (info.propertyValStr "proto_major").bind parseU16
  protocolMinor := (info.propertyValStr "proto_minor").bind parseU16

example : serviceNameFromFullname "motionstage-blender._motionstage._udp.local."
    = "motionstage-blender" := by decide

/--
The receiver of a browser that waits until a deadline: the events that come in before it, and
whether the channel is closed behind them.
-/
structure BrowseReceiver where
  events : List ServiceEvent
  disconnected : Bool

namespace BrowseReceiver

def recvTimeout (self : BrowseReceiver)
    : Except DiscoveryError (Option ServiceEvent) × BrowseReceiver :=
  match self.events with
  | event :: events => (.ok (some event), { self with events := events })
  | [] =>
    if self.disconnected then
      (.error (.mdns "browse channel disconnected"), self)
    else
      (.ok none, self)

/--
The deadline and an event that is no resolved service both come out as `none`.
-/
def recvServiceTimeout (self : BrowseReceiver)
    : Except DiscoveryError (Option DiscoveredService) × BrowseReceiver :=
  match self.recvTimeout with
  | (.error e, self) => (.error e, self)
  | (.ok none, self) => (.ok none, self)
  | (.ok (some (.serviceResolved info)), self) =>
    (.ok (some (DiscoveredService.fromInfo info)), self)
  | (.ok (some _), self) => (.ok none, self)

end BrowseReceiver

end MotionStage
