import MotionStage.Protocol.Basic

/-!
This module contains socket addresses and the part of the discovery crate with which the server
advertises itself. What the mDNS daemon returns is an argument.
-/

namespace MotionStage

inductive IpAddr where
  | v4 (bits : BitVec 32)
  | v6 (bits : BitVec 128)
  deriving DecidableEq, Repr

structure SocketAddr where
  ip : IpAddr
  port : Nat
  deriving DecidableEq, Repr

namespace IpAddr

def isUnspecified : IpAddr → Bool
  | .v4 bits => bits = 0
  | .v6 bits => bits = 0

def octets (bits : BitVec 32) : List Nat :=
  (List.range 4).map fun i => bits.toNat / 256 ^ (3 - i) % 256

def segments (bits : BitVec 128) : List Nat :=
  (List.range 8).map fun i => bits.toNat / 65536 ^ (7 - i) % 65536

/--
The start and the length of the longest run of zeros, of the first one if there are several.
-/
def longestZeros (segments : List Nat) : Nat × Nat :=
  let extend : (Nat × Nat) × (Nat × Nat) → Nat × Nat → (Nat × Nat) × (Nat × Nat)
    | (longest, current), (segment, i) =>
      if segment = 0 then
        let current := (if current.2 = 0 then i else current.1, current.2 + 1)
        (if longest.2 < current.2 then current else longest, current)
      else
        (longest, (0, 0))
  (segments.zipIdx.foldl extend ((0, 0), (0, 0))).1

def displayV4 (bits : BitVec 32) : String := ".".intercalate ((octets bits).map toString)

def displayV6 (bits : BitVec 128) : String :=
  let join (segments : List Nat) : String :=
    ":".intercalate (segments.map fun segment => String.ofList (Nat.toDigits 16 segment))
  if bits.toNat / 2 ^ 32 = 0xFFFF then
    "::ffff:" ++ displayV4 (bits.setWidth 32)
  else
    let segments := segments bits
    let (start, length) := longestZeros segments
    if 1 < length then
      join (segments.take start) ++ "::" ++ join (segments.drop (start + length))
    else
      join segments

def display : IpAddr → String
  | .v4 bits => displayV4 bits
  | .v6 bits => displayV6 bits

-- of two runs of zeros that are equally long the first one is left out
example : display (.v6 0x20010db8000000000001000000000001) = "2001:db8::1:0:0:1" := by decide

end IpAddr

structure DiscoveryAdvertisement where
  serviceName : String
  bindHost : String
  bindPort : Nat
  protocolMajor : Nat
  protocolMinor : Nat
  features : List Feature
  securityMode : String
  deriving DecidableEq, Repr

def serviceType : String := "_motionstage._udp.local."

def DiscoveryAdvertisement.instanceName (self : DiscoveryAdvertisement) : String :=
  s!"{self.serviceName}.{serviceType}"

inductive DiscoveryError where
  | mdns (reason : String)
  deriving DecidableEq, Repr

def DiscoveryError.display : DiscoveryError → String
  | .mdns reason => s!"mdns error: {reason}"

structure DiscoveryPublisher where
  fullName : String
  deriving DecidableEq, Repr

namespace DiscoveryPublisher

/--
`registered` is the result of starting the daemon and registering the service at it.
-/
def advertise (advertisement : DiscoveryAdvertisement) (registered : Except String Unit)
    : Except DiscoveryError DiscoveryPublisher :=
  match registered with
  | .error e => .error (.mdns e)
  | .ok () => .ok ⟨advertisement.instanceName⟩

/--
`unregistered` is the result of withdrawing the service and shutting the daemon down.
-/
def stop (_ : DiscoveryPublisher) (unregistered : Except String Unit)
    : Except DiscoveryError Unit :=
  unregistered.mapError .mdns

end DiscoveryPublisher

end MotionStage
