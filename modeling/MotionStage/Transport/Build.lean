import MotionStage.Server.Stage
import MotionStage.Transport.Control

/-!
This module contains what a build of the program sends and reads at its own protocol version, so
that two builds of different versions can be compared. The build of the source is the one at
`ProtocolVersion.current`.
-/

namespace MotionStage

variable {F : Floats}

structure MotionDatagramEnvelope (F : Floats) where
  protocolMajor : Nat
  protocolMinor : Nat
  datagram : ServerState.MotionDatagram F

namespace ProtocolVersion

/--
The constants `PROTOCOL_MAJOR` and `PROTOCOL_MINOR` of the source.
-/
def current : ProtocolVersion := ⟨MotionStage.protocolMajor, MotionStage.protocolMinor⟩

variable (own : ProtocolVersion)

def validateWireVersion (major minor : Nat) : Except QuicTransportError Unit :=
  if major ≠ own.major ∨ minor > own.minor then
    .error (.unsupportedProtocolVersion major minor own.major own.minor)
  else
    .ok ()

def controlEnvelope (message : ControlMessage) : ControlEnvelope := ⟨own.major, own.minor, message⟩

def motionEnvelope (datagram : ServerState.MotionDatagram F) : MotionDatagramEnvelope F :=
  ⟨own.major, own.minor, datagram⟩

/--
The rest of `read_control_message` for a deserialized envelope.
-/
def openControl (envelope : ControlEnvelope) : Except QuicTransportError ControlMessage :=
  match own.validateWireVersion envelope.protocolMajor envelope.protocolMinor with
  | .error e => .error e
  | .ok () => .ok envelope.message

/--
The rest of `recv_motion_datagram` for a deserialized envelope.
-/
def openMotion (envelope : MotionDatagramEnvelope F)
    : Except QuicTransportError (ServerState.MotionDatagram F) :=
  match own.validateWireVersion envelope.protocolMajor envelope.protocolMinor with
  | .error e => .error e
  | .ok () => .ok envelope.datagram

theorem validateWireVersion_current
    : current.validateWireVersion = MotionStage.validateWireVersion :=
  rfl

theorem serializeMessage_current (bincode : Bincode) (message : ControlMessage)
    : bincode.serializeMessage message = bincode.serialize (current.controlEnvelope message) :=
  rfl

theorem decode_current (bincode : Bincode) (bytes : List UInt8)
    : bincode.decode bytes
        =
      match bincode.deserialize bytes with
      | .error e => .error (.serialization e)
      | .ok envelope => current.openControl envelope :=
  rfl

variable {own}

theorem validateWireVersion_ok_iff {major minor : Nat}
    : own.validateWireVersion major minor = .ok () ↔ major = own.major ∧ minor ≤ own.minor := by
  unfold validateWireVersion
  split
  . next h => simp only [reduceCtorEq, false_iff]; omega
  . next h => simp only [true_iff]; omega

variable (F)

/--
Every envelope that a build of the version `sender` sends passes the gate of the build `own`, and
hands its payload on.
-/
def Hears (own sender : ProtocolVersion) : Prop :=
  (∀ message, own.openControl (sender.controlEnvelope message) = .ok message)
    ∧ ∀ datagram : ServerState.MotionDatagram F,
        own.openMotion (sender.motionEnvelope datagram) = .ok datagram

variable {F}

theorem hears_iff {sender : ProtocolVersion}
    : Hears F own sender ↔ sender.major = own.major ∧ sender.minor ≤ own.minor := by
  rw [← validateWireVersion_ok_iff]
  constructor
  . rintro ⟨hcontrol, -⟩
    have hping := hcontrol .ping
    simp only [openControl, controlEnvelope] at hping
    split at hping
    . cases hping
    . assumption
  . intro hgate
    constructor
    . intro message
      simp only [openControl, controlEnvelope, hgate]
    . intro datagram
      simp only [openMotion, motionEnvelope, hgate]

theorem negotiateVersion_isOk_iff {server client : ProtocolVersion}
    : (negotiateVersion server client).isOk = true
        ↔
      server.major = client.major ∧ client.minor ≤ server.minor := by
  unfold negotiateVersion
  split
  . next h => simp [h, Except.isOk, Except.toBool]
  . next h =>
    split
    . next hminor =>
      simp only [Except.isOk, Except.toBool, Bool.false_eq_true, false_iff]
      omega
    . next hminor =>
      simp only [Except.isOk, Except.toBool, true_iff]
      omega

theorem server_hears_of_negotiateVersion {server client : ProtocolVersion}
    (h : (negotiateVersion server client).isOk = true)
    : Hears F server client := by
  obtain ⟨hmajor, hminor⟩ := negotiateVersion_isOk_iff.mp h
  exact hears_iff.mpr ⟨hmajor.symm, hminor⟩

/--
Two builds that have negotiated understand each other in both directions only if they are of one
version: the negotiation lets an older client in, and the gate of that client then refuses
everything the server stamps.
-/
theorem hears_both_iff {M s c : Nat} (h : (negotiateVersion ⟨M, s⟩ ⟨M, c⟩).isOk = true)
    : Hears F ⟨M, c⟩ ⟨M, s⟩ ∧ Hears F ⟨M, s⟩ ⟨M, c⟩ ↔ s = c := by
  have hserver : Hears F ⟨M, s⟩ ⟨M, c⟩ := server_hears_of_negotiateVersion h
  obtain ⟨-, hminor⟩ := negotiateVersion_isOk_iff.mp h
  dsimp only at hminor
  rw [and_iff_left hserver, hears_iff]
  dsimp only
  omega

theorem hears_both_current
    : (Hears Floats.rational ⟨1, 3⟩ ⟨1, 3⟩ ∧ Hears Floats.rational ⟨1, 3⟩ ⟨1, 3⟩)
        ∧ ¬ (Hears Floats.rational ⟨1, 0⟩ ⟨1, 3⟩ ∧ Hears Floats.rational ⟨1, 3⟩ ⟨1, 0⟩) := by
  constructor
  . exact (hears_both_iff rfl).mpr rfl
  . rw [hears_both_iff rfl]
    decide

theorem hears_both_fails
    : (negotiateVersion ⟨1, 3⟩ ⟨1, 2⟩).isOk = true
        ∧ ¬ Hears Floats.rational ⟨1, 2⟩ ⟨1, 3⟩
        ∧ openControl ⟨1, 2⟩ (controlEnvelope ⟨1, 3⟩ .pong)
            = .error (.unsupportedProtocolVersion 1 3 1 2) := by
  refine ⟨rfl, ?_, rfl⟩
  rw [hears_iff]
  decide

end ProtocolVersion

end MotionStage
