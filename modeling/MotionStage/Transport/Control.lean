import MotionStage.Data.Framing
import MotionStage.Protocol.Basic

/-!
This module contains the control channel of the transport crate. The serialization library is a
parameter: of `bincode` only its two functions and that the second inverts the first are used.
-/

namespace MotionStage

structure ControlEnvelope where
  protocolMajor : Nat
  protocolMinor : Nat
  message : ControlMessage
  deriving DecidableEq, Repr

/--
The errors of the transport that come up on the control channel.
-/
inductive QuicTransportError where
  | read (reason : String)
  | serialization (reason : String)
  | unsupportedProtocolVersion (major minor supportedMajor supportedMinor : Nat)
  deriving DecidableEq, Repr

def QuicTransportError.display : QuicTransportError → String
  | .read reason => s!"read: {reason}"
  | .serialization reason => s!"serialization: {reason}"
  | .unsupportedProtocolVersion major minor supportedMajor supportedMinor =>
    s!"unsupported protocol version {major}.{minor} (supported <= {supportedMajor}.{supportedMinor})"

def validateWireVersion (major minor : Nat) : Except QuicTransportError Unit :=
  if major ≠ protocolMajor ∨ minor > protocolMinor then
    .error (.unsupportedProtocolVersion major minor protocolMajor protocolMinor)
  else
    .ok ()

structure Bincode where
  serialize : ControlEnvelope → Except String (List UInt8)
  deserialize : List UInt8 → Except String ControlEnvelope

namespace Bincode

variable (bincode : Bincode)

def RoundTrip : Prop :=
  ∀ envelope bytes, bincode.serialize envelope = .ok bytes → bincode.deserialize bytes = .ok envelope

def serializeMessage (message : ControlMessage) : Except String (List UInt8) :=
  bincode.serialize ⟨protocolMajor, protocolMinor, message⟩

/--
The bytes that `ControlChannel::send` writes.
-/
def send (message : ControlMessage) : Except QuicTransportError (List UInt8) :=
  match bincode.serializeMessage message with
  | .error e => .error (.serialization e)
  | .ok bytes => .ok (Framing.frame bytes)

/--
The rest of `read_control_message` once both reads are done.
-/
def decode (bytes : List UInt8) : Except QuicTransportError ControlMessage :=
  match bincode.deserialize bytes with
  | .error e => .error (.serialization e)
  | .ok envelope =>
    match validateWireVersion envelope.protocolMajor envelope.protocolMinor with
    | .error e => .error e
    | .ok () => .ok envelope.message

variable {bincode}

theorem decode_serializeMessage (h : bincode.RoundTrip) {message : ControlMessage}
    {bytes : List UInt8} (hbytes : bincode.serializeMessage message = .ok bytes)
    : bincode.decode bytes = .ok message := by
  unfold decode
  rw [h _ bytes hbytes]
  rfl

end Bincode

end MotionStage
