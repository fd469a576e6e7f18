import MotionStage.Data.IndexMap
import MotionStage.Protocol.Basic

/-!
This module contains the parts of the media crate that the server uses: the video descriptors and
the signaling queues.
-/

namespace MotionStage

inductive DynamicRange where
  | sdr
  | hdr10
  deriving DecidableEq, Repr

inductive ColorPrimaries where
  | bt709
  | bt2020
  deriving DecidableEq, Repr

inductive TransferFunction where
  | srgb
  | pq
  deriving DecidableEq, Repr

structure VideoStreamDescriptor where
  width : Nat
  height : Nat
  fps : Nat
  dynamicRange : DynamicRange
  colorPrimaries : ColorPrimaries
  transfer : TransferFunction
  bitDepth : Nat
  deriving DecidableEq, Repr

inductive MediaError where
  | invalidDescriptor (reason : String)
  | unsupportedDescriptor (reason : String)
  deriving DecidableEq, Repr

def MediaError.display : MediaError → String
  | .invalidDescriptor reason => s!"invalid video descriptor: {reason}"
  | .unsupportedDescriptor reason => s!"unsupported video descriptor: {reason}"

def VideoStreamDescriptor.validate (self : VideoStreamDescriptor) : Except MediaError Unit :=
  if self.width = 0 ∨ self.height = 0 ∨ self.fps = 0 then
    .error (.invalidDescriptor "width, height and fps must be non-zero")
  else if self.dynamicRange = .hdr10 then
    if self.colorPrimaries ≠ .bt2020 then
      .error (.invalidDescriptor "HDR10 requires BT.2020 primaries")
    else if self.transfer ≠ .pq then
      .error (.invalidDescriptor "HDR10 requires PQ transfer")
    else if self.bitDepth ≠ 10 then
      .error (.invalidDescriptor "HDR10 requires 10-bit pipeline")
    else
      .ok ()
  else
    .ok ()

/--
The signaling messages that wait for a device, by device.
-/
structure SignalingHub where
  queues : IndexMap Uuid (List SignalMessage)

namespace SignalingHub

def empty : SignalingHub := ⟨.empty⟩

def enqueue (self : SignalingHub) (message : SignalMessage) : SignalingHub :=
  let queue := (self.queues.get? message.toDevice).getD []
  ⟨self.queues.insert message.toDevice (queue ++ [message])⟩

def drainFor (self : SignalingHub) (deviceId : Uuid) : List SignalMessage × SignalingHub :=
  ((self.queues.get? deviceId).getD [], ⟨self.queues.shiftRemove deviceId⟩)

end SignalingHub

end MotionStage
