import MotionStage.Server.Session

/-!
This module contains the video and signaling calls of the server. What the WebRTC library returns
is an argument.
-/

namespace MotionStage

variable {F : Floats}

/--
The results of the WebRTC calls that one video call of the server can make. An error is the text of
the source's `WebRtcError`.
-/
structure WebRtcResults where
  /-- `WebRtcSession::new` -/
  created : Except String Nat
  /-- `add_h264_track` -/
  track : Except String Unit
  /-- `apply_remote_sdp` or `add_ice_candidate` -/
  remote : Except String Unit
  /-- `create_offer` or `create_answer` -/
  description : Except String SdpMessage

namespace ServerState

def setMasterVideoDescriptor (self : ServerState F) (descriptor : VideoStreamDescriptor)
    : Except ServerError Unit × ServerState F :=
  match descriptor.validate with
  | .error e => (.error (.video e.display), self)
  | .ok () => (.ok (), { self with masterVideoDescriptor := some descriptor })

def ensureVideoSessionReady (self : ServerState F) (deviceId : Uuid) : Except ServerError Unit :=
  match self.sessions.get? deviceId with
  | none => .error (.sessionNotFound deviceId)
  | some session =>
    if session.state ≠ .active then
      .error (.video s!"device {deviceId.display} is not active for video session")
    else if !session.features.contains .video then
      .error (.video s!"device {deviceId.display} did not negotiate video feature")
    else if self.masterVideoDescriptor.isNone then
      .error (.video "master video descriptor not set")
    else
      .ok ()

def ensureVideoPeer (self : ServerState F) (deviceId : Uuid) (results : WebRtcResults)
    : Except ServerError Nat × ServerState F :=
  match self.videoPeers.get? deviceId with
  | some entry => (.ok entry.peer, self)
  | none =>
    match results.created with
    | .error e => (.error (.webRtc e), self)
    | .ok peer =>
      (.ok peer, { self with videoPeers := self.videoPeers.insert deviceId ⟨peer, false⟩ })

def videoPeer (self : ServerState F) (deviceId : Uuid) : Except ServerError Nat :=
  match self.videoPeers.get? deviceId with
  | none => .error (.video s!"no video peer exists for device {deviceId.display}")
  | some entry => .ok entry.peer

/--
The part that `create_video_offer` and `handle_video_signal` share: add a track to a peer that has
none yet, then ask it for a description.
-/
def describeWithTrack (self : ServerState F) (deviceId : Uuid) (results : WebRtcResults)
    : Except ServerError SdpMessage × ServerState F :=
  let needsTrack := ((self.videoPeers.get? deviceId).map fun entry => !entry.trackAdded).getD true
  match if needsTrack then results.track else .ok () with
  | .error e => (.error (.webRtc e), self)
  | .ok () =>
    let self :=
      if needsTrack then
        { self with
          videoPeers := self.videoPeers.modify deviceId fun entry =>
            { entry with trackAdded := true } }
      else
        self
    (results.description.mapError .webRtc, self)

def createVideoOffer (self : ServerState F) (deviceId : Uuid) (results : WebRtcResults)
    : Except ServerError SdpMessage × ServerState F :=
  match self.ensureVideoSessionReady deviceId with
  | .error e => (.error e, self)
  | .ok () =>
    match self.ensureVideoPeer deviceId results with
    | (.error e, self) => (.error e, self)
    | (.ok _, self) => self.describeWithTrack deviceId results

/--
The branch of `handle_video_signal` for answers and candidates.
-/
def forwardToPeer (self : ServerState F) (deviceId : Uuid) (results : WebRtcResults)
    : Except ServerError (Option SdpMessage) :=
  match self.videoPeer deviceId with
  | .error e => .error e
  | .ok _ =>
    match results.remote with
    | .error e => .error (.webRtc e)
    | .ok () => .ok none

def handleVideoSignal (self : ServerState F) (deviceId : Uuid) (payload : SignalPayload)
    (results : WebRtcResults) : Except ServerError (Option SdpMessage) × ServerState F :=
  match self.ensureVideoSessionReady deviceId with
  | .error e => (.error e, self)
  | .ok () =>
    match payload with
    | .sdp ⟨.offer, _⟩ =>
      match self.ensureVideoPeer deviceId results with
      | (.error e, self) => (.error e, self)
      | (.ok _, self) =>
        match results.remote with
        | .error e => (.error (.webRtc e), self)
        | .ok () =>
          match self.describeWithTrack deviceId results with
          | (.error e, self) => (.error e, self)
          | (.ok answer, self) => (.ok (some answer), self)
    | .sdp ⟨.answer, _⟩ => (self.forwardToPeer deviceId results, self)
    | .ice _ => (self.forwardToPeer deviceId results, self)

def pushSignalingMessage (self : ServerState F) (message : SignalMessage)
    : Except ServerError Unit × ServerState F :=
  match self.sessions.get? message.fromDevice with
  | none => (.error (.sessionNotFound message.fromDevice), self)
  | some source =>
    match self.sessions.get? message.toDevice with
    | none => (.error (.sessionNotFound message.toDevice), self)
    | some target =>
      if source.state ≠ .active ∨ target.state ≠ .active then
        (.error (.signaling "both signaling peers must be active"), self)
      else
        (.ok (),
          { self with
            signaling := self.signaling.enqueue message
            metrics :=
              { self.metrics with signalingMessages := self.metrics.signalingMessages + 1 } })

def drainSignalingMessages (self : ServerState F) (deviceId : Uuid)
    : Except ServerError (List SignalMessage) × ServerState F :=
  if !self.sessions.contains deviceId then
    (.error (.sessionNotFound deviceId), self)
  else
    let (messages, signaling) := self.signaling.drainFor deviceId
    (.ok messages, { self with signaling := signaling })

end ServerState

end MotionStage
