import MotionStage.Data.Text

/-!
This module contains the protocol crate: the messages of the control stream, the session states
and the version negotiation.
-/

namespace MotionStage

def protocolMajor : Nat := 1
def protocolMinor : Nat := 3

structure ProtocolVersion where
  major : Nat
  minor : Nat
  deriving DecidableEq, Repr

inductive ClientRole where
  | motionSource
  | cameraController
  | videoSink
  | operator
  deriving DecidableEq, Repr

inductive Feature where
  | motion
  | mapping
  | recording
  | video
  | hdr10
  | sdrFallback
  deriving DecidableEq, Repr

inductive Mode where
  | idle
  | live
  | recording
  deriving DecidableEq, Repr

inductive BaselineAction where
  | resetScene
  | commitScene
  | commitObject
  deriving DecidableEq, Repr

inductive SessionState where
  | discovered
  | transportConnected
  | helloExchanged
  | authenticated
  | registered
  | sceneSynced
  | active
  | closed
  deriving DecidableEq, Repr

def SessionState.canTransitionTo (self next : SessionState) : Bool :=
  match self, next with
  | .discovered, .transportConnected => true
  | .transportConnected, .helloExchanged => true
  | .helloExchanged, .authenticated => true
  | .authenticated, .registered => true
  | .registered, .sceneSynced => true
  | .sceneSynced, .active => true
  | .active, .closed => true
  | .authenticated, .closed => true
  | .registered, .closed => true
  | .sceneSynced, .closed => true
  | .transportConnected, .closed => true
  | .helloExchanged, .closed => true
  | _, _ => false

inductive RejectCode where
  | unsupportedProtocol
  | versionMismatch
  | noCommonFeature
  | authFailed
  | roleDenied
  | capacityExceeded
  | serverBusy
  deriving DecidableEq, Repr

structure ServerHello where
  protocolMajor : Nat
  protocolMinor : Nat
  features : List Feature
  securityMode : String
  deriving DecidableEq, Repr

structure VersionNegotiation where
  server : ProtocolVersion
  client : ProtocolVersion
  selected : ProtocolVersion
  deriving DecidableEq, Repr

structure ClientHello where
  protocolMajor : Nat
  protocolMinor : Nat
  deviceId : Uuid
  deviceName : String
  roles : List ClientRole
  features : List Feature
  advertisedAttributes : List String
  deriving DecidableEq, Repr

structure RegisterRequest where
  pairingToken : Option String
  apiKey : Option String
  deriving DecidableEq, Repr

structure RegisterAccepted where
  sessionId : Uuid
  negotiatedFeatures : List Feature
  deriving DecidableEq, Repr

structure RegisterRejected where
  code : RejectCode
  reason : String
  deriving DecidableEq, Repr

inductive SdpType where
  | offer
  | answer
  deriving DecidableEq, Repr

structure SdpMessage where
  ty : SdpType
  sdp : String
  deriving DecidableEq, Repr

structure IceCandidate where
  candidate : String
  sdpMid : Option String
  sdpMlineIndex : Option Nat
  deriving DecidableEq, Repr

inductive SignalPayload where
  | sdp (message : SdpMessage)
  | ice (candidate : IceCandidate)
  deriving DecidableEq, Repr

structure SignalMessage where
  fromDevice : Uuid
  toDevice : Uuid
  payload : SignalPayload
  deriving DecidableEq, Repr

inductive ControlMessage where
  | serverHello (hello : ServerHello)
  | clientHello (hello : ClientHello)
  | registerRequest (req : RegisterRequest)
  | registerAccepted (accepted : RegisterAccepted)
  | registerRejected (rejected : RegisterRejected)
  | videoSignal (signal : SignalMessage)
  | drainSignals
  | signalsBatch (messages : List SignalMessage)
  | createVideoOffer (streamId trackId : String)
  | videoOffer (sdp : SdpMessage)
  | error (code : RejectCode) (reason : String)
  | ping
  | pong
  | setMode (mode : Mode)
  | modeState (mode : Mode)
  | resetSceneToBaseline (sceneId : Option Uuid)
  | commitSceneBaseline (sceneId : Option Uuid)
  | commitObjectBaseline (sceneId : Option Uuid) (objectId : Uuid)
  | baselineActionApplied (action : BaselineAction) (changedAttributes : Nat)
  deriving DecidableEq, Repr

inductive ProtocolError where
  | invalidTransition (fromState toState : SessionState)
  | unsupportedMajor (server client : ProtocolVersion)
  | clientTooNew (server client : ProtocolVersion)
  deriving DecidableEq, Repr

def negotiateVersion (server client : ProtocolVersion)
    : Except ProtocolError VersionNegotiation :=
  if server.major ≠ client.major then
    .error (.unsupportedMajor server client)
  else if client.minor > server.minor then
    .error (.clientTooNew server client)
  else
    .ok ⟨server, client, ⟨server.major, client.minor⟩⟩

end MotionStage
