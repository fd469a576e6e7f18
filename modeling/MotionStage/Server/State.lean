import MotionStage.Media.Basic
import MotionStage.Recording.Writer

/-!
This module contains the state of the server and its errors. The fields of the configuration and of
the state that only concern starting and stopping the network runtime stand in the module about the
two.
-/

namespace MotionStage

inductive SecurityMode where
  | trustedLan
  | pairingRequired
  | apiKey
  | apiKeyPlusPairing
  deriving DecidableEq, Repr

def SecurityMode.asStr : SecurityMode → String
  | .trustedLan => "trusted_lan"
  | .pairingRequired => "pairing_required"
  | .apiKey => "api_key"
  | .apiKeyPlusPairing => "api_key_plus_pairing"

structure ServerConfig where
  securityMode : SecurityMode
  maxSessions : Nat
  supportedFeatures : List Feature
  lease : LeaseConfig
  pairingToken : Option String
  apiKey : Option String
  deriving DecidableEq, Repr

def ServerConfig.default : ServerConfig where
  securityMode := .trustedLan
  maxSessions := 256
  supportedFeatures := [.motion, .mapping, .recording, .video, .hdr10, .sdrFallback]
  lease := .default
  pairingToken := none
  apiKey := none

structure SessionInfo where
  deviceId : Uuid
  deviceName : String
  sessionId : Option Uuid
  roles : List ClientRole
  features : List Feature
  advertisedAttributes : List String
  state : SessionState
  deriving DecidableEq, Repr

structure ActiveRecording (F : Floats) where
  path : String
  writer : RecordingWriter F

/--
A video peer. The number stands for the allocation that the source shares through an `Arc`.
-/
structure VideoPeerSession where
  peer : Nat
  trackAdded : Bool
  deriving DecidableEq, Repr

structure ServerMetrics where
  acceptedSessions : Nat
  rejectedSessions : Nat
  motionDatagrams : Nat
  motionUpdates : Nat
  signalingMessages : Nat
  schedulerTicks : Nat
  deriving DecidableEq, Repr

def ServerMetrics.default : ServerMetrics := ⟨0, 0, 0, 0, 0, 0⟩

structure ServerState (F : Floats) where
  config : ServerConfig
  runtime : RuntimeCore F
  sessions : IndexMap Uuid SessionInfo
  metrics : ServerMetrics
  running : Bool
  activeRecording : Option (ActiveRecording F)
  masterVideoDescriptor : Option VideoStreamDescriptor
  signaling : SignalingHub
  videoPeers : IndexMap Uuid VideoPeerSession

inductive ServerError where
  | core (e : CoreError)
  | protocol (e : ProtocolError)
  | sessionNotFound (id : Uuid)
  | registerRejected (rejected : RegisterRejected)
  | recording (reason : String)
  | video (reason : String)
  | webRtc (reason : String)
  | discovery (reason : String)
  | signaling (reason : String)
  | runtime (reason : String)
  deriving DecidableEq, Repr

section Display

def Mode.debug : Mode → String
  | .idle => "Idle"
  | .live => "Live"
  | .recording => "Recording"

def SessionState.debug : SessionState → String
  | .discovered => "Discovered"
  | .transportConnected => "TransportConnected"
  | .helloExchanged => "HelloExchanged"
  | .authenticated => "Authenticated"
  | .registered => "Registered"
  | .sceneSynced => "SceneSynced"
  | .active => "Active"
  | .closed => "Closed"

def RejectCode.debug : RejectCode → String
  | .unsupportedProtocol => "UnsupportedProtocol"
  | .versionMismatch => "VersionMismatch"
  | .noCommonFeature => "NoCommonFeature"
  | .authFailed => "AuthFailed"
  | .roleDenied => "RoleDenied"
  | .capacityExceeded => "CapacityExceeded"
  | .serverBusy => "ServerBusy"

def ProtocolVersion.debug (v : ProtocolVersion) : String :=
  s!"ProtocolVersion \x7b major: {v.major}, minor: {v.minor} \x7d"

def CoreError.display : CoreError → String
  | .sceneNotFound id => s!"scene not found: {id.display}"
  | .objectNotFound id => s!"object not found: {id.display}"
  | .attributeNotFound name => s!"attribute not found: {name}"
  | .mappingDenied reason => s!"mapping denied: {reason}"
  | .mappingBlockedInRecording => "mapping changes are blocked in recording mode"
  | .invalidModeTransition a b => s!"invalid mode transition: {a.debug} -> {b.debug}"
  | .typeMismatch expected got => s!"type mismatch, expected {expected} got {got}"
  | .invalidComponentMask reason => s!"invalid component mask: {reason}"
  | .unsupportedTransform reason => s!"unsupported mapping transform: {reason}"

def ProtocolError.display : ProtocolError → String
  | .invalidTransition a b => s!"invalid state transition: {a.debug} -> {b.debug}"
  | .unsupportedMajor server client =>
    s!"unsupported major protocol version: server={server.debug} client={client.debug}"
  | .clientTooNew server client =>
    s!"client minor version is newer than server: server={server.debug} client={client.debug}"

/--
The `Debug` form of a string. Characters that are not printable are left as they are, no reply of
the server renders one.
-/
def debugString (s : String) : String :=
  let escape (c : Char) : String :=
    match c.toNat with
    | 0 => "\\0"
    | 9 => "\\t"
    | 10 => "\\n"
    | 13 => "\\r"
    | 34 => "\\\""
    | 92 => "\\\\"
    | _ => String.singleton c
  "\"" ++ String.join (s.toList.map escape) ++ "\""

def ServerError.display : ServerError → String
  | .core e => s!"core error: {e.display}"
  | .protocol e => s!"protocol error: {e.display}"
  | .sessionNotFound id => s!"session not found: {id.display}"
  | .registerRejected r =>
    let reason := debugString r.reason
    s!"registration rejected: RegisterRejected \x7b code: {r.code.debug}, reason: {reason} \x7d"
  | .recording reason => s!"recording error: {reason}"
  | .video reason => s!"video error: {reason}"
  | .webRtc reason => s!"webrtc error: {reason}"
  | .discovery reason => s!"discovery error: {reason}"
  | .signaling reason => s!"signaling error: {reason}"
  | .runtime reason => s!"runtime error: {reason}"

end Display

variable {F : Floats}

def ServerState.new (config : ServerConfig) : ServerState F where
  config := config
  runtime := .new config.lease
  sessions := .empty
  metrics := .default
  running := false
  activeRecording := none
  masterVideoDescriptor := none
  signaling := .empty
  videoPeers := .empty

end MotionStage
