import MotionStage.Server.State

/-!
This module contains the session calls of the server: the handshake of a device from its discovery
to the active state, and its end.
-/

namespace MotionStage

variable {F : Floats}

namespace ServerState

def changeSessionState (self : ServerState F) (deviceId : Uuid) (next : SessionState)
    : Except ServerError Unit × ServerState F :=
  match self.sessions.get? deviceId with
  | none => (.error (.sessionNotFound deviceId), self)
  | some session =>
    if !session.state.canTransitionTo next then
      (.error (.protocol (.invalidTransition session.state next)), self)
    else
      (.ok (),
        { self with
          sessions := self.sessions.modify deviceId fun session => { session with state := next } })

def ensureAuth (self : ServerState F) (req : RegisterRequest) : Except RejectCode Unit :=
  let pairing := self.config.pairingToken.getD "motionstage"
  let key := self.config.apiKey.getD "motionstage"
  match self.config.securityMode with
  | .trustedLan => .ok ()
  | .pairingRequired => if req.pairingToken = some pairing then .ok () else .error .authFailed
  | .apiKey => if req.apiKey = some key then .ok () else .error .authFailed
  | .apiKeyPlusPairing =>
    if req.pairingToken = some pairing ∧ req.apiKey = some key then
      .ok ()
    else
      .error .authFailed

def enforceCapacity (self : ServerState F) : Except ServerError Unit :=
  let activeOrPending := self.sessions.values.countP fun session => session.state ≠ .closed
  if activeOrPending ≥ self.config.maxSessions then
    .error (.registerRejected ⟨.capacityExceeded, "session capacity exceeded"⟩)
  else
    .ok ()

def enforceUniqueDeviceName (self : ServerState F) (deviceId : Uuid) (deviceName : String)
    : Except ServerError Unit :=
  let normalized := Text.trim deviceName
  if normalized.isEmpty then
    .error (.registerRejected ⟨.roleDenied, "device name must not be empty"⟩)
  else if self.sessions.values.any fun session =>
      session.deviceId ≠ deviceId && session.state ≠ .closed && session.sessionId.isSome
        && session.deviceName == normalized then
    .error (.registerRejected ⟨.roleDenied, s!"device name '{normalized}' is already active"⟩)
  else
    .ok ()

def discovered (self : ServerState F) (deviceId : Uuid) (deviceName : String)
    : Except ServerError Unit × ServerState F :=
  -- a device that has a session already does not count against the capacity again
  match if !self.sessions.contains deviceId then self.enforceCapacity else .ok () with
  | .error e => (.error e, self)
  | .ok () =>
    (.ok (),
      { self with
        sessions := self.sessions.insert deviceId
          { deviceId := deviceId
            deviceName := deviceName
            sessionId := none
            roles := []
            features := []
            advertisedAttributes := []
            state := .discovered } })

def transportConnected (self : ServerState F) (deviceId : Uuid)
    : Except ServerError Unit × ServerState F :=
  self.changeSessionState deviceId .transportConnected

/--
The checks of `hello_exchanged` on the message alone.
-/
def checkHello (hello : ClientHello) : Except ServerError Unit :=
  match negotiateVersion ⟨protocolMajor, protocolMinor⟩
      ⟨hello.protocolMajor, hello.protocolMinor⟩ with
  | .error e => .error (.protocol e)
  | .ok _ =>
    if hello.features.isEmpty then
      .error (.registerRejected ⟨.noCommonFeature, "client has no features"⟩)
    else if hello.roles.isEmpty then
      .error (.registerRejected ⟨.roleDenied, "client must declare at least one role"⟩)
    else if hello.roles.contains .motionSource && hello.advertisedAttributes.isEmpty then
      .error (.registerRejected
        ⟨.roleDenied, "motion source must advertise at least one attribute"⟩)
    else
      .ok ()

/--
The session fields are written before the transition is checked.
-/
def helloExchanged (self : ServerState F) (hello : ClientHello)
    : Except ServerError Unit × ServerState F :=
  match checkHello hello with
  | .error e => (.error e, self)
  | .ok () =>
    match self.sessions.get? hello.deviceId with
    | none => (.error (.sessionNotFound hello.deviceId), self)
    | some _ =>
      let self :=
        { self with
          sessions := self.sessions.modify hello.deviceId fun session =>
            { session with
              roles := hello.roles
              features := hello.features
              advertisedAttributes := hello.advertisedAttributes } }
      self.changeSessionState hello.deviceId .helloExchanged

def authenticate (self : ServerState F) (deviceId : Uuid)
    : Except ServerError Unit × ServerState F :=
  self.changeSessionState deviceId .authenticated

def reject (self : ServerState F) : ServerState F :=
  { self with
    metrics := { self.metrics with rejectedSessions := self.metrics.rejectedSessions + 1 } }

def negotiatedFeatures (self : ServerState F) (session : SessionInfo) : List Feature :=
  session.features.filter fun feature => self.config.supportedFeatures.contains feature

/--
`sessionId` is the identifier drawn for the session. It is written before the transition is
checked.
-/
def register (self : ServerState F) (deviceId : Uuid) (req : RegisterRequest) (sessionId : Uuid)
    : Except ServerError RegisterAccepted × ServerState F :=
  match self.ensureAuth req with
  | .error code => (.error (.registerRejected ⟨code, "auth failed"⟩), self.reject)
  | .ok () =>
    match self.sessions.get? deviceId with
    | none => (.error (.sessionNotFound deviceId), self)
    | some session =>
      match self.enforceUniqueDeviceName deviceId session.deviceName with
      | .error e => (.error e, self.reject)
      | .ok () =>
        let negotiated := self.negotiatedFeatures session
        if negotiated.isEmpty then
          (.error (.registerRejected ⟨.noCommonFeature, "no compatible feature"⟩), self.reject)
        else
          let self :=
            { self with
              sessions := self.sessions.modify deviceId fun session =>
                { session with sessionId := some sessionId } }
          match self.changeSessionState deviceId .registered with
          | (.error e, self) => (.error e, self)
          | (.ok (), self) =>
            (.ok ⟨sessionId, negotiated⟩,
              { self with
                metrics :=
                  { self.metrics with
                    acceptedSessions := self.metrics.acceptedSessions + 1 } })

def sceneSynced (self : ServerState F) (deviceId : Uuid)
    : Except ServerError Unit × ServerState F :=
  self.changeSessionState deviceId .sceneSynced

/--
The device is connected to the runtime before the transition is checked.
-/
def activate (self : ServerState F) (deviceId : Uuid)
    : Except ServerError Unit × ServerState F :=
  let self := { self with runtime := self.runtime.registerDeviceConnected deviceId }
  self.changeSessionState deviceId .active

/--
The device is disconnected from the runtime before the transition is checked.
-/
def closeSession (self : ServerState F) (deviceId : Uuid) (nowNs : Nat)
    : Except ServerError Unit × ServerState F :=
  let self :=
    { self with
      runtime := self.runtime.registerDeviceDisconnected deviceId nowNs
      videoPeers := self.videoPeers.shiftRemove deviceId }
  self.changeSessionState deviceId .closed

end ServerState

end MotionStage
