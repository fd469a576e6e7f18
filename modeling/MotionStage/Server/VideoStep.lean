import MotionStage.Data.Threads
import MotionStage.Server.Features
import MotionStage.Server.Presence
import MotionStage.Server.Signaling

/-!
This module contains `create_video_offer` and `handle_video_signal` as threads. They give the lock
on the server state up between their steps, so other calls can come in between.
-/

namespace MotionStage

variable {F : Floats}

inductive VideoCall where
  | createVideoOffer (deviceId : Uuid)
  | handleVideoSignal (deviceId : Uuid) (payload : SignalPayload)
  deriving DecidableEq, Repr

/--
The next step of a video call. The steps that neither read nor write the server state wait for the
WebRTC library.
-/
inductive VideoPhase where
  | checkReady (call : VideoCall)
  | lookUpPeer (call : VideoCall)
  | createPeer (call : VideoCall)
  | insertPeer (call : VideoCall) (created : Nat)
  | findPeer (call : VideoCall)
  | applyRemote (call : VideoCall) (peer : Nat)
  | readTrack (call : VideoCall) (peer : Nat)
  | addTrack (call : VideoCall) (peer : Nat)
  | markTrack (call : VideoCall) (peer : Nat)
  | describe (call : VideoCall) (peer : Nat)
  | done (result : Except ServerError (Option SdpMessage))

namespace VideoCall

def deviceId : VideoCall → Uuid
  | .createVideoOffer deviceId => deviceId
  | .handleVideoSignal deviceId _ => deviceId

def offers : VideoCall → Bool
  | .createVideoOffer _ => true
  | .handleVideoSignal _ (.sdp ⟨.offer, _⟩) => true
  | .handleVideoSignal _ _ => false

def withPeer (call : VideoCall) (peer : Nat) : VideoPhase :=
  match call with
  | .createVideoOffer _ => .readTrack call peer
  | .handleVideoSignal _ _ => .applyRemote call peer

def exec (call : VideoCall) (s : ServerState F) (results : WebRtcResults)
    : Except ServerError (Option SdpMessage) × ServerState F :=
  match call with
  | .createVideoOffer deviceId =>
    let (result, s) := s.createVideoOffer deviceId results
    (result.map some, s)
  | .handleVideoSignal deviceId payload => s.handleVideoSignal deviceId payload results

end VideoCall

namespace ServerState

def needsTrack (self : ServerState F) (deviceId : Uuid) : Bool :=
  ((self.videoPeers.get? deviceId).map fun entry => !entry.trackAdded).getD true

def markTrackAdded (self : ServerState F) (deviceId : Uuid) : ServerState F :=
  { self with
    videoPeers := self.videoPeers.modify deviceId fun entry => { entry with trackAdded := true } }

theorem describeWithTrack_eq (self : ServerState F) (deviceId : Uuid) (results : WebRtcResults)
    : self.describeWithTrack deviceId results
        =
      if self.needsTrack deviceId then
        match results.track with
        | .error e => (.error (.webRtc e), self)
        | .ok () => (results.description.mapError .webRtc, self.markTrackAdded deviceId)
      else
        (results.description.mapError .webRtc, self) := by
  cases hneeds : self.needsTrack deviceId with
  | false =>
    unfold needsTrack at hneeds
    simp [describeWithTrack, hneeds]
  | true =>
    unfold needsTrack at hneeds
    cases htrack : results.track with
    | error e => simp [describeWithTrack, hneeds, htrack]
    | ok => simp [describeWithTrack, hneeds, htrack, markTrackAdded]

/--
The second half of `ensure_video_peer`: a peer that is there by now wins over the created one.
-/
def orInsertPeer (self : ServerState F) (deviceId : Uuid) (created : Nat) : Nat × ServerState F :=
  match self.videoPeers.get? deviceId with
  | some entry => (entry.peer, self)
  | none =>
    (created, { self with videoPeers := self.videoPeers.insert deviceId ⟨created, false⟩ })

def videoTurn (self : ServerState F) (phase : VideoPhase) (results : WebRtcResults)
    : ServerState F × VideoPhase :=
  match phase with
  | .checkReady call =>
    match self.ensureVideoSessionReady call.deviceId with
    | .error e => (self, .done (.error e))
    | .ok () => (self, if call.offers then .lookUpPeer call else .findPeer call)
  | .lookUpPeer call =>
    match self.videoPeers.get? call.deviceId with
    | some entry => (self, call.withPeer entry.peer)
    | none => (self, .createPeer call)
  | .createPeer call =>
    match results.created with
    | .error e => (self, .done (.error (.webRtc e)))
    | .ok created => (self, .insertPeer call created)
  | .insertPeer call created =>
    let (peer, self) := self.orInsertPeer call.deviceId created
    (self, call.withPeer peer)
  | .findPeer call =>
    match self.videoPeer call.deviceId with
    | .error e => (self, .done (.error e))
    | .ok peer => (self, .applyRemote call peer)
  | .applyRemote call peer =>
    match results.remote with
    | .error e => (self, .done (.error (.webRtc e)))
    | .ok () => (self, if call.offers then .readTrack call peer else .done (.ok none))
  | .readTrack call peer =>
    (self, if self.needsTrack call.deviceId then .addTrack call peer else .describe call peer)
  | .addTrack call peer =>
    match results.track with
    | .error e => (self, .done (.error (.webRtc e)))
    | .ok () => (self, .markTrack call peer)
  | .markTrack call peer => (self.markTrackAdded call.deviceId, .describe call peer)
  | .describe _ _ =>
    match results.description with
    | .error e => (self, .done (.error (.webRtc e)))
    | .ok description => (self, .done (.ok (some description)))
  | .done result => (self, .done result)

def besidesVideo (self : ServerState F) : ServerOp F → ServerState F
  | .createVideoOffer _ _ | .handleVideoSignal _ _ _ => self
  | op => self.step op

end ServerState

def videoCalls (F : Floats)
    : Threads.Machine (ServerState F) VideoPhase VideoCall WebRtcResults (ServerOp F) where
  enter := .checkReady
  turn := ServerState.videoTurn
  act := ServerState.besidesVideo

abbrev VideoEvent (F : Floats) : Type := Threads.Event VideoCall WebRtcResults (ServerOp F)

section Alone

variable {s : ServerState F} {results : WebRtcResults}

def Returns (s : ServerState F) (phase : VideoPhase) (results : WebRtcResults) (n : Nat)
    (r : Except ServerError (Option SdpMessage) × ServerState F) : Prop :=
  (videoCalls F).Settles results s phase n (r.2, .done r.1)

theorem Returns.turn {s' : ServerState F} {phase phase' : VideoPhase} {n : Nat}
    {r : Except ServerError (Option SdpMessage) × ServerState F}
    (hturn : s.videoTurn phase results = (s', phase')) (h : Returns s' phase' results n r)
    : Returns s phase results (n + 1) r :=
  Threads.Machine.Settles.turn hturn h

theorem returns_done (result : Except ServerError (Option SdpMessage)) (n : Nat)
    : Returns s (.done result) results n (result, s) :=
  .rest rfl n

theorem returns_describe (call : VideoCall) (peer : Nat)
    : Returns s (.describe call peer) results 1
        ((results.description.mapError .webRtc).map some, s) := by
  have hturn : s.videoTurn (.describe call peer) results
      = (s, .done ((results.description.mapError .webRtc).map some)) := by
    simp only [ServerState.videoTurn]
    cases results.description <;> rfl
  exact .turn hturn (returns_done _ 0)

theorem returns_readTrack (s : ServerState F) (results : WebRtcResults) (call : VideoCall)
    (peer : Nat)
    : Returns s (.readTrack call peer) results 4
        ((s.describeWithTrack call.deviceId results).1.map some,
          (s.describeWithTrack call.deviceId results).2) := by
  have hturn : s.videoTurn (.readTrack call peer) results
      = (s, if s.needsTrack call.deviceId then .addTrack call peer else .describe call peer) := rfl
  rw [ServerState.describeWithTrack_eq]
  apply Returns.turn hturn
  cases hneeds : s.needsTrack call.deviceId with
  | false => exact (returns_describe call peer).mono (by omega)
  | true =>
    cases htrack : results.track with
    | error e =>
      have hadd : s.videoTurn (.addTrack call peer) results = (s, .done (.error (.webRtc e))) := by
        simp only [ServerState.videoTurn, htrack]
      exact .turn hadd (returns_done _ 2)
    | ok =>
      have hadd : s.videoTurn (.addTrack call peer) results = (s, .markTrack call peer) := by
        simp only [ServerState.videoTurn, htrack]
      exact .turn hadd (.turn rfl (returns_describe call peer))

def VideoCall.withTrack (call : VideoCall) (s : ServerState F) (results : WebRtcResults)
    : Except ServerError (Option SdpMessage) × ServerState F :=
  let (result, s') := s.describeWithTrack call.deviceId results
  match call, results.remote with
  | .handleVideoSignal _ _, .error e => (.error (.webRtc e), s)
  | _, _ => (result.map some, s')

theorem returns_withPeer {call : VideoCall} (hoffers : call.offers = true) (peer : Nat)
    : Returns s (call.withPeer peer) results 5 (call.withTrack s results) := by
  have htrack := returns_readTrack s results call peer
  cases call with
  | createVideoOffer deviceId => exact htrack.mono (by omega)
  | handleVideoSignal deviceId payload =>
    cases hremote : results.remote with
    | error e =>
      have hturn : s.videoTurn (.applyRemote (.handleVideoSignal deviceId payload) peer) results
          = (s, .done (.error (.webRtc e))) := by
        simp only [ServerState.videoTurn, hremote]
      simp only [VideoCall.withTrack, hremote]
      exact .turn hturn (returns_done _ 4)
    | ok =>
      have hturn : s.videoTurn (.applyRemote (.handleVideoSignal deviceId payload) peer) results
          = (s, .readTrack (.handleVideoSignal deviceId payload) peer) := by
        simp only [ServerState.videoTurn, hremote, hoffers, ↓reduceIte]
      simp only [VideoCall.withTrack, hremote]
      exact .turn hturn htrack

theorem returns_lookUpPeer {call : VideoCall} (hoffers : call.offers = true)
    : Returns s (.lookUpPeer call) results 8
        (match s.ensureVideoPeer call.deviceId results with
          | (.error e, s) => (.error e, s)
          | (.ok _, s) => call.withTrack s results) := by
  unfold ServerState.ensureVideoPeer
  cases hpeer : s.videoPeers.get? call.deviceId with
  | some entry =>
    have hturn : s.videoTurn (.lookUpPeer call) results = (s, call.withPeer entry.peer) := by
      simp only [ServerState.videoTurn, hpeer]
    exact .turn hturn ((returns_withPeer hoffers entry.peer).mono (by omega))
  | none =>
    have hturn : s.videoTurn (.lookUpPeer call) results = (s, .createPeer call) := by
      simp only [ServerState.videoTurn, hpeer]
    apply Returns.turn hturn
    cases hcreated : results.created with
    | error e =>
      have hcreate : s.videoTurn (.createPeer call) results = (s, .done (.error (.webRtc e))) := by
        simp only [ServerState.videoTurn, hcreated]
      exact .turn hcreate (returns_done _ 6)
    | ok created =>
      have hcreate : s.videoTurn (.createPeer call) results = (s, .insertPeer call created) := by
        simp only [ServerState.videoTurn, hcreated]
      have hinsert : s.videoTurn (.insertPeer call created) results
          = ({ s with videoPeers := s.videoPeers.insert call.deviceId ⟨created, false⟩ },
              call.withPeer created) := by
        simp only [ServerState.videoTurn, ServerState.orInsertPeer, hpeer]
      exact .turn hcreate (.turn hinsert (returns_withPeer hoffers created))

theorem returns_findPeer {call : VideoCall} (hoffers : call.offers = false)
    : Returns s (.findPeer call) results 8 (s.forwardToPeer call.deviceId results, s) := by
  unfold ServerState.forwardToPeer
  cases hpeer : s.videoPeer call.deviceId with
  | error e =>
    have hturn : s.videoTurn (.findPeer call) results = (s, .done (.error e)) := by
      simp only [ServerState.videoTurn, hpeer]
    exact .turn hturn (returns_done _ 7)
  | ok peer =>
    have hturn : s.videoTurn (.findPeer call) results = (s, .applyRemote call peer) := by
      simp only [ServerState.videoTurn, hpeer]
    apply Returns.turn hturn
    cases hremote : results.remote with
    | error e =>
      have happly : s.videoTurn (.applyRemote call peer) results
          = (s, .done (.error (.webRtc e))) := by
        simp only [ServerState.videoTurn, hremote]
      exact .turn happly (returns_done _ 6)
    | ok =>
      have happly : s.videoTurn (.applyRemote call peer) results = (s, .done (.ok none)) := by
        simp [ServerState.videoTurn, hremote, hoffers]
      exact .turn happly (returns_done _ 6)

theorem exec_of_ready {call : VideoCall} (h : s.ensureVideoSessionReady call.deviceId = .ok ())
    : call.exec s results
        =
      if call.offers then
        match s.ensureVideoPeer call.deviceId results with
        | (.error e, s) => (.error e, s)
        | (.ok _, s) => call.withTrack s results
      else
        (s.forwardToPeer call.deviceId results, s) := by
  cases call with
  | createVideoOffer deviceId =>
    simp only [VideoCall.deviceId] at h
    simp only [VideoCall.exec, ServerState.createVideoOffer, h, VideoCall.offers, ↓reduceIte,
      VideoCall.deviceId]
    rcases s.ensureVideoPeer deviceId results with ⟨_ | _, s'⟩ <;> rfl
  | handleVideoSignal deviceId payload =>
    simp only [VideoCall.deviceId] at h
    simp only [VideoCall.exec, ServerState.handleVideoSignal, h, VideoCall.deviceId]
    rcases payload with ⟨_ | _, _⟩ | _
    . simp only [VideoCall.offers, ↓reduceIte]
      rcases s.ensureVideoPeer deviceId results with ⟨_ | _, s'⟩
      . rfl
      . cases hremote : results.remote with
        | error e => simp only [VideoCall.withTrack, hremote]
        | ok =>
          simp only [VideoCall.withTrack, hremote, VideoCall.deviceId]
          rcases s'.describeWithTrack deviceId results with ⟨_ | _, s''⟩ <;> rfl
    . rfl
    . rfl

theorem returns_exec (call : VideoCall)
    : Returns s (.checkReady call) results 9 (call.exec s results) := by
  cases hready : s.ensureVideoSessionReady call.deviceId with
  | error e =>
    have hturn : s.videoTurn (.checkReady call) results = (s, .done (.error e)) := by
      simp only [ServerState.videoTurn, hready]
    have hexec : call.exec s results = (.error e, s) := by
      cases call with
      | createVideoOffer deviceId =>
        simp only [VideoCall.deviceId] at hready
        simp only [VideoCall.exec, ServerState.createVideoOffer, hready]
        rfl
      | handleVideoSignal deviceId payload =>
        simp only [VideoCall.deviceId] at hready
        simp only [VideoCall.exec, ServerState.handleVideoSignal, hready]
    rw [hexec]
    exact .turn hturn (returns_done _ 8)
  | ok =>
    have hturn : s.videoTurn (.checkReady call) results
        = (s, if call.offers then .lookUpPeer call else .findPeer call) := by
      simp only [ServerState.videoTurn, hready]
    rw [exec_of_ready hready]
    apply Returns.turn hturn
    cases hoffers : call.offers with
    | true => exact returns_lookUpPeer hoffers
    | false => exact returns_findPeer hoffers

theorem run_uninterrupted (p : Threads.Pool (ServerState F) VideoPhase) (call : VideoCall)
    (results : WebRtcResults)
    : Run.run (videoCalls F).step p
          (.call call :: (List.replicate 9 results).map (.turn p.threads.length))
        =
      ⟨(call.exec p.shared results).2, p.threads ++ [.done (call.exec p.shared results).1]⟩ := by
  have hthread : ((videoCalls F).step p (.call call)).threads[p.threads.length]?
      = some (.checkReady call) := by
    simp [Threads.Machine.step, videoCalls]
  rw [Run.run_cons, Threads.Machine.run_turns hthread, returns_exec call 9 (by omega)]
  simp [Threads.Machine.step]

end Alone

section Peers

namespace ServerState

def PeersActive (self : ServerState F) : Prop :=
  ∀ deviceId, self.videoPeers.contains deviceId = true → self.stateOf? deviceId = some .active

/--
A new peer is put in for a device whose session is active at that moment.
-/
def InsertsActive (self : ServerState F) : VideoPhase → WebRtcResults → Prop
  | .insertPeer call _, _ =>
    self.videoPeers.contains call.deviceId = false → self.stateOf? call.deviceId = some .active
  | _, _ => True

def DiscoversUnpeered (self : ServerState F) : ServerOp F → Prop
  | .discovered deviceId _ => self.videoPeers.contains deviceId = false
  | _ => True

theorem peersActive_insertPeer_iff {self : ServerState F} (h : self.PeersActive) (deviceId : Uuid)
    (peer : VideoPeerSession)
    : PeersActive { self with videoPeers := self.videoPeers.insert deviceId peer }
        ↔
      self.stateOf? deviceId = some .active := by
  constructor
  . intro hinserted
    exact hinserted deviceId (by simp [IndexMap.contains])
  . intro hactive k hk
    by_cases hdevice : k = deviceId
    . rw [hdevice]
      exact hactive
    . apply h k
      simpa [IndexMap.contains, IndexMap.get?_insert, hdevice] using hk

theorem peersActive_videoTurn_iff {self : ServerState F} (h : self.PeersActive)
    (phase : VideoPhase) (results : WebRtcResults)
    : (self.videoTurn phase results).1.PeersActive ↔ self.InsertsActive phase results := by
  cases phase with
  | insertPeer call created =>
    simp only [videoTurn, orInsertPeer, InsertsActive, IndexMap.contains]
    cases hpeer : self.videoPeers.get? call.deviceId with
    | some entry => simpa using h
    | none => simpa using peersActive_insertPeer_iff h call.deviceId ⟨created, false⟩
  | markTrack call peer =>
    apply iff_of_true _ trivial
    intro k hk
    apply h k
    simpa [videoTurn, markTrackAdded, IndexMap.contains, IndexMap.get?_modify, apply_ite] using hk
  | readTrack call peer => exact iff_of_true h trivial
  | done result => exact iff_of_true h trivial
  | _ =>
    simp only [videoTurn]
    split <;> exact iff_of_true h trivial

theorem peersActive_besidesVideo_iff {self : ServerState F} (h : self.PeersActive)
    (op : ServerOp F)
    : (self.besidesVideo op).PeersActive ↔ self.DiscoversUnpeered op := by
  cases op with
  | createVideoOffer => exact iff_of_true h trivial
  | handleVideoSignal => exact iff_of_true h trivial
  | discovered deviceId deviceName =>
    have hpeers : (self.step (.discovered deviceId deviceName)).videoPeers = self.videoPeers :=
      videoPeers_step (by simp) (by simp) (by simp)
    simp only [besidesVideo, DiscoversUnpeered]
    constructor
    . intro hdiscovered
      by_contra hpeer
      rw [Bool.not_eq_false] at hpeer
      -- a device with a peer has a session, so `discovered` does not fail for capacity
      have hactive := h deviceId hpeer
      have hpasses : self.passes (.discovered deviceId deviceName) = true := by
        obtain ⟨session, hsession, -⟩ := Option.map_eq_some_iff.mp hactive
        simp [passes, IndexMap.contains, hsession]
      have hnext := hdiscovered deviceId (by rw [hpeers]; exact hpeer)
      rw [stateOf?_discovered, if_pos hpasses] at hnext
      cases hnext
    . intro hpeer k hk
      rw [hpeers] at hk
      have hne : deviceId ≠ k := by
        rintro rfl
        rw [hpeer] at hk
        cases hk
      rw [stateOf?_step_of_ne (by simpa [ServerOp.sessionOf?] using hne)]
      exact h k hk
  | closeSession deviceId nowNs =>
    apply iff_of_true _ trivial
    intro k hk
    have hpeers : (self.step (.closeSession deviceId nowNs)).videoPeers
        = self.videoPeers.shiftRemove deviceId := by
      simp only [step, exec, closeSession]
      rw [changeSessionState_frame]
    simp only [besidesVideo, hpeers, IndexMap.contains, IndexMap.get?_shiftRemove] at hk
    split at hk
    . cases hk
    . next hne =>
      simp only [besidesVideo]
      rw [stateOf?_step_of_ne (by simpa [ServerOp.sessionOf?, eq_comm] using hne)]
      exact h k hk
  | _ =>
    apply iff_of_true _ trivial
    intro k hk
    simp only [besidesVideo] at hk ⊢
    rw [videoPeers_step (by simp) (by simp) (by simp)] at hk
    exact stateOf?_step_of_active (h k hk) (by simp) (by simp)

theorem peersActive_run_iff (config : ServerConfig) (es : List (VideoEvent F))
    : Run.AllStates (videoCalls F).step (fun p => p.shared.PeersActive) ⟨.new config, []⟩ es
        ↔
      Run.AllSteps (videoCalls F).step (Threads.Machine.OnStep InsertsActive DiscoversUnpeered)
        ⟨.new config, []⟩ es := by
  apply Threads.Machine.allStates_shared_iff (P := PeersActive)
  . exact fun s phase results h => peersActive_videoTurn_iff h phase results
  . exact fun s op h => peersActive_besidesVideo_iff h op
  . intro deviceId hpeer
    simp [new, IndexMap.contains] at hpeer

def videoWorks : WebRtcResults where
  created := .ok 1
  track := .ok ()
  remote := .ok ()
  description := .ok ⟨.offer, "v=0"⟩

/--
Device 7 is active and its offer has come as far as the insertion of the peer.
-/
def offerBeforeInsert : List (VideoEvent Floats.rational) :=
  Registry.videoHandshake.map .act ++ [.call (.createVideoOffer 7)]
    ++ List.replicate 3 (.turn 0 videoWorks)

def closedBeforeInsert : List (VideoEvent Floats.rational) :=
  offerBeforeInsert ++ [.act (.closeSession 7 1), .turn 0 videoWorks]

def discoveredAfterInsert : List (VideoEvent Floats.rational) :=
  offerBeforeInsert ++ [.turn 0 videoWorks, .act (.discovered 7 "panel")]

theorem peersActive_fails
    : ¬ (Run.run (videoCalls _).step ⟨.new .default, []⟩ closedBeforeInsert).shared.PeersActive
        ∧ ¬ (Run.run (videoCalls _).step ⟨.new .default, []⟩
              discoveredAfterInsert).shared.PeersActive := by
  constructor
  . intro h
    exact absurd (h 7 (by decide)) (by decide)
  . intro h
    exact absurd (h 7 (by decide)) (by decide)

end ServerState

end Peers

end MotionStage
