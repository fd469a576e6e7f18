import MotionStage.Server.VideoStep

/-!
This module contains how often a track is added to a video peer. The flag that says whether a peer
has its track is read before the track is added and set after it, each under a lock of its own.
-/

namespace MotionStage

variable {F : Floats}

namespace VideoPhase

/--
The device and the peer that `add_h264_track` has returned `Ok` for in this turn.
-/
def adds? (results : WebRtcResults) : VideoPhase → Option (Uuid × Nat)
  | .addTrack call peer => if results.track.isOk then some (call.deviceId, peer) else none
  | _ => none

def creates? (results : WebRtcResults) : VideoPhase → Option Nat
  | .createPeer _ => results.created.toOption
  | _ => none

def pending : VideoPhase → Multiset Nat
  | .insertPeer _ created => {created}
  | _ => 0

def marks? : VideoPhase → Option Nat
  | .markTrack _ peer => some peer
  | _ => none

def peer? : VideoPhase → Option (Uuid × Nat)
  | .applyRemote call peer | .readTrack call peer | .addTrack call peer | .markTrack call peer
  | .describe call peer => some (call.deviceId, peer)
  | _ => none

end VideoPhase

namespace ServerState

def peerOf? (self : ServerState F) (deviceId : Uuid) : Option Nat :=
  (self.videoPeers.get? deviceId).map VideoPeerSession.peer

inductive TurnsTo (s : ServerState F) (results : WebRtcResults)
    : VideoPhase → ServerState F × VideoPhase → Prop where
  | create (call created) (h : results.created = .ok created)
    : TurnsTo s results (.createPeer call) (s, .insertPeer call created)
  | insert (call created)
    : TurnsTo s results (.insertPeer call created)
        ((s.orInsertPeer call.deviceId created).2,
          call.withPeer (s.orInsertPeer call.deviceId created).1)
  | add (call peer) (h : results.track = .ok ())
    : TurnsTo s results (.addTrack call peer) (s, .markTrack call peer)
  | mark (call peer)
    : TurnsTo s results (.markTrack call peer)
        (s.markTrackAdded call.deviceId, .describe call peer)
  | pass (phase next) (hadds : phase.adds? results = none)
    (hcreates : phase.creates? results = none) (hpending : phase.pending = 0 ∧ next.pending = 0)
    (hmarks : phase.marks? = none ∧ next.marks? = none)
    (hpeer : ∀ deviceId peer, next.peer? = some (deviceId, peer) →
      phase.peer? = some (deviceId, peer) ∨ s.peerOf? deviceId = some peer)
    : TurnsTo s results phase (s, next)

theorem TurnsTo.keep {s : ServerState F} {results : WebRtcResults} {phase next : VideoPhase}
    (h : phase.adds? results = none ∧ phase.creates? results = none ∧ phase.pending = 0
      ∧ phase.marks? = none) (hnext : next.pending = 0 ∧ next.marks? = none)
    (hpeer : next.peer? = none ∨ next.peer? = phase.peer?)
    : s.TurnsTo results phase (s, next) := by
  refine .pass _ _ h.1 h.2.1 ⟨h.2.2.1, hnext.1⟩ ⟨h.2.2.2, hnext.2⟩ ?_
  intro deviceId peer hp
  rcases hpeer with hnone | hsame
  . rw [hnone] at hp
    cases hp
  . exact .inl (hsame ▸ hp)

theorem peer?_withPeer (call : VideoCall) (peer : Nat)
    : (call.withPeer peer).peer? = some (call.deviceId, peer)
        ∧ (call.withPeer peer).pending = 0 ∧ (call.withPeer peer).marks? = none := by
  cases call <;> exact ⟨rfl, rfl, rfl⟩

theorem turnsTo_videoTurn (s : ServerState F) (phase : VideoPhase) (results : WebRtcResults)
    : s.TurnsTo results phase (s.videoTurn phase results) := by
  cases phase with
  | checkReady call =>
    simp only [videoTurn]
    split
    . exact .keep ⟨rfl, rfl, rfl, rfl⟩ ⟨rfl, rfl⟩ (.inl rfl)
    . split <;> exact .keep ⟨rfl, rfl, rfl, rfl⟩ ⟨rfl, rfl⟩ (.inl rfl)
  | lookUpPeer call =>
    simp only [videoTurn]
    split
    . next entry hentry =>
      obtain ⟨hpeer, hpending, hmarks⟩ := peer?_withPeer call entry.peer
      refine .pass _ _ rfl rfl ⟨rfl, hpending⟩ ⟨rfl, hmarks⟩ ?_
      intro deviceId peer hp
      rw [hpeer] at hp
      cases hp
      exact .inr (congrArg (Option.map VideoPeerSession.peer) hentry)
    . exact .keep ⟨rfl, rfl, rfl, rfl⟩ ⟨rfl, rfl⟩ (.inl rfl)
  | createPeer call =>
    simp only [videoTurn]
    split
    . next e he =>
      exact .keep ⟨rfl, by simp [VideoPhase.creates?, he, Except.toOption], rfl, rfl⟩ ⟨rfl, rfl⟩
        (.inl rfl)
    . next created hcreated => exact .create call created hcreated
  | insertPeer call created => exact .insert call created
  | findPeer call =>
    simp only [videoTurn]
    split
    . exact .keep ⟨rfl, rfl, rfl, rfl⟩ ⟨rfl, rfl⟩ (.inl rfl)
    . next found hfound =>
      refine .pass _ _ rfl rfl ⟨rfl, rfl⟩ ⟨rfl, rfl⟩ ?_
      intro deviceId peer hp
      cases hp
      unfold videoPeer at hfound
      split at hfound
      . cases hfound
      . next entry hentry =>
        cases hfound
        exact .inr (congrArg (Option.map VideoPeerSession.peer) hentry)
  | applyRemote call peer =>
    simp only [videoTurn]
    split
    . exact .keep ⟨rfl, rfl, rfl, rfl⟩ ⟨rfl, rfl⟩ (.inl rfl)
    . split
      . exact .keep ⟨rfl, rfl, rfl, rfl⟩ ⟨rfl, rfl⟩ (.inr rfl)
      . exact .keep ⟨rfl, rfl, rfl, rfl⟩ ⟨rfl, rfl⟩ (.inl rfl)
  | readTrack call peer =>
    simp only [videoTurn]
    split <;> exact .keep ⟨rfl, rfl, rfl, rfl⟩ ⟨rfl, rfl⟩ (.inr rfl)
  | addTrack call peer =>
    simp only [videoTurn]
    split
    . next e he =>
      exact .keep ⟨by simp [VideoPhase.adds?, he, Except.isOk, Except.toBool], rfl, rfl, rfl⟩
        ⟨rfl, rfl⟩ (.inl rfl)
    . next hok => exact .add call peer hok
  | markTrack call peer => exact .mark call peer
  | describe call peer =>
    simp only [videoTurn]
    split <;> exact .keep ⟨rfl, rfl, rfl, rfl⟩ ⟨rfl, rfl⟩ (.inl rfl)
  | done result => exact .keep ⟨rfl, rfl, rfl, rfl⟩ ⟨rfl, rfl⟩ (.inl rfl)

theorem peerOf?_markTrackAdded (s : ServerState F) (deviceId d : Uuid)
    : (s.markTrackAdded deviceId).peerOf? d = s.peerOf? d := by
  simp only [markTrackAdded, peerOf?, IndexMap.get?_modify]
  split
  . cases s.videoPeers.get? d <;> rfl
  . rfl

theorem peerOf?_orInsertPeer (s : ServerState F) (deviceId : Uuid) (created : Nat) (d : Uuid)
    : (s.orInsertPeer deviceId created).2.peerOf? d
        =
      if d = deviceId then some ((s.peerOf? deviceId).getD created) else s.peerOf? d := by
  unfold orInsertPeer
  cases hentry : s.videoPeers.get? deviceId with
  | some entry =>
    dsimp only
    split
    . next heq => simp [heq, peerOf?, hentry]
    . rfl
  | none =>
    simp only [peerOf?, IndexMap.get?_insert]
    split
    . simp [hentry]
    . rfl

namespace TurnsTo

variable {s : ServerState F} {results : WebRtcResults} {phase : VideoPhase}
  {r : ServerState F × VideoPhase}

theorem keeps (h : s.TurnsTo results phase r) {d : Uuid} {q : Nat} (hd : s.peerOf? d = some q)
    : r.1.peerOf? d = some q := by
  cases h with
  | insert call created =>
    rw [peerOf?_orInsertPeer]
    split
    . next heq => rw [← heq, hd, Option.getD_some]
    . exact hd
  | mark call peer => rw [peerOf?_markTrackAdded, hd]
  | create call created h => exact hd
  | add call peer h => exact hd
  | pass => exact hd

theorem peerOf?_cases (h : s.TurnsTo results phase r) {d : Uuid} {q : Nat}
    (hd : r.1.peerOf? d = some q)
    : s.peerOf? d = some q ∨ ∃ call, phase = .insertPeer call q ∧ call.deviceId = d := by
  cases h with
  | insert call created =>
    rw [peerOf?_orInsertPeer] at hd
    split at hd
    . next heq =>
      cases hpeer : s.peerOf? call.deviceId with
      | some q' =>
        rw [hpeer] at hd
        rw [heq, hpeer]
        exact .inl hd
      | none =>
        rw [hpeer, Option.getD_none, Option.some.injEq] at hd
        exact .inr ⟨call, by rw [hd], heq.symm⟩
    . exact .inl hd
  | mark call peer =>
    rw [peerOf?_markTrackAdded] at hd
    exact .inl hd
  | create call created h => exact .inl hd
  | add call peer h => exact .inl hd
  | pass => exact .inl hd

theorem held (h : s.TurnsTo results phase r)
    (hphase : ∀ d q, phase.peer? = some (d, q) → s.peerOf? d = some q) {d : Uuid} {q : Nat}
    (hnext : r.2.peer? = some (d, q))
    : r.1.peerOf? d = some q := by
  cases h with
  | insert call created =>
    rw [(peer?_withPeer _ _).1] at hnext
    cases hnext
    rw [peerOf?_orInsertPeer, if_pos rfl]
    unfold orInsertPeer peerOf?
    cases s.videoPeers.get? call.deviceId <;> rfl
  | mark call peer =>
    rw [peerOf?_markTrackAdded]
    exact hphase d q hnext
  | create call created h => cases hnext
  | add call peer h => exact hphase d q hnext
  | pass phase next hadds hcreates hpending hmarks hpeer =>
    rcases hpeer d q hnext with hsame | hstored
    . exact hphase d q hsame
    . exact hstored

theorem pending (h : s.TurnsTo results phase r)
    : r.2.pending ≤ phase.pending
        ∨ ∃ created, phase.creates? results = some created ∧ phase.pending = 0
            ∧ r.2.pending = {created} := by
  cases h with
  | create call created h => exact .inr ⟨created, by rw [VideoPhase.creates?, h]; rfl, rfl, rfl⟩
  | insert call created =>
    rw [(peer?_withPeer _ _).2.1]
    exact .inl (Multiset.zero_le _)
  | add call peer h => exact .inl le_rfl
  | mark call peer => exact .inl le_rfl
  | pass phase next hadds hcreates hpending hmarks hpeer =>
    rw [hpending.2]
    exact .inl (Multiset.zero_le _)

theorem pending_insertPeer {call : VideoCall} {created : Nat}
    (h : s.TurnsTo results (.insertPeer call created) r)
    : r.2.pending = 0 := by
  cases h with
  | insert => exact (peer?_withPeer _ _).2.1
  | pass next phase hadds hcreates hpending hmarks hpeer => exact hpending.2

end TurnsTo

end ServerState

theorem VideoPhase.peer?_of_adds? {phase : VideoPhase} {results : WebRtcResults} {add : Uuid × Nat}
    (h : phase.adds? results = some add)
    : phase.peer? = some add := by
  cases phase <;> try cases h
  simp only [adds?, Option.ite_none_right_eq_some] at h
  exact h.2

theorem VideoPhase.peer?_of_marks? {phase : VideoPhase} {peer : Nat}
    (h : phase.marks? = some peer)
    : ∃ deviceId, phase.peer? = some (deviceId, peer) := by
  cases phase <;> cases h
  exact ⟨_, rfl⟩

/--
The pool together with the peers that `add_h264_track` has returned `Ok` for, once for each time.
-/
structure TrackHistory (F : Floats) where
  pool : Threads.Pool (ServerState F) VideoPhase
  added : List Nat

namespace TrackHistory

def start (s : ServerState F) : TrackHistory F := ⟨⟨s, []⟩, []⟩

def adds? (h : TrackHistory F) : VideoEvent F → Option (Uuid × Nat)
  | .turn i results => h.pool.threads[i]?.bind (VideoPhase.adds? results)
  | _ => none

def creates? (h : TrackHistory F) : VideoEvent F → Option Nat
  | .turn i results => h.pool.threads[i]?.bind (VideoPhase.creates? results)
  | _ => none

def step (h : TrackHistory F) (e : VideoEvent F) : TrackHistory F where
  pool := (videoCalls F).step h.pool e
  added := h.added ++ ((h.adds? e).map Prod.snd).toList

def pending (h : TrackHistory F) : Multiset Nat := (h.pool.threads.map VideoPhase.pending).sum

def OneTrackEach (h : TrackHistory F) : Prop :=
  ∀ deviceId entry, h.pool.shared.videoPeers.get? deviceId = some entry
    → h.added.count entry.peer ≤ 1

/--
A track is added only while the flag is still unset, and while no other call has added one that it
is about to mark.
-/
def AddsFirst (h : TrackHistory F) (e : VideoEvent F) : Prop :=
  ∀ add ∈ h.adds? e, h.pool.shared.needsTrack add.1 = true
    ∧ ∀ phase ∈ h.pool.threads, phase.marks? ≠ some add.2

def CreatesFresh (h : TrackHistory F) (e : VideoEvent F) : Prop :=
  ∀ peer ∈ h.creates? e, peer ∉ h.pending
    ∧ ∀ entry ∈ h.pool.shared.videoPeers.values, entry.peer ≠ peer

def closes : VideoEvent F → Bool
  | .act (.closeSession _ _) => true
  | _ => false

instance (h : TrackHistory F) (e : VideoEvent F) : Decidable (h.AddsFirst e) :=
  inferInstanceAs (Decidable (∀ add ∈ h.adds? e, _ ∧ _))

instance (h : TrackHistory F) (e : VideoEvent F) : Decidable (h.CreatesFresh e) :=
  inferInstanceAs (Decidable (∀ peer ∈ h.creates? e, _ ∧ _))

structure Sound (h : TrackHistory F) : Prop where
  distinct : h.pending.Nodup
  fresh : ∀ peer ∈ h.pending, ∀ deviceId, h.pool.shared.peerOf? deviceId ≠ some peer
  injective : ∀ d d' peer, h.pool.shared.peerOf? d = some peer
    → h.pool.shared.peerOf? d' = some peer → d = d'
  held : ∀ phase ∈ h.pool.threads, ∀ deviceId peer, phase.peer? = some (deviceId, peer)
    → h.pool.shared.peerOf? deviceId = some peer
  stored : ∀ peer ∈ h.added, ∃ deviceId, h.pool.shared.peerOf? deviceId = some peer
  counted : ∀ deviceId entry, h.pool.shared.videoPeers.get? deviceId = some entry
    → (entry.peer ∈ h.added
      ↔ entry.trackAdded = true ∨ ∃ phase ∈ h.pool.threads, phase.marks? = some entry.peer)

section Turn

variable {h : TrackHistory F} {i : Nat} {results : WebRtcResults} {phase : VideoPhase}
  {r : ServerState F × VideoPhase}

theorem step_turn (hphase : h.pool.threads[i]? = some phase)
    : h.step (.turn i results)
        =
      ⟨⟨(h.pool.shared.videoTurn phase results).1,
          h.pool.threads.set i (h.pool.shared.videoTurn phase results).2⟩,
        h.added ++ ((phase.adds? results).map Prod.snd).toList⟩ := by
  unfold step
  rw [Threads.Machine.step_turn_some _ hphase]
  simp only [adds?, hphase, Option.bind_some]
  rfl

theorem pending_set (hphase : h.pool.threads[i]? = some phase) (next : VideoPhase)
    : ((h.pool.threads.set i next).map VideoPhase.pending).sum + phase.pending
        =
      h.pending + next.pending :=
  Threads.Ledger.sum_map_set hphase next

theorem pending_le (hphase : h.pool.threads[i]? = some phase) : phase.pending ≤ h.pending :=
  Threads.Ledger.held_le_sum hphase

theorem pending_turn (hphase : h.pool.threads[i]? = some phase)
    (hturn : h.pool.shared.TurnsTo results phase r)
    : ((h.pool.threads.set i r.2).map VideoPhase.pending).sum ≤ h.pending
        ∨ ∃ created, phase.creates? results = some created
            ∧ ((h.pool.threads.set i r.2).map VideoPhase.pending).sum = h.pending + {created} := by
  have hset := pending_set hphase r.2
  rcases hturn.pending with hle | ⟨created, hcreates, hnone, hnext⟩
  . left
    apply le_of_add_le_add_right (a := phase.pending)
    rw [hset]
    exact add_le_add_right hle h.pending
  . right
    rw [hnone, add_zero, hnext] at hset
    exact ⟨created, hcreates, hset⟩

theorem not_stored_of_fresh (hs : ServerState F) {created : Nat}
    (hfresh : ∀ entry ∈ hs.videoPeers.values, entry.peer ≠ created) (deviceId : Uuid)
    : hs.peerOf? deviceId ≠ some created := by
  intro hstored
  obtain ⟨entry, hentry, hpeer⟩ := Option.map_eq_some_iff.mp hstored
  exact hfresh entry (IndexMap.mem_values.mpr ⟨deviceId, hentry⟩) hpeer

theorem marks_set (hphase : h.pool.threads[i]? = some phase) (hnone : phase.marks? = none)
    (next : VideoPhase) (peer : Nat)
    : (∃ phase ∈ h.pool.threads.set i next, phase.marks? = some peer)
        ↔
      next.marks? = some peer ∨ ∃ phase ∈ h.pool.threads, phase.marks? = some peer := by
  rw [← Threads.Machine.exists_mem_set hphase next fun phase => phase.marks? = some peer, hnone]
  simp

theorem not_added_of_fresh (hs : h.Sound) {peer : Nat}
    (hfresh : ∀ deviceId, h.pool.shared.peerOf? deviceId ≠ some peer)
    : peer ∉ h.added ∧ ∀ phase ∈ h.pool.threads, phase.marks? ≠ some peer := by
  constructor
  . intro hadded
    obtain ⟨d, hd⟩ := hs.stored peer hadded
    exact hfresh d hd
  . intro phase hphase hmarks
    obtain ⟨d, hpeer⟩ := VideoPhase.peer?_of_marks? hmarks
    exact hfresh d (hs.held phase hphase d peer hpeer)

theorem counted_mark (hs : h.Sound) {call : VideoCall} {peer : Nat}
    (hphase : h.pool.threads[i]? = some (.markTrack call peer)) {deviceId : Uuid}
    {entry : VideoPeerSession}
    (hentry : (h.pool.shared.markTrackAdded call.deviceId).videoPeers.get? deviceId = some entry)
    : entry.peer ∈ h.added
        ↔
      entry.trackAdded = true
        ∨ ∃ phase ∈ h.pool.threads.set i (.describe call peer),
            phase.marks? = some entry.peer := by
  have hmem : VideoPhase.markTrack call peer ∈ h.pool.threads := List.mem_of_getElem? hphase
  have hpeer : h.pool.shared.peerOf? call.deviceId = some peer := hs.held _ hmem _ _ rfl
  simp only [ServerState.markTrackAdded, IndexMap.get?_modify] at hentry
  split at hentry
  . next heq =>
    subst heq
    obtain ⟨old, hold, rfl⟩ := Option.map_eq_some_iff.mp hentry
    rw [ServerState.peerOf?, hold, Option.map_some, Option.some.injEq] at hpeer
    have hadded : old.peer ∈ h.added := by
      rw [hs.counted call.deviceId old hold]
      exact .inr ⟨_, hmem, congrArg some hpeer.symm⟩
    simp [hadded]
  . next hne =>
    have hother : peer ≠ entry.peer := by
      rintro rfl
      apply hne
      exact hs.injective deviceId call.deviceId entry.peer
        (congrArg (Option.map VideoPeerSession.peer) hentry) hpeer
    have hmarks := Threads.Machine.exists_mem_set hphase (.describe call peer)
      fun phase => phase.marks? = some entry.peer
    have hold : ¬ (VideoPhase.markTrack call peer).marks? = some entry.peer :=
      fun h => hother (Option.some.inj h)
    have hnext : ¬ (VideoPhase.describe call peer).marks? = some entry.peer :=
      fun h => by cases h
    rw [or_iff_left hold, or_iff_right hnext] at hmarks
    rw [hmarks]
    exact hs.counted deviceId entry hentry

theorem counted_turn (hs : h.Sound) (hphase : h.pool.threads[i]? = some phase)
    (hturn : h.pool.shared.TurnsTo results phase r) {deviceId : Uuid} {entry : VideoPeerSession}
    (hentry : r.1.videoPeers.get? deviceId = some entry)
    : entry.peer ∈ h.added ++ ((phase.adds? results).map Prod.snd).toList
        ↔
      entry.trackAdded = true
        ∨ ∃ phase ∈ h.pool.threads.set i r.2, phase.marks? = some entry.peer := by
  have hcounted := hs.counted deviceId entry
  cases hturn with
  | create call created hcreated =>
    rw [marks_set hphase rfl]
    simpa [VideoPhase.adds?, VideoPhase.marks?] using hcounted hentry
  | insert call created =>
    have hfresh := hs.fresh created (Multiset.singleton_le.mp (pending_le hphase))
    rw [marks_set hphase rfl, (ServerState.peer?_withPeer _ _).2.2]
    unfold ServerState.orInsertPeer at hentry
    split at hentry
    . simpa [VideoPhase.adds?] using hcounted hentry
    . simp only [IndexMap.get?_insert] at hentry
      split at hentry
      . cases hentry
        obtain ⟨hnever, hunmarked⟩ := not_added_of_fresh hs hfresh
        simpa [VideoPhase.adds?, hnever] using hunmarked
      . simpa [VideoPhase.adds?] using hcounted hentry
  | add call peer htrack =>
    have hadds : VideoPhase.adds? results (.addTrack call peer) = some (call.deviceId, peer) := by
      simp [VideoPhase.adds?, htrack, Except.isOk, Except.toBool]
    have hnew : entry.peer ∈ [peer] ↔ peer = entry.peer := by
      rw [List.mem_singleton, eq_comm]
    rw [marks_set hphase rfl, hadds, List.mem_append, hcounted hentry]
    simp only [Option.map_some, Option.toList_some, hnew, VideoPhase.marks?, Option.some.injEq]
    rw [or_assoc, or_comm (b := peer = entry.peer)]
  | mark call peer => simpa [VideoPhase.adds?] using counted_mark hs hphase hentry
  | pass phase next hadds hcreates hpending hnone hpeer =>
    rw [marks_set hphase hnone.1, hadds, hnone.2]
    simpa using hcounted hentry

theorem created_fresh (hphase : h.pool.threads[i]? = some phase)
    (hfresh : h.CreatesFresh (.turn i results)) {created : Nat}
    (hcreates : phase.creates? results = some created)
    : created ∉ h.pending ∧ ∀ deviceId, h.pool.shared.peerOf? deviceId ≠ some created := by
  have hboth := hfresh created (by simp [creates?, hphase, hcreates])
  exact ⟨hboth.1, not_stored_of_fresh _ hboth.2⟩

theorem pending_inserted (hs : h.Sound) {call : VideoCall} {peer : Nat}
    (hphase : h.pool.threads[i]? = some (.insertPeer call peer))
    (hturn : h.pool.shared.TurnsTo results (.insertPeer call peer) r)
    : peer ∈ h.pending ∧ peer ∉ ((h.pool.threads.set i r.2).map VideoPhase.pending).sum := by
  refine ⟨Multiset.singleton_le.mp (pending_le hphase), ?_⟩
  have hset := pending_set hphase r.2
  have hdistinct := hs.distinct
  rw [hturn.pending_insertPeer, add_zero] at hset
  rw [← hset, VideoPhase.pending, add_comm, Multiset.singleton_add, Multiset.nodup_cons]
    at hdistinct
  exact hdistinct.1

theorem distinct_turn (hs : h.Sound) (hphase : h.pool.threads[i]? = some phase)
    (hfresh : h.CreatesFresh (.turn i results))
    (hturn : h.pool.shared.TurnsTo results phase r)
    : ((h.pool.threads.set i r.2).map VideoPhase.pending).sum.Nodup := by
  rcases pending_turn hphase hturn with hle | ⟨created, hcreates, heq⟩
  . exact Multiset.nodup_of_le hle hs.distinct
  . rw [heq, add_comm, Multiset.singleton_add, Multiset.nodup_cons]
    exact ⟨(created_fresh hphase hfresh hcreates).1, hs.distinct⟩

theorem fresh_turn (hs : h.Sound) (hphase : h.pool.threads[i]? = some phase)
    (hfresh : h.CreatesFresh (.turn i results))
    (hturn : h.pool.shared.TurnsTo results phase r) {peer : Nat}
    (hpeer : peer ∈ ((h.pool.threads.set i r.2).map VideoPhase.pending).sum) (deviceId : Uuid)
    : r.1.peerOf? deviceId ≠ some peer := by
  intro hstored
  rcases hturn.peerOf?_cases hstored with hold | ⟨call, rfl, -⟩
  . rcases pending_turn hphase hturn with hle | ⟨created, hcreates, heq⟩
    . exact hs.fresh peer (Multiset.mem_of_le hle hpeer) deviceId hold
    . rw [heq, Multiset.mem_add, Multiset.mem_singleton] at hpeer
      rcases hpeer with hpeer | rfl
      . exact hs.fresh peer hpeer deviceId hold
      . exact (created_fresh hphase hfresh hcreates).2 deviceId hold
  . exact (pending_inserted hs hphase hturn).2 hpeer

theorem injective_turn (hs : h.Sound) (hphase : h.pool.threads[i]? = some phase)
    (hturn : h.pool.shared.TurnsTo results phase r) {d d' : Uuid} {peer : Nat}
    (hd : r.1.peerOf? d = some peer) (hd' : r.1.peerOf? d' = some peer)
    : d = d' := by
  rcases hturn.peerOf?_cases hd with hold | ⟨call, hinsert, rfl⟩
  . rcases hturn.peerOf?_cases hd' with hold' | ⟨call, rfl, rfl⟩
    . exact hs.injective d d' peer hold hold'
    . exact absurd hold (hs.fresh peer (pending_inserted hs hphase hturn).1 d)
  . rcases hturn.peerOf?_cases hd' with hold' | ⟨call', hinsert', rfl⟩
    . subst hinsert
      exact absurd hold' (hs.fresh peer (pending_inserted hs hphase hturn).1 d')
    . rw [hinsert] at hinsert'
      cases hinsert'
      rfl

theorem sound_turn (hs : h.Sound) (hphase : h.pool.threads[i]? = some phase)
    (hfresh : h.CreatesFresh (.turn i results))
    (hturn : h.pool.shared.TurnsTo results phase r)
    : Sound ⟨⟨r.1, h.pool.threads.set i r.2⟩,
        h.added ++ ((phase.adds? results).map Prod.snd).toList⟩ where
  distinct := distinct_turn hs hphase hfresh hturn
  fresh _ hpeer := fresh_turn hs hphase hfresh hturn hpeer
  injective _ _ _ := injective_turn hs hphase hturn
  held phase' hphase' d peer hpeer := by
    rcases List.mem_or_eq_of_mem_set hphase' with hold | rfl
    . exact hturn.keeps (hs.held phase' hold d peer hpeer)
    . exact hturn.held (hs.held phase (List.mem_of_getElem? hphase)) hpeer
  stored peer hpeer := by
    rcases List.mem_append.mp hpeer with hold | hnew
    . obtain ⟨d, hd⟩ := hs.stored peer hold
      exact ⟨d, hturn.keeps hd⟩
    . rw [Option.mem_toList, Option.map_eq_some_iff] at hnew
      obtain ⟨⟨d, q⟩, hadds, rfl⟩ := hnew
      have hheld := hs.held phase (List.mem_of_getElem? hphase) d q (VideoPhase.peer?_of_adds? hadds)
      exact ⟨d, hturn.keeps hheld⟩
  counted _ _ hentry := counted_turn hs hphase hturn hentry

end Turn

theorem Sound.more {h h' : TrackHistory F} (hs : h.Sound) (calls : List VideoCall)
    (hpeers : h'.pool.shared.videoPeers = h.pool.shared.videoPeers) (hadded : h'.added = h.added)
    (hthreads : h'.pool.threads = h.pool.threads ++ calls.map VideoPhase.checkReady)
    : h'.Sound := by
  have hpending : h'.pending = h.pending := by
    have hnone : (calls.map fun call => (VideoPhase.checkReady call).pending).sum = 0 :=
      List.sum_eq_zero (by simp [VideoPhase.pending])
    simp only [pending, hthreads, List.map_append, List.sum_append, List.map_map]
    exact (congrArg _ hnone).trans (add_zero _)
  have hpeerOf : ∀ d, h'.pool.shared.peerOf? d = h.pool.shared.peerOf? d := by
    intro d
    simp only [ServerState.peerOf?, hpeers]
  constructor
  . rw [hpending]
    exact hs.distinct
  . simp only [hpending, hpeerOf]
    exact hs.fresh
  . simp only [hpeerOf]
    exact hs.injective
  . intro phase hphase d q hpeer
    rw [hthreads, List.mem_append, List.mem_map] at hphase
    rcases hphase with hphase | ⟨call, -, rfl⟩
    . rw [hpeerOf]
      exact hs.held phase hphase d q hpeer
    . cases hpeer
  . simp only [hadded, hpeerOf]
    exact hs.stored
  . intro d entry hentry
    rw [hpeers] at hentry
    have hmarks : (∃ phase ∈ h'.pool.threads, phase.marks? = some entry.peer)
        ↔ ∃ phase ∈ h.pool.threads, phase.marks? = some entry.peer := by
      simp [hthreads, or_and_right, exists_or, VideoPhase.marks?]
    rw [hadded, hmarks]
    exact hs.counted d entry hentry

theorem sound_step {h : TrackHistory F} {e : VideoEvent F} (hs : h.Sound)
    (hfresh : h.CreatesFresh e) (hopen : closes e = false)
    : (h.step e).Sound := by
  cases e with
  | call call =>
    exact hs.more [call] rfl (List.append_nil _) rfl
  | turn i results =>
    cases hphase : h.pool.threads[i]? with
    | none =>
      have hstep : h.step (.turn i results) = h := by
        simp [step, adds?, Threads.Machine.step_turn_none _ hphase, hphase]
      rw [hstep]
      exact hs
    | some phase =>
      rw [step_turn hphase]
      exact sound_turn hs hphase hfresh (h.pool.shared.turnsTo_videoTurn phase results)
  | act op =>
    have hpeers : (h.pool.shared.besidesVideo op).videoPeers = h.pool.shared.videoPeers := by
      cases op with
      | createVideoOffer => rfl
      | handleVideoSignal => rfl
      | closeSession => cases hopen
      | _ => exact ServerState.videoPeers_step (by simp) (by simp) (by simp)
    exact hs.more [] hpeers (List.append_nil _) (List.append_nil _).symm

theorem sound_start {s : ServerState F} (hpeers : ∀ deviceId, s.videoPeers.get? deviceId = none)
    : (start s).Sound := by
  have hpeerOf : ∀ d, s.peerOf? d = none := by simp [ServerState.peerOf?, hpeers]
  constructor
  . exact Multiset.nodup_zero
  . intro q hq
    cases Multiset.notMem_zero q hq
  . intro d d' q hd
    rw [start, hpeerOf] at hd
    cases hd
  . intro phase hphase
    cases hphase
  . intro q hq
    cases hq
  . intro d entry hentry
    rw [start, hpeers] at hentry
    cases hentry

theorem oneTrackEach_iff_nodup {h : TrackHistory F} (hs : h.Sound)
    : h.OneTrackEach ↔ h.added.Nodup := by
  rw [List.nodup_iff_count_le_one]
  constructor
  . intro hone q
    by_cases hq : q ∈ h.added
    . obtain ⟨d, hd⟩ := hs.stored q hq
      obtain ⟨entry, hentry, rfl⟩ := Option.map_eq_some_iff.mp hd
      exact hone d entry hentry
    . rw [List.count_eq_zero_of_not_mem hq]
      exact zero_le_one
  . exact fun hcount d entry _ => hcount entry.peer

theorem addsFirst_iff {h : TrackHistory F} (hs : h.Sound) {e : VideoEvent F}
    : h.AddsFirst e ↔ ∀ add ∈ h.adds? e, add.2 ∉ h.added := by
  apply forall₂_congr
  rintro ⟨deviceId, peer⟩ hadd
  obtain ⟨phase, hphase, hadds⟩ : ∃ phase ∈ h.pool.threads, phase.peer? = some (deviceId, peer) := by
    cases e with
    | turn i results =>
      obtain ⟨phase, hphase, hadds⟩ := Option.bind_eq_some_iff.mp hadd
      exact ⟨phase, List.mem_of_getElem? hphase, VideoPhase.peer?_of_adds? hadds⟩
    | call => cases hadd
    | act => cases hadd
  have hstored := hs.held phase hphase deviceId peer hadds
  obtain ⟨entry, hentry, rfl⟩ := Option.map_eq_some_iff.mp hstored
  rw [hs.counted deviceId entry hentry, not_or, not_exists]
  simp [ServerState.needsTrack, hentry]

theorem oneTrackEach_step_iff {h : TrackHistory F} {e : VideoEvent F} (hs : h.Sound)
    (hfresh : h.CreatesFresh e) (hopen : closes e = false) (hone : h.OneTrackEach)
    : (h.step e).OneTrackEach ↔ h.AddsFirst e := by
  rw [oneTrackEach_iff_nodup hs] at hone
  rw [oneTrackEach_iff_nodup (sound_step hs hfresh hopen), addsFirst_iff hs]
  change (h.added ++ ((h.adds? e).map Prod.snd).toList).Nodup ↔ _
  cases hadds : h.adds? e with
  | none => simpa using hone
  | some add =>
    simp only [Option.map_some, Option.toList_some, Option.mem_def, Option.some.injEq, forall_eq']
    rw [List.nodup_append_comm, List.singleton_append, List.nodup_cons, and_iff_left hone]

theorem oneTrackEach_run_iff {s : ServerState F}
    (hpeers : ∀ deviceId, s.videoPeers.get? deviceId = none) {es : List (VideoEvent F)}
    (hes : Run.AllSteps step (fun h e => h.CreatesFresh e ∧ closes e = false) (start s) es)
    : Run.AllStates step OneTrackEach (start s) es ↔ Run.AllSteps step AddsFirst (start s) es := by
  apply Run.allStates_iff_allSteps_under (I := Sound) _ _ (sound_start hpeers) _ hes
  . exact fun h e hs he => sound_step hs he.1 he.2
  . exact fun h e hs he hone => oneTrackEach_step_iff hs he.1 he.2 hone
  . exact (oneTrackEach_iff_nodup (sound_start hpeers)).mpr List.nodup_nil

open ServerState (videoWorks)

def offersInTurn : List (VideoEvent Floats.rational) :=
  Registry.videoHandshake.map .act ++ [.call (.createVideoOffer 7)]
    ++ List.replicate 8 (.turn 0 videoWorks) ++ [.call (.createVideoOffer 7)]
    ++ List.replicate 5 (.turn 1 videoWorks)

theorem oneTrackEach_run_iff_offersInTurn
    : Run.AllStates step OneTrackEach (start (.new .default)) offersInTurn := by
  refine (oneTrackEach_run_iff ?_ ?_).mpr ?_
  . intro deviceId
    rfl
  . decide
  . decide

def offersAtOnce : List (VideoEvent Floats.rational) :=
  Registry.videoHandshake.map .act ++ [.call (.createVideoOffer 7), .call (.createVideoOffer 7)]
    ++ List.replicate 4 (.turn 0 videoWorks) ++ List.replicate 2 (.turn 1 videoWorks)
    ++ [.turn 0 videoWorks, .turn 1 videoWorks, .turn 0 videoWorks, .turn 1 videoWorks]

/--
Both calls read the flag before one of them has set it.
-/
theorem oneTrackEach_fails
    : ¬ ∀ (s : ServerState Floats.rational) (es : List (VideoEvent Floats.rational)),
        (∀ deviceId, s.videoPeers.get? deviceId = none)
          → Run.AllSteps step (fun h e => h.CreatesFresh e ∧ closes e = false) (start s) es
          → Run.AllStates step OneTrackEach (start s) es := by
  intro h
  have hall := h (.new .default) offersAtOnce (fun _ => rfl) (by decide)
  have hone := hall.last 7 ⟨1, false⟩ (by decide)
  exact absurd hone (by decide)

end TrackHistory

end MotionStage
