import MotionStage.Client.Handshake
import MotionStage.Server.Dialogue

/-!
This module contains a session of the Swift client in which the mode is set: `set_mode` sends its
request and takes the next reply, and gives up if none comes in time. The reply that it has not
waited for stays on the stream.
-/

namespace MotionStage

variable {F : Floats}

namespace SwiftSdk

def parseMode : Int → Option Mode
  | 0 => some .idle
  | 1 => some .live
  | 2 => some .recording
  | _ => none

def activeModeToI32 : Mode → Int
  | .idle => 0
  | .live => 1
  | .recording => 2

/--
The loop of `set_mode` on a message: the reply that ends it, or none for a message to pass over.
-/
def modeResult : ControlMessage → Option (Except (RejectCode × String) Int)
  | .modeState activeMode => some (.ok (activeModeToI32 activeMode))
  | .error code reason => some (.error (code, reason))
  | _ => none

/--
A `set_mode` that has got a reply: the number of its request in the session, how many calls before
it have been given up, and the message that it took with its number among those of the handler.
-/
structure SetModeReturn where
  request : Nat
  abandoned : Nat
  answers : Nat
  message : ControlMessage
  result : Except (RejectCode × String) Int
  deriving DecidableEq

end SwiftSdk

/--
A session of the Swift client. `requests` are the modes of all requests that have been sent, `read`
is the number of messages that the client has taken, `awaiting` is the request that a call is at.
-/
structure SwiftSession (F : Floats) where
  dialogue : Dialogue F
  toServer : List ControlMessage
  requests : List Mode
  read : Nat
  awaiting : Option Nat
  abandoned : Nat
  returned : List SwiftSdk.SetModeReturn

inductive SwiftEvent (F : Floats) where
  /-- `set_mode` with a mode that it accepts sends its request -/
  | setMode (requestedMode : Int)
  /-- the next message of the handler comes in -/
  | receive
  /-- the call has waited for `MODE_REPLY_TIMEOUT`, or the stream has failed -/
  | giveUp
  /-- what the call makes of a frame of which bytes are missing -/
  | garbled (message : ControlMessage)
  /-- the handler takes the next request -/
  | recv
  /-- what the handler makes of a frame of which bytes are missing -/
  | recvGarbled (message : ControlMessage)
  | lose (e : String)
  | transport (result : Except String Unit)
  | datagram (datagram : Except String (ServerState.MotionDatagram F))
  | run (nowNs : Nat) (fresh : Uuid) (results : WebRtcResults)
  /-- something else calls the server -/
  | server (op : ServerOp F)

def SwiftEvent.whole : SwiftEvent F → Bool
  | .garbled _ | .recvGarbled _ => false
  | _ => true

namespace SwiftSession

open SwiftSdk

def start (hello : ClientHello) (s : ServerState F) : SwiftSession F :=
  ⟨.start hello s, [], [], 0, none, 0, []⟩

def react (l : SwiftSession F) (e : PeerEvent F) : SwiftSession F :=
  { l with dialogue := l.dialogue.step (.peer e) }

def look (l : SwiftSession F) (request : Nat) (message : ControlMessage) : SwiftSession F :=
  match modeResult message with
  | none => l
  | some result =>
    { l with
      awaiting := none
      returned := l.returned ++ [⟨request, l.abandoned, l.read, message, result⟩] }

def step (l : SwiftSession F) : SwiftEvent F → SwiftSession F
  | .setMode requestedMode =>
    match l.awaiting, parseMode requestedMode with
    | none, some mode =>
      { l with
        toServer := l.toServer ++ [.setMode mode]
        requests := l.requests ++ [mode]
        awaiting := some l.requests.length }
    | _, _ => l
  | .receive =>
    match l.awaiting, l.dialogue.sent[l.read]? with
    | some request, some message => { l.look request message with read := l.read + 1 }
    | _, _ => l
  | .giveUp =>
    match l.awaiting with
    | some _ => { l with awaiting := none, abandoned := l.abandoned + 1 }
    | none => l
  | .garbled message =>
    match l.awaiting with
    | some request => l.look request message
    | none => l
  | .recv =>
    match l.dialogue.phase.selecting, l.toServer with
    | true, message :: toServer => { l.react (.received (.ok message)) with toServer := toServer }
    | _, _ => l
  | .recvGarbled message => l.react (.received (.ok message))
  | .lose e => l.react (.received (.error e))
  | .transport result => l.react (.transport result)
  | .datagram datagram => l.react (.datagram datagram)
  | .run nowNs fresh results => l.react (.run nowNs fresh results)
  | .server op => { l with dialogue := l.dialogue.step (.server op) }

/--
The message that a call has returned is the answer to the request that was sent as many calls
earlier as calls have been given up.
-/
structure Lags (hello : ClientHello) (requests : List Mode) (ret : SetModeReturn) : Prop where
  behind : ret.answers + ret.abandoned = ret.request
  answer : ∃ mode, requests[ret.answers]? = some mode
    ∧ Answers hello (.setMode mode) [ret.message]

structure Sound (hello : ClientHello) (l : SwiftSession F) : Prop where
  talks : Talks hello l.dialogue.phase l.dialogue.taken l.dialogue.sent
  posted : l.dialogue.taken ++ l.toServer = l.requests.map .setMode
  quiet : l.awaiting = none → l.read + l.abandoned = l.requests.length
  waiting : ∀ request, l.awaiting = some request →
    l.read + l.abandoned = request ∧ l.requests.length = request + 1
  returned : ∀ ret ∈ l.returned, Lags hello l.requests ret

variable {hello : ClientHello} {l : SwiftSession F}

theorem sound_start (hello : ClientHello) (s : ServerState F) : Sound hello (start hello s) where
  talks := .select [] [] .nil
  posted := rfl
  quiet := fun _ => rfl
  waiting := nofun
  returned := nofun

theorem single_of_setMode {mode : Mode} {answer : List ControlMessage}
    (h : Answers hello (.setMode mode) answer)
    : answer.length = 1 := by
  cases h with
  | baseline message action changed hrole haction => cases haction
  | _ => rfl

theorem modeResult_isSome {mode : Mode} {message : ControlMessage}
    (h : Answers hello (.setMode mode) [message])
    : (modeResult message).isSome = true := by
  cases h with
  | baseline message action changed hrole haction => cases haction
  | _ => rfl

theorem Sound.answer (h : Sound hello l) {n : Nat} {message : ControlMessage}
    (hmessage : l.dialogue.sent[n]? = some message)
    : ∃ mode, l.requests[n]? = some mode ∧ Answers hello (.setMode mode) [message] := by
  have hposted : ∀ m ∈ l.dialogue.taken, ∃ mode, m = .setMode mode := by
    intro m hm
    have hmem : m ∈ l.requests.map ControlMessage.setMode := h.posted ▸ List.mem_append_left _ hm
    obtain ⟨mode, -, rfl⟩ := List.mem_map.mp hmem
    exact ⟨mode, rfl⟩
  obtain ⟨taken, htaken, hanswers⟩ := h.talks.inOrder.getElem?
    (by
      rintro m hm answer hanswer
      obtain ⟨mode, rfl⟩ := hposted m hm
      exact single_of_setMode hanswer)
    hmessage
  obtain ⟨hn, rfl⟩ := List.getElem?_eq_some_iff.mp htaken
  have hrequest : (l.requests.map ControlMessage.setMode)[n]? = some l.dialogue.taken[n] := by
    rw [← h.posted, List.getElem?_append_left hn, htaken]
  rw [List.getElem?_map, Option.map_eq_some_iff] at hrequest
  obtain ⟨mode, hmode, heq⟩ := hrequest
  exact ⟨mode, hmode, heq ▸ hanswers⟩

theorem sound_react (h : Sound hello l) {e : PeerEvent F}
    (hmessage : ∀ message, e ≠ .received (.ok message))
    : Sound hello (l.react e) := by
  have htaken : (l.react e).dialogue.taken = l.dialogue.taken := by
    cases e with
    | received message =>
      cases message with
      | ok message => exact absurd rfl (hmessage message)
      | error e => exact List.append_nil _
    | _ => exact List.append_nil _
  refine ⟨Dialogue.talks_step h.talks (.peer e), ?_, h.quiet, h.waiting, h.returned⟩
  rw [htaken]
  exact h.posted

theorem sound_setMode (h : Sound hello l) (mode : Mode) (hawaiting : l.awaiting = none)
    : Sound hello { l with
        toServer := l.toServer ++ [.setMode mode]
        requests := l.requests ++ [mode]
        awaiting := some l.requests.length } := by
  refine ⟨h.talks, ?_, nofun, ?_, ?_⟩
  . show l.dialogue.taken ++ (l.toServer ++ [.setMode mode]) = (l.requests ++ [mode]).map .setMode
    rw [← List.append_assoc, h.posted, List.map_append]
    rfl
  . rintro request ⟨⟩
    exact ⟨h.quiet hawaiting, by simp⟩
  . intro ret hret
    obtain ⟨hbehind, earlier, hrequest, hanswer⟩ := h.returned ret hret
    refine ⟨hbehind, earlier, ?_, hanswer⟩
    exact (List.getElem?_append_left (List.getElem?_eq_some_iff.mp hrequest).1).trans hrequest

theorem sound_giveUp (h : Sound hello l) {request : Nat} (hawaiting : l.awaiting = some request)
    : Sound hello { l with awaiting := none, abandoned := l.abandoned + 1 } := by
  obtain ⟨hread, hlength⟩ := h.waiting request hawaiting
  refine ⟨h.talks, h.posted, fun _ => ?_, nofun, h.returned⟩
  show l.read + (l.abandoned + 1) = l.requests.length
  omega

theorem sound_receive (h : Sound hello l) {request : Nat} (hawaiting : l.awaiting = some request)
    {message : ControlMessage} (hmessage : l.dialogue.sent[l.read]? = some message)
    : Sound hello { l.look request message with read := l.read + 1 } := by
  obtain ⟨hread, hlength⟩ := h.waiting request hawaiting
  obtain ⟨mode, hmode, hanswer⟩ := h.answer hmessage
  obtain ⟨result, hresult⟩ := Option.isSome_iff_exists.mp (modeResult_isSome hanswer)
  simp only [look, hresult]
  refine ⟨h.talks, h.posted, fun _ => ?_, nofun, ?_⟩
  . show l.read + 1 + l.abandoned = l.requests.length
    omega
  . intro ret hret
    rcases List.mem_append.mp hret with hret | hret
    . exact h.returned ret hret
    . rw [List.mem_singleton.mp hret]
      exact ⟨hread, mode, hmode, hanswer⟩

theorem sound_recv (h : Sound hello l) {message : ControlMessage} {toServer : List ControlMessage}
    (hselecting : l.dialogue.phase.selecting = true) (htoServer : l.toServer = message :: toServer)
    : Sound hello { l.react (.received (.ok message)) with toServer := toServer } := by
  refine ⟨Dialogue.talks_step h.talks (.peer (.received (.ok message))), ?_, h.quiet, h.waiting,
    h.returned⟩
  show l.dialogue.taken ++ (if l.dialogue.phase.selecting then [message] else []) ++ toServer
    = l.requests.map .setMode
  rw [if_pos hselecting, List.append_assoc, ← h.posted, htoServer]
  rfl

theorem sound_step (h : Sound hello l) {e : SwiftEvent F} (he : e.whole = true)
    : Sound hello (l.step e) := by
  cases e with
  | setMode requestedMode =>
    simp only [step]
    split
    . next hawaiting hmode => exact sound_setMode h _ hawaiting
    . exact h
  | receive =>
    simp only [step]
    split
    . next hawaiting hmessage => exact sound_receive h hawaiting hmessage
    . exact h
  | giveUp =>
    simp only [step]
    split
    . next hawaiting => exact sound_giveUp h hawaiting
    . exact h
  | garbled message => cases he
  | recv =>
    simp only [step]
    split
    . next hselecting htoServer => exact sound_recv h hselecting htoServer
    . exact h
  | recvGarbled message => cases he
  | lose e => exact sound_react h nofun
  | transport result => exact sound_react h nofun
  | datagram datagram => exact sound_react h nofun
  | run nowNs fresh results => exact sound_react h nofun
  | server op =>
    have hposted : l.dialogue.taken ++ [] ++ l.toServer = l.requests.map .setMode := by
      rw [List.append_nil, h.posted]
    exact ⟨Dialogue.talks_step h.talks (.server op), hposted, h.quiet, h.waiting, h.returned⟩

end SwiftSession

end MotionStage
