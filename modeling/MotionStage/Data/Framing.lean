import Mathlib.Algebra.Group.Nat.Defs
import Mathlib.Data.List.Basic
import Mathlib.Tactic.Common

/-!
This module contains frames on a byte stream: a payload behind its length in four bytes, and the
reader that takes a frame off a stream whose bytes arrive in pieces.
-/

namespace Framing

/--
The lower 32 bits of a number, the least significant byte first.
-/
def toLeBytes (n : Nat) : List UInt8 :=
  [.ofNat n, .ofNat (n / 2 ^ 8), .ofNat (n / 2 ^ 16), .ofNat (n / 2 ^ 24)]

def fromLeBytes : List UInt8 → Nat
  | [] => 0
  | b :: bs => b.toNat + 2 ^ 8 * fromLeBytes bs

@[simp]
theorem length_toLeBytes (n : Nat) : (toLeBytes n).length = 4 := rfl

theorem fromLeBytes_toLeBytes (n : Nat) : fromLeBytes (toLeBytes n) = n % 2 ^ 32 := by
  simp only [toLeBytes, fromLeBytes, UInt8.toNat_ofNat']
  omega

def frame (payload : List UInt8) : List UInt8 := toLeBytes payload.length ++ payload

theorem frame_unique {payload head body rest tail : List UInt8} (hlen : payload.length < 2 ^ 32)
    (hhead : head.length = 4) (hbody : body.length = fromLeBytes head)
    (h : head ++ body ++ rest = frame payload ++ tail)
    : body = payload ∧ rest = tail := by
  rw [frame, List.append_assoc, List.append_assoc] at h
  obtain ⟨rfl, hrest⟩ := List.append_inj h (by simp [hhead])
  rw [fromLeBytes_toLeBytes, Nat.mod_eq_of_lt hlen] at hbody
  exact List.append_inj hrest hbody

/--
A read of one frame that is under way: it holds less than the length, or the length and less than
the payload.
-/
inductive Reader where
  | length (taken : List UInt8) (h : taken.length < 4)
  | payload (head taken : List UInt8) (hhead : head.length = 4) (h : taken.length < fromLeBytes head)

namespace Reader

def start : Reader := .length [] (by decide)

def taken : Reader → List UInt8
  | .length taken _ => taken
  | .payload head taken _ _ => head ++ taken

end Reader

inductive Poll where
  | pending (r : Reader)
  | ready (payload : List UInt8)

namespace Reader

/--
Go on with the payload of a frame. Returns the bytes that stay on the stream, too.
-/
def pollPayload (head : List UInt8) (hhead : head.length = 4) (taken buffer : List UInt8)
    : Poll × List UInt8 :=
  let missing := fromLeBytes head - taken.length
  if h : (taken ++ buffer.take missing).length < fromLeBytes head then
    (.pending (.payload head (taken ++ buffer.take missing) hhead h), buffer.drop missing)
  else
    (.ready (taken ++ buffer.take missing), buffer.drop missing)

/--
Take what is missing off the stream, as far as it is there.
-/
def poll : Reader → List UInt8 → Poll × List UInt8
  | .length taken htaken, buffer =>
    let missing := 4 - taken.length
    if h : (taken ++ buffer.take missing).length < 4 then
      (.pending (.length (taken ++ buffer.take missing) h), buffer.drop missing)
    else
      have hhead : (taken ++ buffer.take missing).length = 4 := by
        simp only [List.length_append, List.length_take, missing] at h ⊢
        omega
      pollPayload (taken ++ buffer.take missing) hhead [] (buffer.drop missing)
  | .payload head taken hhead _, buffer => pollPayload head hhead taken buffer

theorem length_le_of_short {taken buffer : List UInt8} {n : Nat}
    (h : (taken ++ buffer.take (n - taken.length)).length < n)
    : buffer.length ≤ n - taken.length := by
  simp only [List.length_append, List.length_take] at h
  omega

theorem pollPayload_spec {head : List UInt8} (hhead : head.length = 4) {taken : List UInt8}
    (htaken : taken.length ≤ fromLeBytes head) (buffer : List UInt8)
    : (∃ r, pollPayload head hhead taken buffer = (.pending r, [])
        ∧ r.taken = head ++ taken ++ buffer)
        ∨
      (∃ payload rest, pollPayload head hhead taken buffer = (.ready payload, rest)
        ∧ payload.length = fromLeBytes head ∧ head ++ taken ++ buffer = head ++ payload ++ rest) := by
  simp only [pollPayload]
  split
  . next h =>
    left
    have hshort := length_le_of_short h
    rw [List.drop_eq_nil_of_le hshort]
    refine ⟨_, rfl, ?_⟩
    simp [Reader.taken, List.take_of_length_le hshort]
  . next h =>
    right
    refine ⟨_, _, rfl, ?_, by simp⟩
    simp only [List.length_append, List.length_take] at h ⊢
    omega

theorem poll_spec (r : Reader) (buffer : List UInt8)
    : (∃ r', r.poll buffer = (.pending r', []) ∧ r'.taken = r.taken ++ buffer)
        ∨
      (∃ head payload rest, r.poll buffer = (.ready payload, rest)
        ∧ head.length = 4 ∧ payload.length = fromLeBytes head
        ∧ r.taken ++ buffer = head ++ payload ++ rest) := by
  cases r with
  | payload head taken hhead htaken =>
    rcases pollPayload_spec hhead (Nat.le_of_lt htaken) buffer with h | ⟨payload, rest, h, hlength, hsplit⟩
    . exact .inl h
    . exact .inr ⟨head, payload, rest, h, hhead, hlength, hsplit⟩
  | length taken htaken =>
    simp only [poll]
    split
    . next h =>
      left
      have hshort := length_le_of_short h
      rw [List.drop_eq_nil_of_le hshort]
      refine ⟨_, rfl, ?_⟩
      simp [Reader.taken, List.take_of_length_le hshort]
    . next h =>
      have hhead : (taken ++ buffer.take (4 - taken.length)).length = 4 := by
        simp only [List.length_append, List.length_take] at h ⊢
        omega
      have hall : taken ++ buffer.take (4 - taken.length) ++ [] ++ buffer.drop (4 - taken.length)
          = taken ++ buffer := by simp
      have hnone : ([] : List UInt8).length
          ≤ fromLeBytes (taken ++ buffer.take (4 - taken.length)) := Nat.zero_le _
      rcases pollPayload_spec hhead hnone (buffer.drop (4 - taken.length)) with
        ⟨r, h, htaken'⟩ | ⟨payload, rest, h, hlength, hsplit⟩
      . exact .inl ⟨r, h, htaken'.trans hall⟩
      . exact .inr ⟨_, payload, rest, h, hhead, hlength, hall.symm.trans hsplit⟩

end Reader

def frames (payloads : List (List UInt8)) : List UInt8 := (payloads.map frame).flatten

theorem frames_concat (payloads : List (List UInt8)) (payload : List UInt8)
    : frames (payloads ++ [payload]) = frames payloads ++ frame payload := by
  simp [frames]

namespace Reader

theorem poll_frames {r : Reader} {buffer rest : List UInt8} {payloads : List (List UInt8)}
    (hlen : ∀ payload ∈ payloads, payload.length < 2 ^ 32)
    (h : r.taken ++ buffer ++ rest = frames payloads)
    : (∃ r', r.poll buffer = (.pending r', []) ∧ r'.taken = r.taken ++ buffer)
        ∨
      (∃ payload payloads' buffer', payloads = payload :: payloads'
        ∧ r.poll buffer = (.ready payload, buffer') ∧ buffer' ++ rest = frames payloads') := by
  rcases r.poll_spec buffer with hpending | ⟨head, body, buffer', hready, hhead, hbody, hsplit⟩
  . exact .inl hpending
  . right
    rw [hsplit, List.append_assoc] at h
    cases payloads with
    | nil =>
      have hnil := congrArg List.length h
      simp [frames, hhead] at hnil
    | cons payload payloads =>
      obtain ⟨rfl, hrest⟩ := frame_unique (hlen payload List.mem_cons_self) hhead hbody h
      exact ⟨body, payloads, buffer', rfl, hready, hrest⟩

theorem eq_nil_of_taken_eq {r : Reader} {payloads : List (List UInt8)}
    (hlen : ∀ payload ∈ payloads, payload.length < 2 ^ 32) (h : r.taken = frames payloads)
    : payloads = [] := by
  cases payloads with
  | nil => rfl
  | cons payload payloads =>
    have hpayload := hlen payload List.mem_cons_self
    cases r with
    | length taken htaken =>
      have hlength := congrArg List.length (show taken = frame payload ++ frames payloads from h)
      simp only [frame, List.length_append, length_toLeBytes] at hlength
      omega
    | payload head taken hhead htaken =>
      have hsplit : head ++ taken = frame payload ++ frames payloads := h
      rw [frame, List.append_assoc] at hsplit
      obtain ⟨rfl, rfl⟩ := List.append_inj hsplit (by simp [hhead])
      rw [fromLeBytes_toLeBytes, Nat.mod_eq_of_lt hpayload, List.length_append] at htaken
      omega

end Reader

end Framing
