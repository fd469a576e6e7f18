import MotionStage.Data.Framing

/-!
This module contains frames in a file, whose bytes are all there at once: the split of a byte string
into the frames that are complete and the rest, and what cutting the file off makes of it.
-/

namespace Framing

/--
The payload of the frame at the front and the bytes behind it, if the frame is complete.
-/
def next? (bytes : List UInt8) : Option (List UInt8 × List UInt8) :=
  let size := fromLeBytes (bytes.take 4)
  if 4 + size ≤ bytes.length then
    some ((bytes.drop 4).take size, bytes.drop (4 + size))
  else
    none

theorem next?_eq_some {bytes payload rest : List UInt8} (h : next? bytes = some (payload, rest))
    : payload.length = fromLeBytes (bytes.take 4)
        ∧ 4 + payload.length ≤ bytes.length
        ∧ rest = bytes.drop (4 + payload.length) := by
  unfold next? at h
  dsimp only at h
  split at h
  . next hsize =>
    cases h
    have hlength : ((bytes.drop 4).take (fromLeBytes (bytes.take 4))).length
        = fromLeBytes (bytes.take 4) := by
      simp only [List.length_take, List.length_drop]
      omega
    rw [hlength]
    exact ⟨rfl, hsize, rfl⟩
  . cases h

theorem payload_of_next? {bytes payload rest : List UInt8} (h : next? bytes = some (payload, rest))
    : payload = (bytes.drop 4).take payload.length := by
  obtain ⟨hsize, -, -⟩ := next?_eq_some h
  unfold next? at h
  dsimp only at h
  split at h
  . cases h
    rw [hsize]
  . cases h

theorem length_frame (payload : List UInt8) : (frame payload).length = 4 + payload.length := by
  simp [frame]

theorem take_frame_append (payload rest : List UInt8)
    : (frame payload ++ rest).take 4 = toLeBytes payload.length := by
  rw [frame, List.append_assoc]
  rfl

theorem next?_frame_append {payload : List UInt8} (hlen : payload.length < 2 ^ 32)
    (rest : List UInt8)
    : next? (frame payload ++ rest) = some (payload, rest) := by
  unfold next?
  dsimp only
  rw [take_frame_append, fromLeBytes_toLeBytes, Nat.mod_eq_of_lt hlen]
  rw [if_pos]
  . have hdrop : (frame payload ++ rest).drop (4 + payload.length) = rest := by
      rw [← length_frame]
      exact List.drop_left
    have hbody : (frame payload ++ rest).drop 4 = payload ++ rest := by
      rw [frame, List.append_assoc]
      rfl
    rw [hdrop, hbody, List.take_left]
  . rw [List.length_append, length_frame]
    omega

theorem next?_take_frame {payload : List UInt8} (hlen : payload.length < 2 ^ 32)
    (rest : List UInt8) {k : Nat} (hk : k < (frame payload).length)
    : next? ((frame payload ++ rest).take k) = none := by
  unfold next?
  dsimp only
  rw [if_neg]
  rw [length_frame] at hk
  have hshort : ((frame payload ++ rest).take k).length = k := by
    simp only [List.length_take, List.length_append, length_frame]
    omega
  rw [hshort]
  by_cases hhead : k < 4
  . omega
  . rw [List.take_take, Nat.min_eq_left (by omega), take_frame_append, fromLeBytes_toLeBytes,
      Nat.mod_eq_of_lt hlen]
    omega

/--
The payloads of the complete frames, and the bytes that are left over.
-/
def split (bytes : List UInt8) : List (List UInt8) × List UInt8 :=
  match _h : next? bytes with
  | none => ([], bytes)
  | some (payload, rest) => (payload :: (split rest).1, (split rest).2)
termination_by bytes.length
decreasing_by
  all_goals
    obtain ⟨-, hlength, hrest⟩ := next?_eq_some _h
    rw [hrest, List.length_drop]
    omega

theorem split_of_none {bytes : List UInt8} (h : next? bytes = none) : split bytes = ([], bytes) := by
  unfold split
  split
  . rfl
  . next hsome =>
    rw [h] at hsome
    cases hsome

theorem split_of_some {bytes payload rest : List UInt8} (h : next? bytes = some (payload, rest))
    : split bytes = (payload :: (split rest).1, (split rest).2) := by
  conv => lhs; unfold split
  split
  . next hnone =>
    rw [h] at hnone
    cases hnone
  . next hsome =>
    rw [h] at hsome
    cases hsome
    rfl

theorem next?_of_split_eq_cons {bytes payload : List UInt8} {payloads : List (List UInt8)}
    (h : (split bytes).1 = payload :: payloads)
    : ∃ rest, next? bytes = some (payload, rest) ∧ (split rest).1 = payloads := by
  cases hnext : next? bytes with
  | none =>
    rw [split_of_none hnext] at h
    cases h
  | some next =>
    obtain ⟨payload', rest⟩ := next
    rw [split_of_some hnext] at h
    cases h
    exact ⟨rest, rfl, rfl⟩

theorem split_frame_append {payload : List UInt8} (hlen : payload.length < 2 ^ 32)
    (rest : List UInt8)
    : split (frame payload ++ rest) = (payload :: (split rest).1, (split rest).2) := by
  apply split_of_some
  exact next?_frame_append hlen rest

theorem split_frames_append {payloads : List (List UInt8)}
    (hlen : ∀ payload ∈ payloads, payload.length < 2 ^ 32) (rest : List UInt8)
    : split (frames payloads ++ rest) = (payloads ++ (split rest).1, (split rest).2) := by
  induction payloads with
  | nil => rfl
  | cons payload payloads ih =>
    have hframes : frames (payload :: payloads) = frame payload ++ frames payloads := rfl
    rw [hframes, List.append_assoc, split_frame_append (hlen payload List.mem_cons_self)]
    rw [ih fun p hp => hlen p (List.mem_cons_of_mem _ hp), List.cons_append]

theorem split_frames {payloads : List (List UInt8)}
    (hlen : ∀ payload ∈ payloads, payload.length < 2 ^ 32)
    : split (frames payloads) = (payloads, []) := by
  have hnil : split [] = ([], []) := split_of_none rfl
  have := split_frames_append hlen []
  rwa [hnil, List.append_nil, List.append_nil] at this

theorem length_split_take_lt {payloads : List (List UInt8)}
    (hlen : ∀ payload ∈ payloads, payload.length < 2 ^ 32) (rest : List UInt8) {k : Nat}
    (hk : k < (frames payloads).length)
    : (split ((frames payloads ++ rest).take k)).1.length < payloads.length := by
  induction payloads generalizing k with
  | nil => cases hk
  | cons payload payloads ih =>
    have hpayload := hlen payload List.mem_cons_self
    have hframes : frames (payload :: payloads) = frame payload ++ frames payloads := rfl
    rw [hframes, List.length_append] at hk
    rw [hframes, List.append_assoc]
    by_cases hcut : k < (frame payload).length
    . rw [split_of_none (next?_take_frame hpayload _ hcut)]
      simp
    . rw [List.take_append, List.take_of_length_le (by omega), split_frame_append hpayload]
      have := ih (fun p hp => hlen p (List.mem_cons_of_mem _ hp))
        (k := k - (frame payload).length) (by omega)
      simpa using this

def ends (start : Nat) : List (List UInt8) → List Nat
  | [] => []
  | payload :: payloads =>
    (start + (frame payload).length) :: ends (start + (frame payload).length) payloads

def starts (start : Nat) : List (List UInt8) → List Nat
  | [] => []
  | payload :: payloads => start :: starts (start + (frame payload).length) payloads

def before {α : Type} (cut : Nat) (xs : List α) (positions : List Nat) : List α :=
  ((xs.zip positions).filter fun p => p.2 ≤ cut).map Prod.fst

theorem before_cons {α : Type} (cut : Nat) (x : α) (xs : List α) (position : Nat)
    (positions : List Nat)
    : before cut (x :: xs) (position :: positions)
        =
      if position ≤ cut then x :: before cut xs positions else before cut xs positions := by
  unfold before
  rw [List.zip_cons_cons, List.filter_cons]
  by_cases h : position ≤ cut <;> simp [h]

theorem before_eq_nil {α : Type} {cut : Nat} {positions : List Nat}
    (h : ∀ position ∈ positions, cut < position) (xs : List α)
    : before cut xs positions = [] := by
  unfold before
  rw [List.map_eq_nil_iff, List.filter_eq_nil_iff]
  rintro ⟨x, position⟩ hmem
  have := h position (List.of_mem_zip hmem).2
  simp only [decide_eq_true_eq]
  omega

theorem forall₂_before {α β : Type} {R : α → β → Prop} {xs : List α} {ys : List β}
    (h : List.Forall₂ R xs ys) (cut : Nat) (positions : List Nat)
    : List.Forall₂ R (before cut xs positions) (before cut ys positions) := by
  induction h generalizing positions with
  | nil => exact .nil
  | cons hxy _ ih =>
    cases positions with
    | nil => exact .nil
    | cons position positions =>
      rw [before_cons, before_cons]
      split
      . exact .cons hxy (ih positions)
      . exact ih positions

theorem lt_of_mem_ends {start position : Nat} {payloads : List (List UInt8)}
    (h : position ∈ ends start payloads)
    : start < position := by
  induction payloads generalizing start with
  | nil => cases h
  | cons payload payloads ih =>
    rcases List.mem_cons.mp h with rfl | h
    . rw [length_frame]
      omega
    . have := ih h
      omega

theorem split_take_frames {payloads : List (List UInt8)}
    (hlen : ∀ payload ∈ payloads, payload.length < 2 ^ 32) (start k : Nat)
    : (split ((frames payloads).take k)).1 = before (start + k) payloads (ends start payloads) := by
  induction payloads generalizing start k with
  | nil =>
    have hnone : next? [] = none := rfl
    simp [frames, split_of_none hnone, before]
  | cons payload payloads ih =>
    have hpayload := hlen payload List.mem_cons_self
    have hframes : frames (payload :: payloads) = frame payload ++ frames payloads := rfl
    rw [ends, before_cons, hframes]
    by_cases hk : (frame payload).length ≤ k
    . rw [if_pos (by omega), List.take_append, List.take_of_length_le hk,
        split_frame_append hpayload]
      rw [ih (fun p hp => hlen p (List.mem_cons_of_mem _ hp)) (start + (frame payload).length)]
      have hcut : start + (frame payload).length + (k - (frame payload).length) = start + k := by
        omega
      rw [hcut]
    . rw [if_neg (by omega), split_of_none (next?_take_frame hpayload _ (by omega))]
      rw [before_eq_nil]
      intro position hposition
      have := lt_of_mem_ends hposition
      omega

end Framing
