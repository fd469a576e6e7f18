import Mathlib.Data.List.Forall2
import Mathlib.Tactic.Common

/-!
This module contains the exchange with a party that deals with one message at a time: what it sends
is a row of answers, in the order of the messages.
-/

namespace Exchange

variable {α β : Type} (Answers : α → List β → Prop)

inductive Replied : List α → List β → Prop where
  | nil : Replied [] []
  | concat {taken : List α} {sent : List β} {message : α} {answer : List β}
    (h : Replied taken sent) (hanswer : Answers message answer)
    : Replied (taken ++ [message]) (sent ++ answer)

/--
Every message but the last one has been answered, and the answer to that one has begun.
-/
inductive Replying : List α → List β → Prop where
  | part {taken : List α} {sent : List β} {message : α} {answer earlier : List β}
    (h : Replied Answers taken sent) (hanswer : Answers message answer) (hpart : earlier <+: answer)
    : Replying (taken ++ [message]) (sent ++ earlier)

def InOrder (taken : List α) (sent : List β) : Prop :=
  Replied Answers taken sent ∨ Replying Answers taken sent

variable {Answers} {taken : List α} {sent : List β}

theorem Replied.forall₂
    (hsingle : ∀ message ∈ taken, ∀ answer, Answers message answer → answer.length = 1)
    (h : Replied Answers taken sent)
    : List.Forall₂ (fun message reply => Answers message [reply]) taken sent := by
  induction h with
  | nil => exact .nil
  | @concat taken sent message answer h hanswer ih =>
    obtain ⟨reply, rfl⟩ :=
      List.length_eq_one_iff.mp (hsingle message (by simp) answer hanswer)
    refine List.rel_append (ih ?_) (.cons hanswer .nil)
    exact fun message hmem => hsingle message (List.mem_append_left _ hmem)

theorem InOrder.forall₂
    (hsingle : ∀ message ∈ taken, ∀ answer, Answers message answer → answer.length = 1)
    (h : InOrder Answers taken sent)
    : ∃ answered, answered <+: taken
        ∧ List.Forall₂ (fun message reply => Answers message [reply]) answered sent := by
  rcases h with h | ⟨h, hanswer, hpart⟩
  . exact ⟨taken, List.prefix_rfl, h.forall₂ hsingle⟩
  . next taken sent message answer earlier =>
    have hall := h.forall₂ fun message hmem => hsingle message (List.mem_append_left _ hmem)
    obtain ⟨reply, rfl⟩ := List.length_eq_one_iff.mp (hsingle message (by simp) answer hanswer)
    rcases List.prefix_cons_iff.mp hpart with rfl | ⟨rest, rfl, hrest⟩
    . exact ⟨taken, List.prefix_append taken _, by rwa [List.append_nil]⟩
    . rw [List.prefix_nil.mp hrest]
      exact ⟨taken ++ [message], List.prefix_rfl, List.rel_append hall (.cons hanswer .nil)⟩

theorem InOrder.getElem?
    (hsingle : ∀ message ∈ taken, ∀ answer, Answers message answer → answer.length = 1)
    (h : InOrder Answers taken sent) {n : Nat} {reply : β} (hreply : sent[n]? = some reply)
    : ∃ message, taken[n]? = some message ∧ Answers message [reply] := by
  obtain ⟨answered, ⟨rest, rfl⟩, hall⟩ := h.forall₂ hsingle
  obtain ⟨hn, rfl⟩ := List.getElem?_eq_some_iff.mp hreply
  have hn' : n < answered.length := by rw [hall.length_eq]; exact hn
  refine ⟨answered[n], ?_, hall.get hn' hn⟩
  rw [List.getElem?_append_left hn', List.getElem?_eq_getElem hn']

end Exchange
