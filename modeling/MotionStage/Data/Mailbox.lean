import Mathlib.Logic.Function.Basic

/-!
This module contains mailboxes: one queue of messages for every key, which is collected as a whole.
What has been posted to a box, what has been collected from it and what it holds are related over
the history of all boxes.
-/

namespace Mailbox

variable {κ ν : Type} [DecidableEq κ]

/--
A box is renewed when its key gets a new owner. What the box holds stays in it.
-/
inductive Event (κ ν : Type) where
  | post (key : κ) (message : ν)
  | collect (key : κ) (messages : List ν)
  | renew (key : κ)

inductive Step (boxes : κ → List ν) : Event κ ν → (κ → List ν) → Prop where
  | post (key message)
    : Step boxes (.post key message) (Function.update boxes key (boxes key ++ [message]))
  | collect (key) : Step boxes (.collect key (boxes key)) (Function.update boxes key [])
  | renew (key) : Step boxes (.renew key) boxes

def posted (key : κ) (events : List (Event κ ν)) : List ν :=
  events.flatMap fun
    | .post k message => if k = key then [message] else []
    | _ => []

def collected (key : κ) (events : List (Event κ ν)) : List ν :=
  events.flatMap fun
    | .collect k messages => if k = key then messages else []
    | _ => []

def sinceNext (key : κ) (messages : List ν) : Event κ ν → List ν
  | .post k message => if k = key then messages ++ [message] else messages
  | .renew k => if k = key then [] else messages
  | .collect _ _ => messages

/--
The messages posted to a box since it was renewed last.
-/
def postedSince (key : κ) (events : List (Event κ ν)) : List ν := events.foldl (sinceNext key) []

theorem postedSince_append (key : κ) (events : List (Event κ ν)) (e : Event κ ν)
    : postedSince key (events ++ [e]) = sinceNext key (postedSince key events) e := by
  simp [postedSince, List.foldl_append]

variable {boxes boxes' : κ → List ν} {e : Event κ ν} {events : List (Event κ ν)} {key : κ}

theorem Step.conserved (h : Step boxes e boxes')
    (hevents : collected key events ++ boxes key = posted key events)
    : collected key (events ++ [e]) ++ boxes' key = posted key (events ++ [e]) := by
  simp only [collected, posted] at hevents ⊢
  simp only [List.flatMap_append, List.flatMap_singleton, ← hevents]
  cases h with
  | post k message =>
    by_cases hk : k = key
    . subst hk
      simp
    . simp [hk, Function.update_of_ne (Ne.symm hk)]
  | collect k =>
    by_cases hk : k = key
    . subst hk
      simp
    . simp [hk, Function.update_of_ne (Ne.symm hk)]
  | renew k => simp

theorem Step.suffix (h : Step boxes e boxes') (hrenew : e = .renew key → boxes key = [])
    (hevents : boxes key <:+ postedSince key events)
    : boxes' key <:+ postedSince key (events ++ [e]) := by
  rw [postedSince_append]
  cases h with
  | post k message =>
    by_cases hk : k = key
    . subst hk
      obtain ⟨before, hbefore⟩ := hevents
      rw [Function.update_self, sinceNext, if_pos rfl, ← hbefore]
      exact ⟨before, by rw [List.append_assoc]⟩
    . rwa [Function.update_of_ne (Ne.symm hk), sinceNext, if_neg hk]
  | collect k =>
    by_cases hk : k = key
    . subst hk
      rw [Function.update_self]
      exact List.nil_suffix
    . rwa [Function.update_of_ne (Ne.symm hk)]
  | renew k =>
    by_cases hk : k = key
    . subst hk
      rw [hrenew rfl]
      exact List.nil_suffix
    . rwa [sinceNext, if_neg hk]

end Mailbox
