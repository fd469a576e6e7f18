import Mathlib.Data.List.Basic
import Mathlib.Logic.Function.Basic

/-!
This module contains journals of writes to a partial map, and what is left of a map when a journal
is replayed over it.
-/

namespace Journal

variable {κ ν : Type} [DecidableEq κ]

def write (values : κ → Option ν) (entry : κ × ν) : κ → Option ν :=
  Function.update values entry.1 (some entry.2)

def replay (values : κ → Option ν) (entries : List (κ × ν)) : κ → Option ν :=
  entries.foldl write values

theorem replay_append (values : κ → Option ν) (xs ys : List (κ × ν))
    : replay values (xs ++ ys) = replay (replay values xs) ys :=
  List.foldl_append

/--
A journal that only holds entries of `target` takes every key that it names to its value in `target`,
and leaves the others alone.
-/
theorem replay_eq {values target : κ → Option ν} {entries : List (κ × ν)}
    (hentries : ∀ entry ∈ entries, target entry.1 = some entry.2) {k : κ}
    (hk : k ∈ entries.map Prod.fst ∨ values k = target k)
    : replay values entries k = target k := by
  induction entries generalizing values with
  | nil =>
    rcases hk with hk | hk
    . cases hk
    . exact hk
  | cons entry entries ih =>
    have hhead : target entry.1 = some entry.2 := hentries entry List.mem_cons_self
    apply ih fun e he => hentries e (List.mem_cons_of_mem _ he)
    by_cases heq : k = entry.1
    . subst heq
      exact .inr (by rw [hhead, write, Function.update_self])
    . rcases hk with hk | hk
      . rcases List.mem_cons.mp hk with hk | hk
        . exact absurd hk heq
        . exact .inl hk
      . exact .inr (by rw [write, Function.update_of_ne heq, hk])

theorem replay_of_not_mem {values : κ → Option ν} {entries : List (κ × ν)} {k : κ}
    (hk : k ∉ entries.map Prod.fst)
    : replay values entries k = values k := by
  induction entries generalizing values with
  | nil => rfl
  | cons entry entries ih =>
    simp only [List.map_cons, List.mem_cons, not_or] at hk
    have hrest : replay (write values entry) entries k = write values entry k := ih hk.2
    rw [replay, List.foldl_cons]
    rw [← replay, hrest, write, Function.update_of_ne hk.1]

end Journal
