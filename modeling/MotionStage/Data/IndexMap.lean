import Mathlib.Data.Finset.Card
import Mathlib.Data.List.Nodup

/-!
This module contains an insertion ordered finite map. The well-formedness of the map, that no key
occurs twice, is part of the structure, so that every lookup is determined by the entries alone.
-/

/--
A finite map that keeps its entries in the order in which their keys were first inserted.
-/
structure IndexMap (κ ν : Type) where
  entries : List (κ × ν)
  nodup : (entries.map Prod.fst).Nodup

namespace IndexMap

variable {κ ν : Type}

def empty : IndexMap κ ν := ⟨[], List.nodup_nil⟩

def values (m : IndexMap κ ν) : List ν := m.entries.map Prod.snd

variable [DecidableEq κ]

def get? (m : IndexMap κ ν) (k : κ) : Option ν :=
  (m.entries.find? (fun e => decide (e.1 = k))).map Prod.snd

def contains (m : IndexMap κ ν) (k : κ) : Bool := (m.get? k).isSome

theorem get?_eq_some_iff {m : IndexMap κ ν} {k : κ} {v : ν}
    : m.get? k = some v ↔ (k, v) ∈ m.entries := by
  rcases m with ⟨entries, nodup⟩
  induction entries with
  | nil => simp [get?]
  | cons e es ih =>
    simp only [List.map_cons, List.nodup_cons] at nodup
    simp only [get?, List.find?_cons, List.mem_cons] at ih ⊢
    by_cases he : e.1 = k
    . have hnot : (k, v) ∉ es := by
        intro hmem
        apply nodup.1
        rw [he]
        exact List.mem_map.mpr ⟨(k, v), hmem, rfl⟩
      simp only [he, decide_true, Option.map_some, Option.some.injEq, hnot, or_false]
      constructor
      . intro hv
        rw [← he, ← hv]
      . intro hv
        rw [← hv]
    . have hne : (k, v) ≠ e := by
        intro hv
        apply he
        rw [← hv]
      simp only [he, decide_false, hne, false_or]
      exact ih nodup.2

theorem get?_eq_none_iff {m : IndexMap κ ν} {k : κ}
    : m.get? k = none ↔ ∀ v, (k, v) ∉ m.entries := by
  rw [Option.eq_none_iff_forall_ne_some]
  constructor
  . intro h v hv
    exact h v (get?_eq_some_iff.mpr hv)
  . intro h v hv
    exact h v (get?_eq_some_iff.mp hv)

theorem mem_values {m : IndexMap κ ν} {v : ν} : v ∈ m.values ↔ ∃ k, m.get? k = some v := by
  simp [values, get?_eq_some_iff]

@[simp]
theorem get?_empty (k : κ) : (empty : IndexMap κ ν).get? k = none := by
  simp [get?, empty]

def findValue? (m : IndexMap κ ν) (p : ν → Bool) : Option ν := m.values.find? p

theorem findValue?_eq_some {m : IndexMap κ ν} {p : ν → Bool} {v : ν} (h : m.findValue? p = some v)
    : (∃ k, m.get? k = some v) ∧ p v = true := by
  constructor
  . rw [← mem_values]
    exact List.mem_of_find?_eq_some h
  . exact List.find?_some h

theorem findValue?_eq_none {m : IndexMap κ ν} {p : ν → Bool}
    : m.findValue? p = none ↔ ∀ k v, m.get? k = some v → p v = false := by
  simp only [findValue?, List.find?_eq_none, mem_values]
  constructor
  . intro h k v hv
    simpa using h v ⟨k, hv⟩
  . rintro h v ⟨k, hv⟩
    simpa using h k v hv

def insert (m : IndexMap κ ν) (k : κ) (v : ν) : IndexMap κ ν :=
  if h : m.contains k then
    ⟨m.entries.map (fun e => (e.1, if e.1 = k then v else e.2)), by
      simpa [Function.comp_def] using m.nodup⟩
  else
    ⟨m.entries ++ [(k, v)], by
      simp only [contains, Bool.not_eq_true, Option.isSome_eq_false_iff,
        Option.isNone_iff_eq_none] at h
      rw [get?_eq_none_iff] at h
      simp only [List.map_append, List.map_cons, List.map_nil, List.nodup_append, m.nodup,
        List.nodup_singleton, true_and]
      intro a ha b hb
      rcases List.mem_map.mp ha with ⟨e, he, rfl⟩
      simp only [List.mem_singleton] at hb
      intro heq
      exact h e.2 (by rw [← hb, ← heq]; exact he)⟩

@[simp]
theorem get?_insert_self (m : IndexMap κ ν) (k : κ) (v : ν) : (m.insert k v).get? k = some v := by
  rw [get?_eq_some_iff]
  unfold insert
  split
  . next h =>
    obtain ⟨w, hw⟩ := Option.isSome_iff_exists.mp h
    rw [get?_eq_some_iff] at hw
    exact List.mem_map.mpr ⟨(k, w), hw, by simp⟩
  . simp

theorem get?_insert_of_ne (m : IndexMap κ ν) {k k' : κ} (v : ν) (h : k' ≠ k)
    : (m.insert k v).get? k' = m.get? k' := by
  apply Option.ext
  intro w
  simp only [get?_eq_some_iff]
  unfold insert
  split
  . simp only [List.mem_map, Prod.mk.injEq]
    constructor
    . rintro ⟨e, he, rfl, hv⟩
      rw [if_neg h] at hv
      rw [← hv]
      exact he
    . intro hw
      exact ⟨(k', w), hw, rfl, if_neg h⟩
  . simp [h]

theorem get?_insert (m : IndexMap κ ν) (k k' : κ) (v : ν)
    : (m.insert k v).get? k' = if k' = k then some v else m.get? k' := by
  split
  . next h => rw [h, get?_insert_self]
  . next h => rw [get?_insert_of_ne m v h]

def shiftRemove (m : IndexMap κ ν) (k : κ) : IndexMap κ ν :=
  ⟨m.entries.filter (fun e => decide (e.1 ≠ k)),
    List.Nodup.sublist (List.Sublist.map _ List.filter_sublist) m.nodup⟩

theorem get?_shiftRemove (m : IndexMap κ ν) (k k' : κ)
    : (m.shiftRemove k).get? k' = if k' = k then none else m.get? k' := by
  apply Option.ext
  intro w
  rw [get?_eq_some_iff]
  simp only [shiftRemove, List.mem_filter, decide_eq_true_eq]
  split
  . next h => simp [h]
  . next h => simp [h, get?_eq_some_iff]

def mapValues {ν' : Type} (m : IndexMap κ ν) (f : ν → ν') : IndexMap κ ν' :=
  ⟨m.entries.map (fun e => (e.1, f e.2)), by simpa [Function.comp_def] using m.nodup⟩

@[simp]
theorem get?_mapValues {ν' : Type} (m : IndexMap κ ν) (f : ν → ν') (k : κ)
    : (m.mapValues f).get? k = (m.get? k).map f := by
  apply Option.ext
  intro w
  rw [get?_eq_some_iff, Option.map_eq_some_iff]
  simp only [mapValues, List.mem_map, Prod.mk.injEq, get?_eq_some_iff]
  constructor
  . rintro ⟨e, he, rfl, rfl⟩
    exact ⟨e.2, he, rfl⟩
  . rintro ⟨v, hv, rfl⟩
    exact ⟨(k, v), hv, rfl, rfl⟩

omit [DecidableEq κ] in
theorem values_mapValues {ν' : Type} (m : IndexMap κ ν) (f : ν → ν')
    : (m.mapValues f).values = m.values.map f := by
  simp [values, mapValues]

def modify (m : IndexMap κ ν) (k : κ) (f : ν → ν) : IndexMap κ ν :=
  ⟨m.entries.map (fun e => (e.1, if e.1 = k then f e.2 else e.2)), by
    simpa [Function.comp_def] using m.nodup⟩

theorem get?_modify (m : IndexMap κ ν) (k k' : κ) (f : ν → ν)
    : (m.modify k f).get? k' = if k' = k then (m.get? k').map f else m.get? k' := by
  apply Option.ext
  intro w
  rw [get?_eq_some_iff]
  simp only [modify, List.mem_map, Prod.mk.injEq]
  split
  . next h =>
    rw [Option.map_eq_some_iff]
    simp only [get?_eq_some_iff]
    constructor
    . rintro ⟨e, he, rfl, hv⟩
      rw [if_pos h] at hv
      exact ⟨e.2, he, hv⟩
    . rintro ⟨v, hv, rfl⟩
      exact ⟨(k', v), hv, rfl, if_pos h⟩
  . next h =>
    rw [get?_eq_some_iff]
    constructor
    . rintro ⟨e, he, rfl, hv⟩
      rw [if_neg h] at hv
      rw [← hv]
      exact he
    . intro hw
      exact ⟨(k', w), hw, rfl, if_neg h⟩

@[simp]
theorem get?_modify_self (m : IndexMap κ ν) (k : κ) (f : ν → ν)
    : (m.modify k f).get? k = (m.get? k).map f := by
  simp [get?_modify]

theorem modify_comm (m : IndexMap κ ν) {k k' : κ} {f g : ν → ν}
    (h : k = k' → ∀ v, f (g v) = g (f v))
    : (m.modify k f).modify k' g = (m.modify k' g).modify k f := by
  unfold modify
  congr 1
  simp only [List.map_map]
  apply List.map_congr_left
  intro e he
  simp only [Function.comp_apply, Prod.mk.injEq, true_and]
  by_cases hk : e.1 = k
  . by_cases hk' : e.1 = k'
    . simp only [if_pos hk, if_pos hk']
      rw [h (hk.symm.trans hk')]
    . simp only [if_pos hk, if_neg hk']
  . simp only [if_neg hk]

theorem get?_modify_of_ne (m : IndexMap κ ν) {k k' : κ} (f : ν → ν) (h : k' ≠ k)
    : (m.modify k f).get? k' = m.get? k' := by
  simp [get?_modify, h]

omit [DecidableEq κ] in
theorem eq_of_entries {m m' : IndexMap κ ν} (h : m.entries = m'.entries) : m = m' := by
  cases m
  cases m'
  cases h
  rfl

theorem modify_modify (m : IndexMap κ ν) (k : κ) (f g : ν → ν)
    : (m.modify k f).modify k g = m.modify k fun v => g (f v) := by
  apply eq_of_entries
  simp only [modify, List.map_map]
  apply List.map_congr_left
  intro e he
  by_cases hk : e.1 = k
  . simp [hk]
  . simp [hk]

theorem modify_congr {m : IndexMap κ ν} {k : κ} {f g : ν → ν}
    (h : ∀ v, m.get? k = some v → f v = g v)
    : m.modify k f = m.modify k g := by
  apply eq_of_entries
  apply List.map_congr_left
  intro e he
  split
  . next hk =>
    subst hk
    rw [h e.2 (get?_eq_some_iff.mpr he)]
  . rfl

theorem modify_eq_self {m : IndexMap κ ν} {k : κ} {f : ν → ν}
    (h : ∀ v, m.get? k = some v → f v = v)
    : m.modify k f = m := by
  rw [modify_congr (g := id) h]
  apply eq_of_entries
  simp [modify]

omit [DecidableEq κ] in
theorem mapValues_eq_self {m : IndexMap κ ν} {f : ν → ν} (h : ∀ v ∈ m.values, f v = v)
    : m.mapValues f = m := by
  apply eq_of_entries
  refine Eq.trans (List.map_congr_left ?_) (List.map_id m.entries)
  intro e he
  dsimp only [id]
  rw [h e.2 (List.mem_map_of_mem he)]

def keys (m : IndexMap κ ν) : List κ := m.entries.map Prod.fst

theorem mem_keys {m : IndexMap κ ν} {k : κ} : k ∈ m.keys ↔ m.get? k ≠ none := by
  simp [keys, get?_eq_none_iff]

theorem entries_foldl_modify {ks : List κ} (hks : ks.Nodup) (m : IndexMap κ ν) (f : ν → ν)
    : (ks.foldl (fun m k => m.modify k f) m).entries
        =
      m.entries.map fun e => (e.1, if e.1 ∈ ks then f e.2 else e.2) := by
  induction ks generalizing m with
  | nil => simp
  | cons k ks ih =>
    obtain ⟨hk, hks⟩ := List.nodup_cons.mp hks
    rw [List.foldl_cons, ih hks]
    simp only [modify, List.map_map]
    apply List.map_congr_left
    intro e he
    by_cases heq : e.1 = k
    . subst heq
      simp [hk]
    . simp [heq]

theorem foldl_modify_keys {m : IndexMap κ ν} {ks : List κ} (h : ks.Perm m.keys) (f : ν → ν)
    : ks.foldl (fun m k => m.modify k f) m = m.mapValues f := by
  apply eq_of_entries
  rw [entries_foldl_modify (h.nodup_iff.mpr m.nodup), mapValues]
  apply List.map_congr_left
  intro e he
  rw [if_pos (h.mem_iff.mpr (List.mem_map_of_mem he))]

def keysWhere (m : IndexMap κ ν) (p : ν → Bool) : Finset κ :=
  ((m.entries.filter fun e => p e.2).map Prod.fst).toFinset

theorem mem_keysWhere {m : IndexMap κ ν} {p : ν → Bool} {k : κ}
    : k ∈ m.keysWhere p ↔ ∃ v, m.get? k = some v ∧ p v = true := by
  simp only [keysWhere, List.mem_toFinset, List.mem_map, List.mem_filter, get?_eq_some_iff]
  constructor
  . rintro ⟨e, ⟨he, hp⟩, rfl⟩
    exact ⟨e.2, he, hp⟩
  . rintro ⟨v, hv, hp⟩
    exact ⟨(k, v), ⟨hv, hp⟩, rfl⟩

theorem card_keysWhere (m : IndexMap κ ν) (p : ν → Bool)
    : (m.keysWhere p).card = m.values.countP p := by
  have hnodup : ((m.entries.filter fun e => p e.2).map Prod.fst).Nodup :=
    m.nodup.sublist (List.filter_sublist.map Prod.fst)
  rw [keysWhere, List.toFinset_card_of_nodup hnodup, List.length_map, values, List.countP_map,
    ← List.countP_eq_length_filter]
  rfl

end IndexMap
