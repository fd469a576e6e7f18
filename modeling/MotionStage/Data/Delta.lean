import Mathlib.Logic.Function.Basic
import MotionStage.Data.IndexMap

/-!
This module contains tables that are mirrored by their changes. A poll compares every row with what
the previous poll has cached under the key of the row, and only the rows that differ are sent. The
cache keeps a signature of the row and not the row itself.
-/

namespace Delta

variable {ρ κ σ : Type} [DecidableEq κ]
variable (key : ρ → κ) (signature : ρ → σ)

/--
The signatures of the rows under their keys. A later row replaces an earlier one.
-/
def cache (rows : List ρ) : IndexMap κ σ :=
  rows.foldl (fun m r => m.insert (key r) (signature r)) .empty

def changes [DecidableEq σ] (known : IndexMap κ σ) (rows : List ρ) : List ρ :=
  rows.filter fun r => decide (known.get? (key r) ≠ some (signature r))

/--
The body of the loop of a poll: an item that is a row is sent if its signature is not the cached
one.
-/
def pollRow {β γ : Type} [DecidableEq σ] (read : β → Option ρ) (send : γ → ρ → γ)
    (known : IndexMap κ σ) (p : γ × IndexMap κ σ) (item : β) : γ × IndexMap κ σ :=
  match read item with
  | none => p
  | some r =>
    (if known.get? (key r) ≠ some (signature r) then send p.1 r else p.1,
      p.2.insert (key r) (signature r))

def vanished (known : IndexMap κ σ) (rows : List ρ) : List κ :=
  known.keys.filter fun k => !(cache key signature rows).contains k

def stored (table : κ → Option ρ) (rows : List ρ) : κ → Option ρ :=
  rows.foldl (fun t r => Function.update t (key r) (some r)) table

def erased (table : κ → Option ρ) (ks : List κ) : κ → Option ρ :=
  ks.foldl (fun t k => Function.update t k none) table

/--
The table after a poll: the changes are stored, then some keys are erased.
-/
def refreshed [DecidableEq σ] (table : κ → Option ρ) (known : IndexMap κ σ) (rows : List ρ)
    (ks : List κ) : κ → Option ρ :=
  erased (stored key table (changes key signature known rows)) ks

def Holds (table : κ → Option ρ) (rows : List ρ) : Prop :=
  ∀ k r, table k = some r ↔ r ∈ rows ∧ key r = k

/--
A key stands for one row, and a row that has the signature of the row before it is that row.
-/
structure Tracked (before rows : List ρ) : Prop where
  unique : ∀ r ∈ rows, ∀ r' ∈ rows, key r = key r' → r = r'
  same : ∀ r ∈ rows, ∀ old ∈ before, key old = key r → signature old = signature r → old = r

variable {key signature}

theorem foldl_pollRow {β γ : Type} [DecidableEq σ] (read : β → Option ρ) (send : γ → ρ → γ)
    (known : IndexMap κ σ) (items : List β) (g : γ)
    : items.foldl (pollRow key signature read send known) (g, .empty)
        = ((changes key signature known (items.filterMap read)).foldl send g,
            cache key signature (items.filterMap read)) := by
  unfold cache
  generalize IndexMap.empty = m
  induction items generalizing g m with
  | nil => rfl
  | cons item items ih =>
    rw [List.foldl_cons]
    cases hread : read item with
    | none => simp [pollRow, hread, ih]
    | some r =>
      by_cases hknown : known.get? (key r) = some (signature r)
      all_goals simp [pollRow, hread, ih, changes, hknown]

theorem get?_foldl_insert {rows : List ρ} {k : κ} {v : σ} {m : IndexMap κ σ}
    (h : (rows.foldl (fun m r => m.insert (key r) (signature r)) m).get? k = some v)
    : (∃ r ∈ rows, key r = k ∧ signature r = v) ∨ m.get? k = some v := by
  induction rows generalizing m with
  | nil => exact .inr h
  | cons r rows ih =>
    rcases ih h with ⟨r', hmem, hr'⟩ | hm
    . exact .inl ⟨r', List.mem_cons_of_mem _ hmem, hr'⟩
    . rw [IndexMap.get?_insert] at hm
      split at hm
      . next hk => exact .inl ⟨r, List.mem_cons_self, hk.symm, Option.some.inj hm⟩
      . exact .inr hm

theorem exists_of_get?_cache {rows : List ρ} {k : κ} {v : σ}
    (h : (cache key signature rows).get? k = some v)
    : ∃ r ∈ rows, key r = k ∧ signature r = v := by
  rcases get?_foldl_insert h with hrow | hempty
  . exact hrow
  . rw [IndexMap.get?_empty] at hempty
    cases hempty

theorem contains_foldl_insert {rows : List ρ} {k : κ} {m : IndexMap κ σ}
    (h : (∃ r ∈ rows, key r = k) ∨ m.get? k ≠ none)
    : (rows.foldl (fun m r => m.insert (key r) (signature r)) m).get? k ≠ none := by
  induction rows generalizing m with
  | nil => exact h.resolve_left (by simp)
  | cons r rows ih =>
    apply ih
    rw [IndexMap.get?_insert]
    split
    . exact .inr (Option.some_ne_none _)
    . next hk =>
      refine h.imp ?_ id
      rintro ⟨r', hmem, rfl⟩
      rcases List.mem_cons.mp hmem with rfl | hmem
      . exact absurd rfl hk
      . exact ⟨r', hmem, rfl⟩

theorem get?_cache_ne_none {rows : List ρ} {r : ρ} (h : r ∈ rows)
    : (cache key signature rows).get? (key r) ≠ none :=
  contains_foldl_insert (.inl ⟨r, h, rfl⟩)

theorem mem_vanished {known : IndexMap κ σ} {rows : List ρ} {k : κ}
    : k ∈ vanished key signature known rows
        ↔ k ∈ known.keys ∧ ∀ r ∈ rows, key r ≠ k := by
  simp only [vanished, List.mem_filter, Bool.not_eq_true', IndexMap.contains,
    Option.isSome_eq_false_iff, Option.isNone_iff_eq_none]
  refine and_congr_right fun _ => ⟨?_, ?_⟩
  . rintro hnone r hr rfl
    exact get?_cache_ne_none hr hnone
  . intro hrows
    by_contra hsome
    obtain ⟨v, hv⟩ := Option.ne_none_iff_exists'.mp hsome
    obtain ⟨r, hr, hk, -⟩ := exists_of_get?_cache hv
    exact hrows r hr hk

theorem stored_of_not_mem {table : κ → Option ρ} {rows : List ρ} {k : κ}
    (h : ∀ r ∈ rows, key r ≠ k)
    : stored key table rows k = table k := by
  induction rows generalizing table with
  | nil => rfl
  | cons r rows ih =>
    have hne : k ≠ key r := (h r List.mem_cons_self).symm
    rw [stored, List.foldl_cons, ← stored, ih fun r' hr' => h r' (List.mem_cons_of_mem _ hr'),
      Function.update_of_ne hne]

theorem stored_of_mem {table : κ → Option ρ} {rows : List ρ} {r : ρ} (h : r ∈ rows)
    (hunique : ∀ r' ∈ rows, key r' = key r → r' = r)
    : stored key table rows (key r) = some r := by
  induction rows generalizing table with
  | nil => cases h
  | cons first rows ih =>
    rw [stored, List.foldl_cons, ← stored]
    by_cases hmem : r ∈ rows
    . exact ih hmem fun r' hr' => hunique r' (List.mem_cons_of_mem _ hr')
    . have hfirst : r = first := (List.mem_cons.mp h).resolve_right hmem
      rw [stored_of_not_mem, hfirst, Function.update_self]
      intro r' hr' hkey
      exact hmem (hunique r' (List.mem_cons_of_mem _ hr') hkey ▸ hr')

theorem erased_apply {table : κ → Option ρ} {ks : List κ} {k : κ}
    : erased table ks k = if k ∈ ks then none else table k := by
  induction ks generalizing table with
  | nil => rfl
  | cons first ks ih =>
    rw [erased, List.foldl_cons, ← erased, ih, Function.update_apply]
    by_cases hfirst : k = first <;> simp [hfirst]

theorem mem_changes [DecidableEq σ] {known : IndexMap κ σ} {rows : List ρ} {r : ρ}
    : r ∈ changes key signature known rows ↔ r ∈ rows ∧ known.get? (key r) ≠ some (signature r) := by
  simp [changes]

theorem get?_cache_iff {table : κ → Option ρ} {before : List ρ} (h : Holds key table before)
    {k : κ} {v : σ}
    : (cache key signature before).get? k = some v
        ↔ ∃ old ∈ before, key old = k ∧ signature old = v := by
  refine ⟨exists_of_get?_cache, ?_⟩
  rintro ⟨old, hold, rfl, rfl⟩
  have hknown : (cache key signature before).get? (key old) ≠ none := get?_cache_ne_none hold
  obtain ⟨v, hv⟩ := Option.ne_none_iff_exists'.mp hknown
  obtain ⟨other, hother, hkey, rfl⟩ := exists_of_get?_cache hv
  have hsame : some other = some old :=
    ((h _ other).mpr ⟨hother, hkey⟩).symm.trans ((h _ old).mpr ⟨hold, rfl⟩)
  rw [hv, Option.some.inj hsame]

section Mirror

variable [DecidableEq σ] {table : κ → Option ρ} {before rows : List ρ} {ks : List κ}
variable {known : IndexMap κ σ}

theorem refreshed_of_mem (hks : ∀ k, k ∈ ks ↔ k ∈ vanished key signature known rows)
    (hunique : ∀ r ∈ rows, ∀ r' ∈ rows, key r = key r' → r = r') {r : ρ} (hr : r ∈ rows)
    : refreshed key signature table known rows ks (key r)
        = if known.get? (key r) ≠ some (signature r) then some r else table (key r) := by
  have hkept : key r ∉ ks := by
    rw [hks, mem_vanished]
    exact fun hgone => hgone.2 r hr rfl
  rw [refreshed, erased_apply, if_neg hkept]
  split
  . next hchanged =>
    apply stored_of_mem (mem_changes.mpr ⟨hr, hchanged⟩)
    intro r' hr' hkey
    exact hunique r' (mem_changes.mp hr').1 r hr hkey
  . next hsame =>
    apply stored_of_not_mem
    intro r' hr' hkey
    obtain ⟨hmem, hchanged⟩ := mem_changes.mp hr'
    exact hsame (hunique r' hmem r hr hkey ▸ hchanged)

theorem refreshed_of_not_mem (h : Holds key table before)
    (hks : ∀ k, k ∈ ks ↔ k ∈ vanished key signature (cache key signature before) rows) {k : κ}
    (hrows : ∀ r ∈ rows, key r ≠ k)
    : refreshed key signature table (cache key signature before) rows ks k = none := by
  rw [refreshed, erased_apply]
  split
  . rfl
  . next hkept =>
    rw [stored_of_not_mem fun r' hr' => hrows r' (mem_changes.mp hr').1]
    -- the key was known if the table had a row for it
    by_contra hsome
    obtain ⟨old, hold⟩ := Option.ne_none_iff_exists'.mp hsome
    obtain ⟨hmem, rfl⟩ := (h k old).mp hold
    apply hkept
    rw [hks, mem_vanished, IndexMap.mem_keys]
    exact ⟨get?_cache_ne_none hmem, hrows⟩

omit [DecidableEq κ] in
theorem unique_of_holds (h : Holds key table rows)
    : ∀ r ∈ rows, ∀ r' ∈ rows, key r = key r' → r = r' := by
  intro r hr r' hr' hkey
  have hget := (h _ r).mpr ⟨hr, rfl⟩
  rw [hkey, (h _ r').mpr ⟨hr', rfl⟩] at hget
  exact (Option.some.inj hget).symm

theorem tracked_of_holds (h : Holds key table before)
    (hks : ∀ k, k ∈ ks ↔ k ∈ vanished key signature (cache key signature before) rows)
    (hholds : Holds key (refreshed key signature table (cache key signature before) rows ks) rows)
    : Tracked key signature before rows := by
  have hunique := unique_of_holds hholds
  refine ⟨hunique, ?_⟩
  intro r hr old hold hkey hsignature
  -- the row is not sent, so the table still has the old one
  have hsame : (cache key signature before).get? (key r) = some (signature r) :=
    (get?_cache_iff h).mpr ⟨old, hold, hkey, hsignature⟩
  have hget := (hholds _ r).mpr ⟨hr, rfl⟩
  rw [refreshed_of_mem hks hunique hr, if_neg (not_not.mpr hsame),
    (h _ old).mpr ⟨hold, hkey⟩] at hget
  exact Option.some.inj hget

theorem holds_of_tracked (h : Holds key table before)
    (hks : ∀ k, k ∈ ks ↔ k ∈ vanished key signature (cache key signature before) rows)
    (htracked : Tracked key signature before rows)
    : Holds key (refreshed key signature table (cache key signature before) rows ks) rows := by
  intro k r
  by_cases hrow : ∃ r₀ ∈ rows, key r₀ = k
  . obtain ⟨r₀, hr₀, rfl⟩ := hrow
    have hget : refreshed key signature table (cache key signature before) rows ks (key r₀)
        = some r₀ := by
      rw [refreshed_of_mem hks htracked.unique hr₀]
      split
      . rfl
      . next hsame =>
        obtain ⟨old, hold, hkey, hsignature⟩ := exists_of_get?_cache (not_not.mp hsame)
        rw [← htracked.same r₀ hr₀ old hold hkey hsignature]
        exact (h _ old).mpr ⟨hold, rfl⟩
    rw [hget, Option.some.injEq]
    constructor
    . rintro rfl
      exact ⟨hr₀, rfl⟩
    . rintro ⟨hr, hkey⟩
      exact htracked.unique r₀ hr₀ r hr hkey.symm
  . push Not at hrow
    rw [refreshed_of_not_mem h hks hrow]
    refine iff_of_false (by simp) ?_
    rintro ⟨hr, hkey⟩
    exact hrow r hr hkey

theorem holds_iff_tracked (h : Holds key table before)
    (hks : ∀ k, k ∈ ks ↔ k ∈ vanished key signature (cache key signature before) rows)
    : Holds key (refreshed key signature table (cache key signature before) rows ks) rows
        ↔ Tracked key signature before rows :=
  ⟨tracked_of_holds h hks, holds_of_tracked h hks⟩

end Mirror

section Shown

variable [DecidableEq σ] {ν : Type} [DecidableEq ν] {name : ρ → ν} {table : ν → Option ρ}

end Shown

end Delta
