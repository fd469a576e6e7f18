import Mathlib.Data.List.Basic
import Mathlib.Tactic.Common

/-!
This module contains texts that are tables: rows of fields, with one separator between rows and
another one between the fields of a row.
-/

namespace Table

variable {α : Type}

theorem mem_intercalate {x : α} {separator : List α} {pieces : List (List α)}
    : x ∈ separator.intercalate pieces →
        x ∈ separator ∨ ∃ piece ∈ pieces, x ∈ piece := by
  induction pieces with
  | nil => simp
  | cons piece pieces ih =>
    cases pieces with
    | nil =>
      intro h
      rw [List.intercalate_singleton] at h
      exact .inr ⟨piece, List.mem_cons_self, h⟩
    | cons next pieces =>
      intro h
      rw [List.intercalate_cons_cons, List.mem_append, List.mem_append] at h
      rcases h with (h | h) | h
      . exact .inr ⟨piece, List.mem_cons_self, h⟩
      . exact .inl h
      . exact (ih h).imp_right fun ⟨p, hp, hx⟩ => ⟨p, List.mem_cons_of_mem _ hp, hx⟩

theorem mem_intercalate_of_mem {x : α} {separator piece : List α} {pieces : List (List α)}
    (hpiece : piece ∈ pieces) (h : x ∈ piece)
    : x ∈ separator.intercalate pieces := by
  induction pieces with
  | nil => cases hpiece
  | cons first pieces ih =>
    cases pieces with
    | nil =>
      rw [List.mem_singleton] at hpiece
      rwa [List.intercalate_singleton, ← hpiece]
    | cons next pieces =>
      rw [List.intercalate_cons_cons, List.mem_append, List.mem_append]
      rcases List.mem_cons.mp hpiece with rfl | hpiece
      . exact .inl (.inl h)
      . exact .inr (ih hpiece)

def write (a b : α) (rows : List (List (List α))) : List α :=
  [a].intercalate (rows.map [b].intercalate)

theorem write_ne_nil {a b : α} {rows : List (List (List α))} (hrows : ∀ row ∈ rows, 2 ≤ row.length)
    (h : rows ≠ [])
    : write a b rows ≠ [] := by
  obtain ⟨row, rest, rfl⟩ := List.exists_cons_of_ne_nil h
  have hlength := hrows row List.mem_cons_self
  obtain ⟨first, second, fields, rfl⟩ : ∃ first second fields, row = first :: second :: fields := by
    match row, hlength with
    | first :: second :: fields, _ => exact ⟨first, second, fields, rfl⟩
  apply List.ne_nil_of_mem (a := b)
  have hline : b ∈ [b].intercalate (first :: second :: fields) := by
    simp [List.intercalate_cons_cons]
  exact mem_intercalate_of_mem (List.mem_map.mpr ⟨_, List.mem_cons_self, rfl⟩) hline

variable [DecidableEq α]

theorem subset_of_mem_splitOn {x : α} {text piece : List α} (h : piece ∈ text.splitOn x)
    : ∀ c ∈ piece, c ∈ text := by
  intro c hc
  have htext : [x].intercalate (text.splitOn x) = text := List.intercalate_splitOn x
  rw [← htext]
  exact mem_intercalate_of_mem h hc

theorem not_mem_of_mem_splitOn {x : α} {text piece : List α} (h : piece ∈ text.splitOn x)
    : x ∉ piece := by
  induction text generalizing piece with
  | nil =>
    rw [List.splitOn_nil, List.mem_singleton] at h
    simp [h]
  | cons c text ih =>
    rw [List.splitOn_cons_eq_if_modifyHead] at h
    split at h
    . rcases List.mem_cons.mp h with rfl | h
      . exact List.not_mem_nil
      . exact ih h
    . next hc =>
      obtain ⟨first, rest, hsplit⟩ := List.exists_cons_of_ne_nil (List.splitOn_ne_nil x text)
      rw [hsplit, List.modifyHead_cons] at h
      rcases List.mem_cons.mp h with rfl | h
      . intro hmem
        rcases List.mem_cons.mp hmem with rfl | hmem
        . exact hc (beq_self_eq_true _)
        . exact ih (hsplit ▸ List.mem_cons_self) hmem
      . exact ih (hsplit ▸ List.mem_cons_of_mem _ h)

/--
An empty text has no rows.
-/
noncomputable def read (a b : α) (text : List α) : List (List (List α)) :=
  if text = [] then [] else (text.splitOn a).map fun line => line.splitOn b

theorem read_write_iff {a b : α} {rows : List (List (List α))} (hab : a ≠ b)
    (hrows : ∀ row ∈ rows, 2 ≤ row.length)
    : read a b (write a b rows) = rows ↔ ∀ row ∈ rows, ∀ field ∈ row, a ∉ field ∧ b ∉ field := by
  constructor
  . intro h row hrow field hfield
    rw [← h, read] at hrow
    split at hrow
    . cases hrow
    . obtain ⟨line, hline, rfl⟩ := List.mem_map.mp hrow
      refine ⟨fun hmem => ?_, not_mem_of_mem_splitOn hfield⟩
      exact not_mem_of_mem_splitOn hline (subset_of_mem_splitOn hfield a hmem)
  . intro h
    by_cases hnil : rows = []
    . subst hnil
      rfl
    rw [read, if_neg (write_ne_nil hrows hnil), write, List.splitOn_intercalate, List.map_map]
    . conv_rhs => rw [← List.map_id rows]
      apply List.map_congr_left
      intro row hrow
      have hne : row ≠ [] :=
        List.ne_nil_of_length_pos (Nat.lt_of_lt_of_le Nat.two_pos (hrows row hrow))
      exact List.splitOn_intercalate b (fun field hfield => (h row hrow field hfield).2) hne
    . intro line hline hmem
      obtain ⟨row, hrow, rfl⟩ := List.mem_map.mp hline
      rcases mem_intercalate hmem with hmem | ⟨field, hfield, hmem⟩
      . exact hab (List.mem_singleton.mp hmem)
      . exact (h row hrow field hfield).1 hmem
    . simpa using hnil

end Table
