import Mathlib.Data.List.DropRight
import MotionStage.Data.Text

/-!
This module contains the rules of the string operations: trimming, prefixes, segments, and the
display form of identifiers.
-/

namespace Text

structure Trimmed (s : String) : Prop where
  first : ∀ c, s.toList.head? = some c → isWhitespace c = false
  last : ∀ c, s.toList.getLast? = some c → isWhitespace c = false

theorem toList_trim (s : String)
    : (trim s).toList = (s.toList.dropWhile isWhitespace).rdropWhile isWhitespace := by
  unfold trim
  rw [String.toList_ofList]
  rfl

theorem trimmed_trim (s : String) : Trimmed (trim s) := by
  constructor
  . intro c hc
    rw [toList_trim] at hc
    -- what is left of the trailing whitespace begins as the rest does
    obtain ⟨tail, htail⟩ := List.rdropWhile_prefix isWhitespace (s.toList.dropWhile isWhitespace)
    have hfirst := List.head?_dropWhile_not isWhitespace s.toList
    rw [← htail, List.head?_append, hc] at hfirst
    simpa using hfirst
  . intro c hc
    rw [toList_trim] at hc
    have hne : (s.toList.dropWhile isWhitespace).rdropWhile isWhitespace ≠ [] := by
      intro hnil
      rw [hnil] at hc
      cases hc
    have hlast := List.rdropWhile_last_not isWhitespace (s.toList.dropWhile isWhitespace) hne
    rw [List.getLast?_eq_some_getLast hne, Option.some.injEq] at hc
    rw [hc] at hlast
    simpa using hlast

theorem trim_of_trimmed {s : String} (h : Trimmed s) : trim s = s := by
  rw [← String.toList_inj, toList_trim]
  have hfirst : s.toList.dropWhile isWhitespace = s.toList := by
    cases hs : s.toList with
    | nil => rfl
    | cons c cs =>
      have hc := h.first c (by rw [hs]; rfl)
      rw [List.dropWhile_cons, hc]
      rfl
  rw [hfirst, List.rdropWhile_eq_self_iff]
  intro hne
  simpa using h.last _ (List.getLast?_eq_some_getLast hne)

theorem Trimmed.append {s t : String} (hs : Trimmed s) (ht : Trimmed t) : Trimmed (s ++ t) := by
  constructor
  . intro c hc
    rw [String.toList_append, List.head?_append, Option.or_eq_some_iff] at hc
    rcases hc with hc | ⟨-, hc⟩
    . exact hs.first c hc
    . exact ht.first c hc
  . intro c hc
    rw [String.toList_append, List.getLast?_append, Option.or_eq_some_iff] at hc
    rcases hc with hc | ⟨-, hc⟩
    . exact ht.last c hc
    . exact hs.last c hc

theorem trimmed_of_forall {s : String} (h : ∀ c ∈ s.toList, isWhitespace c = false)
    : Trimmed s :=
  ⟨fun c hc => h c (List.mem_of_head? hc), fun c hc => h c (List.mem_of_getLast? hc)⟩

theorem trimmed_dot : Trimmed "." := by
  have hdot : (".".toList.all fun c => !isWhitespace c) = true := by decide
  apply trimmed_of_forall
  intro c hc
  simpa using List.all_eq_true.mp hdot c hc

theorem stripPrefix?_eq_some_iff {s start rest : String}
    : stripPrefix? s start = some rest ↔ s = start ++ rest := by
  unfold stripPrefix?
  rw [← String.toList_inj, String.toList_append]
  split
  . next hprefix =>
    obtain ⟨tail, htail⟩ := List.isPrefixOf_iff_prefix.mp hprefix
    rw [← htail, List.drop_left, Option.some.injEq, List.append_cancel_left_eq,
      ← String.toList_inj, String.toList_ofList]
  . next hprefix =>
    simp only [reduceCtorEq, false_iff]
    intro hs
    apply hprefix
    rw [hs]
    exact List.isPrefixOf_iff_prefix.mpr (List.prefix_append _ _)

/--
The first item of `str::split` at a character.
-/
def firstSegment (s : String) (separator : Char) : String :=
  String.ofList (s.toList.takeWhile fun c => c != separator)

theorem firstSegment_append {s : String} {separator : Char} (h : separator ∉ s.toList) (t : String)
    : firstSegment (s ++ String.singleton separator ++ t) separator = s := by
  unfold firstSegment
  rw [← String.toList_inj, String.toList_ofList, String.toList_append, String.toList_append,
    List.append_assoc, List.takeWhile_append_of_pos]
  . simp
  . intro c hc
    have hne : c ≠ separator := fun heq => h (heq ▸ hc)
    simpa using hne

end Text

namespace Uuid

def displayChars : List Char := "0123456789abcdef-".toList

theorem mem_displayChars_of_mem_hexDigits {u : Uuid} {c : Char} (h : c ∈ u.hexDigits)
    : c ∈ displayChars := by
  obtain ⟨i, -, rfl⟩ := List.mem_map.mp h
  have hall : ∀ n < 16, Nat.digitChar n ∈ displayChars := by decide
  exact hall _ (Nat.mod_lt _ (by decide))

theorem mem_displayChars {u : Uuid} {c : Char} (h : c ∈ u.display.toList) : c ∈ displayChars := by
  have hhyphen : '-' ∈ displayChars := by decide
  have htake : ∀ m n, c ∈ (u.hexDigits.drop m).take n → c ∈ displayChars := fun m n hc =>
    mem_displayChars_of_mem_hexDigits (List.mem_of_mem_drop (List.mem_of_mem_take hc))
  simp only [display, String.toList_ofList, List.mem_append, List.mem_cons,
    or_assoc] at h
  rcases h with h | rfl | h | rfl | h | rfl | h | rfl | h
  . exact htake 0 8 h
  . exact hhyphen
  . exact htake 8 4 h
  . exact hhyphen
  . exact htake 12 4 h
  . exact hhyphen
  . exact htake 16 4 h
  . exact hhyphen
  . exact mem_displayChars_of_mem_hexDigits (List.mem_of_mem_drop h)

theorem length_display (u : Uuid) : u.display.toList.length = 36 := by
  simp [display, hexDigits]

theorem trimmed_display (u : Uuid) : Text.Trimmed u.display := by
  have hall : (displayChars.all fun c => !Text.isWhitespace c) = true := by decide
  apply Text.trimmed_of_forall
  intro c hc
  simpa using List.all_eq_true.mp hall c (mem_displayChars hc)

theorem not_mem_display {u : Uuid} {c : Char} (h : c ∉ displayChars) : c ∉ u.display.toList :=
  fun hc => h (mem_displayChars hc)

end Uuid
