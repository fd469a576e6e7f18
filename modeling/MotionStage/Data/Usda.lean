import Mathlib.Data.List.Basic

/-!
This module contains a reader for the `usda` text format, as far as it consists of nested prims and
their custom properties. It reads any text character by character and reports what it has found:
the prims, the properties, and whether quotes and braces balance.
-/

namespace Usda

inductive Token where
  | word (text : String)
  | quoted (text : String)
deriving DecidableEq

inductive Scan where
  | between
  | word (text : List Char)
  | quoted (text : List Char)
deriving DecidableEq

/--
A prim with the number of the prim around it.
-/
structure Prim where
  parent : Option Nat
  kind : String
  name : String
deriving DecidableEq

structure Property where
  owner : Option Nat
  name : String
deriving DecidableEq

/--
`pending` holds the tokens since the last brace, the last one first. `opened` holds the braces that
are not closed yet, the innermost first, each with the number of its prim.
-/
structure Reader where
  scan : Scan
  pending : List Token
  opened : List (Option Nat)
  prims : List Prim
  properties : List Property
  underflow : Bool
deriving DecidableEq

def isLetter (c : Char) : Bool := c.isAlpha || c == '_'

def isIdentifier (name : String) : Bool :=
  match name.toList with
  | [] => false
  | c :: cs => isLetter c && cs.all fun c => isLetter c || c.isDigit

theorem letter_or_digit_of_isIdentifier {name : String} (h : isIdentifier name = true) {c : Char}
    (hc : c ∈ name.toList)
    : isLetter c = true ∨ c.isDigit = true := by
  unfold isIdentifier at h
  split at h
  . cases h
  . next first rest hname =>
    rw [hname, List.mem_cons] at hc
    rw [Bool.and_eq_true, List.all_eq_true] at h
    rcases hc with rfl | hc
    . exact .inl h.1
    . simpa using h.2 c hc

def isDelimiter (c : Char) : Bool :=
  c == ' ' || c == '\n' || c == '\t' || c == '\r' || c == '"' || c == '\x7b' || c == '\x7d'

/--
After `custom` and a type, the next word is the name of a property.
-/
def declares : List Token → Bool
  | .word _ :: .word keyword :: _ => keyword == "custom"
  | _ => false

/--
The kind and the name of the prim that a brace opens after these tokens.
-/
def primOf? : List Token → Option (String × String)
  | .quoted name :: .word kind :: .word keyword :: _ =>
    if keyword == "def" then some (kind, name) else none
  | _ => none

namespace Reader

def start : Reader := ⟨.between, [], [], [], [], false⟩

def inside (r : Reader) : Option Nat := r.opened.head?.join

def endWord (r : Reader) : Reader :=
  match r.scan with
  | .word text =>
    { r with
      scan := .between
      pending := .word (String.ofList text) :: r.pending
      properties :=
        if declares r.pending then
          r.properties ++ [⟨r.inside, String.ofList text⟩]
        else
          r.properties }
  | _ => r

def openBrace (r : Reader) : Reader :=
  match primOf? r.pending with
  | some (kind, name) =>
    { r with
      pending := []
      opened := some r.prims.length :: r.opened
      prims := r.prims ++ [⟨r.inside, kind, name⟩] }
  | none => { r with pending := [], opened := none :: r.opened }

def closeBrace (r : Reader) : Reader :=
  { r with pending := [], opened := r.opened.tail, underflow := r.underflow || r.opened.isEmpty }

def delimit (r : Reader) (c : Char) : Reader :=
  if c == '"' then
    { r with scan := .quoted [] }
  else if c == '\x7b' then
    r.openBrace
  else if c == '\x7d' then
    r.closeBrace
  else
    r

def step (r : Reader) (c : Char) : Reader :=
  match r.scan with
  | .quoted text =>
    if c == '"' then
      { r with scan := .between, pending := .quoted (String.ofList text) :: r.pending }
    else
      { r with scan := .quoted (text ++ [c]) }
  | .word text => if isDelimiter c then r.endWord.delimit c else { r with scan := .word (text ++ [c]) }
  | .between => if isDelimiter c then r.delimit c else { r with scan := .word [c] }

def read (r : Reader) (text : String) : Reader := text.toList.foldl step r

def isQuoting (r : Reader) : Bool :=
  match r.scan with
  | .quoted _ => true
  | _ => false

def namesInside (r : Reader) (parent : Option Nat) (kind : String) : List String :=
  (r.prims.filter fun prim => decide (prim.parent = parent ∧ prim.kind = kind)).map Prim.name

def propertiesOf (r : Reader) (owner : Option Nat) : List String :=
  (r.properties.filter fun property => decide (property.owner = owner)).map Property.name

@[simp]
theorem read_append (r : Reader) (s t : String) : r.read (s ++ t) = (r.read s).read t := by
  simp [read, List.foldl_append]

end Reader

def readText (text : String) : Reader := (Reader.start.read text).endWord

namespace Reader

theorem read_quoted {r : Reader} {text : List Char} (hscan : r.scan = .quoted text) {s : String}
    (hs : '"' ∉ s.toList)
    : r.read s = { r with scan := .quoted (text ++ s.toList) } := by
  unfold read
  generalize s.toList = cs at hs
  induction cs generalizing r text with
  | nil => simp [← hscan]
  | cons c cs ih =>
    have hc : c ≠ '"' := by
      rintro rfl
      exact hs List.mem_cons_self
    have hstep : r.step c = { r with scan := .quoted (text ++ [c]) } := by
      simp [step, hscan, hc]
    rw [List.foldl_cons, hstep, ih rfl fun hmem => hs (List.mem_cons_of_mem _ hmem)]
    simp

theorem read_word {r : Reader} {text : List Char} (hscan : r.scan = .word text) {s : String}
    (hs : ∀ c ∈ s.toList, isDelimiter c = false)
    : r.read s = { r with scan := .word (text ++ s.toList) } := by
  unfold read
  generalize s.toList = cs at hs
  induction cs generalizing r text with
  | nil => simp [← hscan]
  | cons c cs ih =>
    have hstep : r.step c = { r with scan := .word (text ++ [c]) } := by
      simp [step, hscan, hs c List.mem_cons_self]
    rw [List.foldl_cons, hstep, ih rfl fun c hc => hs c (List.mem_cons_of_mem _ hc)]
    simp

theorem properties_delimit (r : Reader) (c : Char) : (r.delimit c).properties = r.properties := by
  unfold delimit
  split
  . rfl
  . split
    . unfold openBrace
      split <;> rfl
    . split <;> rfl

theorem mem_properties_endWord {r : Reader} {property : Property} (h : property ∈ r.properties)
    : property ∈ r.endWord.properties := by
  unfold endWord
  split
  . by_cases hdeclares : declares r.pending
    . simp [hdeclares, h]
    . simp [hdeclares, h]
  . exact h

theorem mem_properties_step {r : Reader} {property : Property} (h : property ∈ r.properties)
    (c : Char)
    : property ∈ (r.step c).properties := by
  unfold step
  split
  . split <;> exact h
  . split
    . rw [properties_delimit]
      exact mem_properties_endWord h
    . exact h
  . split
    . rw [properties_delimit]
      exact h
    . exact h

theorem mem_properties_foldl {r : Reader} {property : Property} (h : property ∈ r.properties)
    (cs : List Char)
    : property ∈ (cs.foldl step r).properties := by
  induction cs generalizing r with
  | nil => exact h
  | cons c cs ih => exact ih (mem_properties_step h c)

theorem exists_property_of_word {r : Reader} {text : List Char} (hscan : r.scan = .word text)
    (hdeclares : declares r.pending = true) (cs : List Char)
    : ∃ property ∈ (cs.foldl step r).endWord.properties, text <+: property.name.toList := by
  induction cs generalizing r text with
  | nil =>
    refine ⟨⟨r.inside, String.ofList text⟩, ?_, by simp⟩
    simp [endWord, hscan, hdeclares]
  | cons c cs ih =>
    rw [List.foldl_cons]
    by_cases hc : isDelimiter c
    . have hmem : ⟨r.inside, String.ofList text⟩ ∈ (r.step c).properties := by
        simp [step, hscan, hc, properties_delimit, endWord, hdeclares]
      exact ⟨_, mem_properties_endWord (mem_properties_foldl hmem cs), by simp⟩
    . have hstep : r.step c = { r with scan := .word (text ++ [c]) } := by simp [step, hscan, hc]
      rw [hstep]
      obtain ⟨property, hmem, hname⟩ := ih (r := { r with scan := .word (text ++ [c]) }) rfl hdeclares
      exact ⟨property, hmem, (List.prefix_append text [c]).trans hname⟩

end Reader

end Usda
