import Mathlib.Order.Hom.Basic

/-!
This module contains ordered sets extended by a `NaN`, an element for which every comparison is
false.
-/

inductive WithNan (K : Type) where
  | nan
  | num (k : K)
  deriving DecidableEq

namespace WithNan

variable {K L : Type}

def isNan : WithNan K → Bool
  | nan => true
  | num _ => false

def map (f : K → L) : WithNan K → WithNan L
  | nan => nan
  | num a => num (f a)

def map₂ (f : K → K → K) : WithNan K → WithNan K → WithNan K
  | num a, num b => num (f a b)
  | _, _ => nan

section Compare

variable [LinearOrder K]

def eq : WithNan K → WithNan K → Bool
  | num a, num b => decide (a = b)
  | _, _ => false

def le : WithNan K → WithNan K → Bool
  | num a, num b => decide (a ≤ b)
  | _, _ => false

def lt : WithNan K → WithNan K → Bool
  | num a, num b => decide (a < b)
  | _, _ => false

/--
The maximum ignores a `NaN` next to a number.
-/
def maxNum : WithNan K → WithNan K → WithNan K
  | num a, num b => num (max a b)
  | nan, b => b
  | a, nan => a

def clamp (v lo hi : WithNan K) : WithNan K :=
  let v := if v.lt lo then lo else v
  if hi.lt v then hi else v

/--
Two bounds in ascending order, as far as a comparison can tell.
-/
def sort (a b : WithNan K) : WithNan K × WithNan K := if a.le b then (a, b) else (b, a)

theorem eq_comm (a b : WithNan K) : a.eq b = b.eq a := by
  cases a <;> cases b <;> simp only [eq, Eq.comm]

theorem le_eq_false_of_isNan {a b : WithNan K} (h : (a.isNan || b.isNan) = true)
    : a.le b = false := by
  cases a with
  | nan => rfl
  | num a =>
    cases b with
    | nan => rfl
    | num b => cases h

theorem le_of_le_eq_false {a b : WithNan K} (h : (a.isNan || b.isNan) = false)
    (hle : a.le b = false)
    : b.le a = true := by
  cases a with
  | nan => cases h
  | num a =>
    cases b with
    | nan => cases h
    | num b =>
      have hlt : b < a := not_le.mp (of_decide_eq_false hle)
      exact decide_eq_true hlt.le

theorem le_sort (a b : WithNan K) : (sort a b).1.le (sort a b).2 = !(a.isNan || b.isNan) := by
  unfold sort
  cases hnan : a.isNan || b.isNan with
  | true =>
    rw [le_eq_false_of_isNan hnan]
    rw [Bool.or_comm] at hnan
    exact le_eq_false_of_isNan hnan
  | false =>
    cases hle : a.le b with
    | true => exact hle
    | false => exact le_of_le_eq_false hnan hle

end Compare

theorem le_map [LinearOrder K] [LinearOrder L] (f : K ↪o L) (a b : WithNan K)
    : (a.map f).le (b.map f) = a.le b := by
  cases a with
  | nan => rfl
  | num a =>
    cases b with
    | nan => rfl
    | num b => exact decide_eq_decide.mpr f.le_iff_le

end WithNan
