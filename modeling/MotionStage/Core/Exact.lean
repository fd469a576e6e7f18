import Mathlib.Algebra.Order.Ring.Rat
import Mathlib.Analysis.Convex.Basic
import MotionStage.Core.Float

/-!
This module contains exact arithmetic in an ordered field as an instance of the floating point
operations: both types are the field, and every operation is the one of the field.
-/

/--
What exactness leaves open: a field need not have square roots, and the casts from and to `i32` are
no field operations.
-/
structure Primitives (K : Type) where
  sqrt : K → K
  epsilon : K
  ofInt32 : Int32 → K
  roundInt32 : K → Int32

def Primitives.rational : Primitives ℚ where
  sqrt := fun a => Rat.sqrt a
  epsilon := 1 / 2 ^ 23
  ofInt32 := fun n => n.toInt
  roundInt32 := fun a => Int32.ofInt a.floor

variable {K : Type} [Field K] [LinearOrder K]

@[reducible]
def FloatFormat.exact (sqrt : K → K) : FloatFormat where
  carrier := K
  ofNat n := n
  add a b := a + b
  sub a b := a - b
  mul a b := a * b
  div a b := a / b
  sqrt := sqrt
  abs a := |a|
  max a b := if a ≤ b then b else a
  clamp a lo hi := if a < lo then lo else if hi < a then hi else a
  eq a b := decide (a = b)
  le a b := decide (a ≤ b)
  lt a b := decide (a < b)

@[reducible]
def Floats.exact (p : Primitives K) : Floats where
  f32 := .exact p.sqrt
  f64 := .exact p.sqrt
  epsilon := p.epsilon
  widen := id
  narrow := id
  ofInt32 := p.ofInt32
  roundInt32 := p.roundInt32

namespace FloatFormat

variable (sqrt : K → K)

theorem clamp_mem_Icc (a : K) {lo hi : K} (h : lo ≤ hi)
    : (exact sqrt).clamp a lo hi ∈ Set.Icc lo hi := by
  change (if a < lo then lo else if hi < a then hi else a) ∈ Set.Icc lo hi
  split
  . exact ⟨le_rfl, h⟩
  . next hlo =>
    split
    . exact ⟨h, le_rfl⟩
    . next hhi => exact ⟨not_lt.mp hlo, not_lt.mp hhi⟩

section Mix

variable [IsStrictOrderedRing K]

def mix (R : FloatFormat) (alpha curr prev : R) : R :=
  R.add (R.mul alpha curr) (R.mul (R.sub (R.ofNat 1) alpha) prev)

theorem clamp_unit (a : K)
    : (exact sqrt).clamp a ((exact sqrt).ofNat 0) ((exact sqrt).ofNat 1) ∈ (Set.Icc 0 1 : Set K) := by
  simpa using clamp_mem_Icc sqrt a (zero_le_one' K)

theorem mix_mem_Icc {alpha curr prev lo hi : K} (halpha : alpha ∈ Set.Icc 0 1)
    (hcurr : curr ∈ Set.Icc lo hi) (hprev : prev ∈ Set.Icc lo hi)
    : mix (exact sqrt) alpha curr prev ∈ Set.Icc lo hi := by
  have hmix := convex_Icc lo hi hcurr hprev halpha.1 (sub_nonneg.mpr halpha.2)
    (add_sub_cancel alpha 1)
  simpa [mix] using hmix

end Mix

end FloatFormat
