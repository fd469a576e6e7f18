import Mathlib.Data.Rat.Sqrt

/-!
This module contains the floating point operations of the runtime as a parameter of the model.
Nothing is assumed about them here, results that depend on a property of an operation ask for it.
-/

/--
One floating point type with the operations the runtime applies to it. The comparisons are Boolean
because on `NaN` they need not be related to each other.
-/
structure FloatFormat where
  carrier : Type
  ofNat : Nat → carrier
  add : carrier → carrier → carrier
  sub : carrier → carrier → carrier
  mul : carrier → carrier → carrier
  div : carrier → carrier → carrier
  sqrt : carrier → carrier
  abs : carrier → carrier
  max : carrier → carrier → carrier
  clamp : carrier → carrier → carrier → carrier
  eq : carrier → carrier → Bool
  le : carrier → carrier → Bool
  lt : carrier → carrier → Bool

instance : CoeSort FloatFormat Type where
  coe := FloatFormat.carrier

namespace FloatFormat

variable (R : FloatFormat)

def sum (vs : List R) : R := vs.foldl R.add (R.ofNat 0)

def eqVector {n : Nat} (v w : Vector R n) : Bool :=
  (v.toList.zip w.toList).all fun p => R.eq p.1 p.2

/--
Exact rational arithmetic. It has no `NaN`, and a square root is exact on the squares only.
-/
def rational : FloatFormat where
  carrier := Rat
  ofNat n := n
  add a b := a + b
  sub a b := a - b
  mul a b := a * b
  div a b := a / b
  sqrt a := Rat.sqrt a
  abs a := if a < 0 then -a else a
  max a b := if a ≤ b then b else a
  clamp a lo hi := if a < lo then lo else if hi < a then hi else a
  eq a b := a == b
  le a b := decide (a ≤ b)
  lt a b := decide (a < b)

end FloatFormat

/--
The two floating point types `f32` and `f64` with the casts between them and from and to `i32`.
-/
structure Floats where
  f32 : FloatFormat
  f64 : FloatFormat
  /-- `f32::EPSILON` -/
  epsilon : f32
  /-- `as f64` -/
  widen : f32 → f64
  /-- `as f32` on an `f64` -/
  narrow : f64 → f32
  /-- `as f32` on an `i32` -/
  ofInt32 : Int32 → f32
  /-- `.round() as i32` -/
  roundInt32 : f32 → Int32

namespace Floats

def rational : Floats where
  f32 := .rational
  f64 := .rational
  epsilon := (1 / 2 ^ 23 : Rat)
  widen := fun (a : Rat) => (a : Rat)
  narrow := fun (a : Rat) => (a : Rat)
  ofInt32 := fun n => ((n.toInt : Int) : Rat)
  roundInt32 := fun (a : Rat) =>
    -- halves are rounded away from zero, the cast saturates
    let n : Int := if a < 0 then -((-a + 1 / 2).floor) else (a + 1 / 2).floor
    Int32.ofInt (min (max n (-2 ^ 31)) (2 ^ 31 - 1))

end Floats
