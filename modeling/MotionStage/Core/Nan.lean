import Mathlib.Algebra.Order.Ring.Rat
import MotionStage.Core.Float
import MotionStage.Data.Nan

/-!
This module contains floating point operations whose values are ordered apart from a `NaN`.
-/

/--
What the order leaves open: the literals, which are numbers, and the arithmetic.
-/
structure Arithmetic (K : Type) [LinearOrder K] where
  ofNat : Nat → K
  zero_le_one : ofNat 0 ≤ ofNat 1
  add : WithNan K → WithNan K → WithNan K
  sub : WithNan K → WithNan K → WithNan K
  mul : WithNan K → WithNan K → WithNan K
  div : WithNan K → WithNan K → WithNan K
  sqrt : WithNan K → WithNan K
  abs : WithNan K → WithNan K

@[reducible]
def FloatFormat.withNan {K : Type} [LinearOrder K] (ops : Arithmetic K) : FloatFormat where
  carrier := WithNan K
  ofNat n := .num (ops.ofNat n)
  add := ops.add
  sub := ops.sub
  mul := ops.mul
  div := ops.div
  sqrt := ops.sqrt
  abs := ops.abs
  max := WithNan.maxNum
  clamp := WithNan.clamp
  eq := WithNan.eq
  le := WithNan.le
  lt := WithNan.lt

/--
Two floating point types and the casts between them. The cast to the wider type is exact.
-/
structure Casts (K L : Type) [LinearOrder K] [LinearOrder L] where
  f32 : Arithmetic K
  f64 : Arithmetic L
  epsilon : WithNan K
  widen : K ↪o L
  narrow : WithNan L → WithNan K
  ofInt32 : Int32 → WithNan K
  roundInt32 : WithNan K → Int32

@[reducible]
def Floats.withNan {K L : Type} [LinearOrder K] [LinearOrder L] (p : Casts K L) : Floats where
  f32 := .withNan p.f32
  f64 := .withNan p.f64
  epsilon := p.epsilon
  widen := .map p.widen
  narrow := p.narrow
  ofInt32 := p.ofInt32
  roundInt32 := p.roundInt32

/--
Rational arithmetic, with a `NaN` for what it does not define.
-/
def Casts.rational : Casts ℚ ℚ where
  f32 := arith
  f64 := arith
  epsilon := .num (1 / 2 ^ 23)
  widen := RelEmbedding.refl (· ≤ ·)
  narrow := id
  ofInt32 n := .num n.toInt
  roundInt32
    | .nan => 0
    | .num a => Int32.ofInt a.floor
where
  arith : Arithmetic ℚ :=
    { ofNat := fun n => n
      zero_le_one := by decide
      add := .map₂ (· + ·)
      sub := .map₂ (· - ·)
      mul := .map₂ (· * ·)
      div := fun a b => if b = .num 0 then .nan else .map₂ (· / ·) a b
      sqrt := fun a => if a.lt (.num 0) then .nan else a.map fun a => Rat.sqrt a
      abs := .map fun a => |a| }
