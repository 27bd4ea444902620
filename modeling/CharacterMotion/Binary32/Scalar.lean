import CharacterMotion.Scalar

/-!
Single precision numbers as scalars. Sum, difference, product, quotient and square root round to
nearest, ties to even, one operation at a time; nothing is fused and nothing is computed more
precisely.

The exponential is correctly rounded as well: it is the single precision number nearest to the exact
power of e. The magnitude of the argument is a dyadic number, so it is held exactly in fixed point
with `fractionBits` bits. Its power of e comes from the power series of a 256th of it, squared eight
times, with an error far below what rounding can see: an argument that is not zero leaves its power
at least `2 ^ (-60)` of itself away from the midpoint of two neighbours. Powers of a positive
argument never fall below one (`one_le_power`), and a negative argument takes the reciprocal, which
therefore never exceeds one.
-/

namespace CharacterMotion.Binary32

open Float.Model (Format UnpackedFloat)
open Float.Model.UnpackedFloat (Sign)

/-- Bits after the binary point of the fixed point numbers below. -/
def fractionBits : Nat := 256

/-- The number one in fixed point. -/
def one : Nat := 1 <<< fractionBits

/-- The sum of `term` and the next `count` terms of the power series at `r`, where `term` is the one
of degree `degree`. -/
def seriesFrom (r : Nat) : Nat → Nat → Nat → Nat
  | 0, _, term => term
  | count + 1, degree, term =>
      term + seriesFrom r count (degree + 1) (term * r / (one * (degree + 1)))

/-- Squaring in fixed point. -/
def square (v : Nat) : Nat := v * v / one

/-- The power of e whose exponent is `256 * r`. -/
def power (r : Nat) : Nat :=
  Nat.repeat square 8 (seriesFrom r 60 0 one)

theorem one_pos : 0 < one := by decide

theorem le_seriesFrom (r count degree term : Nat) : term ≤ seriesFrom r count degree term := by
  cases count with
  | zero => exact Nat.le_refl _
  | succ count => exact Nat.le_add_right _ _

theorem one_le_square {v : Nat} (h : one ≤ v) : one ≤ square v :=
  (Nat.le_div_iff_mul_le one_pos).2 (Nat.mul_le_mul h h)

theorem one_le_repeat_square (n : Nat) {v : Nat} (h : one ≤ v) : one ≤ Nat.repeat square n v := by
  induction n with
  | zero => exact h
  | succ n ih => exact one_le_square ih

theorem one_le_power (r : Nat) : one ≤ power r :=
  one_le_repeat_square 8 (le_seriesFrom r 60 0 one)

theorem power_pos (r : Nat) : 0 < power r :=
  Nat.lt_of_lt_of_le one_pos (one_le_power r)

/-- The single precision number nearest to the quotient of two positive numbers. -/
def nearestQuotient (num den : Nat) (hn : 0 < num) (hd : 0 < den) : Float32 :=
  .ofModel <| .pack <|
    .div Format.binary32 (.finite .positive num 0 hn) (.finite .positive den 0 hd)

/-- The power of e with a finite exponent of the given sign and magnitude `m * 2 ^ e`. From a
magnitude of 128 on the result is infinite or zero, since it leaves the range of the format. -/
def expFinite (sign : Sign) (m : Nat) (e : Int) : Float32 :=
  let magnitude := m <<< (e + fractionBits).toNat
  match sign with
  | .positive =>
      if 128 * one ≤ magnitude then 1.0 / 0.0
      else nearestQuotient (power (magnitude / 256)) one (power_pos _) one_pos
  | .negative =>
      if 128 * one ≤ magnitude then 0.0
      else nearestQuotient one (power (magnitude / 256)) one_pos (power_pos _)

/-- The power of e, correctly rounded. -/
def exp (x : Float32) : Float32 :=
  match x.toModel.unpack with
  | .notANumber => x
  | .infinity .positive => x
  | .infinity .negative => 0.0
  | .zero _ => 1.0
  | .finite sign m e _ => expFinite sign m e

instance : Scalar Float32 where
  decidableLT := inferInstance
  decidableLE := inferInstance
  isFinite := Float32.isFinite
  greatest? := some (Float32.ofBits 0x7f7fffff)
  abs := Float32.abs
  sqrt := Float32.sqrt
  exp := exp
  sin := Float32.sin
  cos := Float32.cos
  atan2 := Float32.atan2

end CharacterMotion.Binary32
