import CharacterMotion.Decimal.Fixed

/-!
The shortest decimal text that reads back as the same single precision number.

The reals that round to `m * 2 ^ e` form an interval around it. Its ends are midway to the two
neighbours and belong to it when `m` is even, because ties go to even. A decimal with few digits is
a multiple of a large power of ten, so the search tries the powers of ten from the largest down:
the first one with a multiple inside the interval gives the fewest digits, and of the multiples of
that power the one nearest to the number is written.
-/

namespace CharacterMotion.Decimal

/-- Significant bits of a single precision number, and the exponent of its last possible one. -/
def significantBits : Nat := 24
def leastExponent : Int := -149

/-- The interval of reals that round to a number, with the number itself, all as multiples of one
unit that the context knows. -/
structure Interval where
  low : Nat
  value : Nat
  high : Nat
  closed : Bool
  deriving DecidableEq, Repr

namespace Interval

/-- The interval around `m * 2 ^ e` in units of `2 ^ (e - 2)`. The neighbour below is only half as
far away where the exponent steps down, which is at the least mantissa of a binade other than the
first. -/
def around (m : Nat) (e : Int) : Interval where
  low := if m = 1 <<< (significantBits - 1) ∧ e ≠ leastExponent then 4 * m - 1 else 4 * m - 2
  value := 4 * m
  high := 4 * m + 2
  closed := m % 2 = 0

def scale (i : Interval) (k : Nat) : Interval :=
  { i with low := i.low * k, value := i.value * k, high := i.high * k }

def mem (i : Interval) (n : Nat) : Bool :=
  if i.closed then i.low ≤ n && n ≤ i.high else i.low < n && n < i.high

/-- The multiple of `step` in the interval that is nearest to the number, as a count of steps. Of
two that are equally near it is the upper one. -/
def nearestMultiple? (i : Interval) (step : Nat) : Option Nat :=
  let below := i.value / step
  match i.mem (below * step), i.mem ((below + 1) * step) with
  | true, true =>
      if i.value - below * step < (below + 1) * step - i.value then some below else some (below + 1)
  | true, false => some below
  | false, true => some (below + 1)
  | false, false => none

end Interval

/-- Decimal digits and the power of ten that they count. -/
structure Digits where
  digits : Nat
  exponent : Int
  deriving DecidableEq, Repr

/-- The multiple of a power of ten that stands for `m * 2 ^ e`, if there is one in its interval. -/
def onGrid? (m : Nat) (e exponent : Int) : Option Digits := do
  let unit := e - 2
  let interval := (Interval.around m e).scale (tenPow (-exponent).toNat <<< unit.toNat)
  let step := tenPow exponent.toNat <<< (-unit).toNat
  let digits ← interval.nearestMultiple? step
  return ⟨digits, exponent⟩

/-- All digits of `m * 2 ^ e`. -/
def exactDigits (m : Nat) (e : Int) : Digits :=
  ⟨(m * Nat.pow 5 (-e).toNat) <<< e.toNat, min e 0⟩

/-- Tries `count` powers of ten from `exponent` down, and then settles for all digits. -/
def search (m : Nat) (e : Int) : Nat → Int → Digits
  | 0, _ => exactDigits m e
  | count + 1, exponent =>
      match onGrid? m e exponent with
      | some found => found
      | none => search m e count (exponent - 1)

/-- The greatest power of ten below the greatest number. Nine digits tell single precision numbers
apart, so no number needs a digit further right than the 54th after the point. -/
def greatestPower : Int := 38
def powers : Nat := 38 + 1 + 54

def shortestDigits (m : Nat) (e : Int) : Digits :=
  search m e powers greatestPower

def shortest (x : Float32) : String :=
  write "0" (fun m e => let d := shortestDigits m e; positional d.digits d.exponent)
    x.toModel.unpack

end CharacterMotion.Decimal
