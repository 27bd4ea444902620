/-!
Arithmetic over which the motion rules are written.

Every rule of the library is stated once, for any `Scalar`. Single precision numbers are the
instance that runs (`CharacterMotion.Binary32.Scalar`). The exact reals can be another, and a law
proved of them is a law of the formulas themselves, free of rounding.

A value that compares with nothing (a NaN) is recognised by not being at most itself. The choices
between two values below say what becomes of such a value, and which of two equal ones is taken,
since zeros have a sign; over an ordered field they are the usual ones.
-/

namespace CharacterMotion

/-- Numbers with the operations that the motion rules use. Nothing is assumed of them here. -/
class Scalar (α : Type) extends Zero α, One α, Add α, Sub α, Mul α, Div α, Neg α, LT α, LE α,
    OfScientific α where
  decidableLT : DecidableLT α
  decidableLE : DecidableLE α
  /-- Neither infinite nor a NaN. -/
  isFinite : α → Bool
  /-- The greatest finite number, where there is one. -/
  greatest? : Option α
  abs : α → α
  sqrt : α → α
  exp : α → α
  sin : α → α
  cos : α → α
  /-- The angle at which the point `(z, x)` of the plane lies, for the arguments `x` and `z`. -/
  atan2 : α → α → α

attribute [reducible, instance] Scalar.decidableLT Scalar.decidableLE

namespace Scalar

variable {α : Type} [Scalar α]

/-- A whole number, rounded if it has to be. -/
def ofNat (n : Nat) : α :=
  OfScientific.ofScientific n false 0

/-- A value that is not even at most itself. -/
def isNaN (a : α) : Bool :=
  !decide (a ≤ a)

/-- Numerical equality: zeros of either sign agree, a NaN agrees with nothing. -/
def agrees (a b : α) : Bool :=
  decide (a ≤ b) && decide (b ≤ a)

/-- The larger of two values, where a NaN gives way to the other one. Of equals it is the second. -/
def larger (a b : α) : α :=
  if b < a ∨ isNaN b then a else b

/-- The smaller of two values, where a NaN gives way to the other one. Of equals it is the first. -/
def smaller (a b : α) : α :=
  if b < a ∨ isNaN a then b else a

/-- The lower of two values; of two that do not compare it is the second. -/
def lower (a b : α) : α :=
  if a ≤ b then a else b

/-- The upper of two values; of two that do not compare it is the second. -/
def upper (a b : α) : α :=
  if b ≤ a then a else b

/-- A value brought down to the greatest number, as is a NaN. Where no number is the greatest it
stays what it is. -/
def capped (a : α) : α :=
  (greatest? : Option α).elim a (lower a)

/-- Below the greatest number, where there is one. -/
def belowGreatest (a : α) : Bool :=
  (greatest? : Option α).all (a < ·)

/-- The nearest value between zero and one; a NaN stays what it is. -/
def clampUnit (a : α) : α :=
  if a < 0 then 0 else if 1 < a then 1 else a

/-- The part of a value above zero; nothing is left of a NaN, nor of the sign of a zero. -/
def nonneg (a : α) : α :=
  larger a 0

end Scalar

end CharacterMotion
