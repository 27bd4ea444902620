/-!
Single precision numbers to a fixed unit: as text with a given number of places, and as a count of
equal parts of one. Both start from the exact value, so they round once. The magnitude of a number
is dyadic, `m * 2 ^ e`, and so a quotient of natural numbers, of which the nearest whole number is
taken; `Tie` decides what lies midway. The text takes a half to the even digit; the count takes it
away from zero.

Numbers are written out in full: digits, a point where one is needed, and never an exponent. Around
the digits of a magnitude go the sign and the words for the values that have no digits.
-/

namespace CharacterMotion.Decimal

open Float.Model (UnpackedFloat)
open Float.Model.UnpackedFloat (Sign)

/-- What becomes of a quotient that lies midway between two whole numbers. -/
inductive Tie where
  | toEven
  | away
  deriving DecidableEq, Repr

/-- The whole number chosen for `lower + 1 / 2`. -/
def Tie.resolve : Tie → Nat → Nat
  | .toEven, lower => lower + lower % 2
  | .away, lower => lower + 1

def roundQuotient (tie : Tie) (num den : Nat) : Nat :=
  match compare (2 * (num % den)) den with
  | .lt => num / den
  | .eq => tie.resolve (num / den)
  | .gt => num / den + 1

/-- The nearest whole number to `scale * m * 2 ^ e`. -/
def roundDyadic (tie : Tie) (scale m : Nat) (e : Int) : Nat :=
  roundQuotient tie ((scale * m) <<< e.toNat) (1 <<< (-e).toNat)

/-! ### Digits and signs -/

/-- The power of ten with a natural exponent. -/
def tenPow (k : Nat) : Nat := Nat.pow 10 k

/-- The text of `n` units of the last of `places` digits after the point, all of them written. -/
def withPlaces (places n : Nat) : String :=
  if places = 0 then Nat.repr n
  else
    let fraction := Nat.repr (n % tenPow places)
    Nat.repr (n / tenPow places) ++ "." ++ "".pushn '0' (places - fraction.length) ++ fraction

/-- The number `n * 10 ^ exponent`. -/
def positional (n : Nat) (exponent : Int) : String :=
  withPlaces (-exponent).toNat (n * tenPow exponent.toNat)

def signText : Sign → String
  | .negative => "-"
  | .positive => ""

/-- The text of a floating point number, given the text of zero and that of a magnitude
`m * 2 ^ e`. A zero keeps its sign; a NaN has none. -/
def write (zero : String) (magnitude : Nat → Int → String) : UnpackedFloat → String
  | .notANumber => "NaN"
  | .infinity sign => signText sign ++ "inf"
  | .zero sign => signText sign ++ zero
  | .finite sign m e _ => signText sign ++ magnitude m e

/-! ### A fixed unit -/

/-- The number to `places` digits after the point. -/
def fixed (places : Nat) (x : Float32) : String :=
  write (withPlaces places 0)
    (fun m e => withPlaces places (roundDyadic .toEven (tenPow places) m e)) x.toModel.unpack

/-- The nearest value that a signed 64 bit word holds. -/
def clampWord (n : Int) : Int :=
  max Int64.minValue.toInt (min Int64.maxValue.toInt n)

/-- How many of `scale` equal parts of one make up the number, as far as a word can count. A NaN has
no count. -/
def parts? (scale : Nat) (x : Float32) : Option Int :=
  match x.toModel.unpack with
  | .notANumber => none
  | .infinity .positive => some Int64.maxValue.toInt
  | .infinity .negative => some Int64.minValue.toInt
  | .zero _ => some 0
  | .finite sign m e _ => some (clampWord (sign.apply (roundDyadic .away scale m e)))

end CharacterMotion.Decimal
