import CharacterMotion.Proofs.Exact.Heading

/-!
Real numbers among which not every operation has a result. A division by zero and the root of a
negative number are undefined, and so is whatever is computed from something undefined; a comparison
with it fails. Rules that are written for any scalars can be run over these numbers as well. Where
the outcome is that of the real numbers (`Vec3.real`, `Heading.real`), nothing undefined has entered
it.
-/

namespace CharacterMotion

inductive Partial where
  | real (x : ℝ)
  | undefined

namespace Partial

def map (f : ℝ → ℝ) : Partial → Partial
  | real x => real (f x)
  | undefined => undefined

def map₂ (f : ℝ → ℝ → ℝ) : Partial → Partial → Partial
  | real x, real y => real (f x y)
  | _, _ => undefined

open Classical in
noncomputable def quotient : Partial → Partial → Partial
  | real x, real y => if y = 0 then undefined else real (x / y)
  | _, _ => undefined

open Classical in
noncomputable def root : Partial → Partial
  | real x => if x < 0 then undefined else real √x
  | undefined => undefined

/-- Both are defined, and the numbers are related. -/
def Related (r : ℝ → ℝ → Prop) : Partial → Partial → Prop
  | real x, real y => r x y
  | _, _ => False

def isReal : Partial → Bool
  | real _ => true
  | undefined => false

open Classical in
noncomputable instance : Scalar Partial where
  zero := real 0
  one := real 1
  add := map₂ (· + ·)
  sub := map₂ (· - ·)
  mul := map₂ (· * ·)
  div := quotient
  neg := map (- ·)
  lt := Related (· < ·)
  le := Related (· ≤ ·)
  ofScientific m s e := real (OfScientific.ofScientific m s e)
  decidableLT := fun _ _ => propDecidable _
  decidableLE := fun _ _ => propDecidable _
  isFinite := isReal
  greatest? := none
  abs := map (|·|)
  sqrt := root
  exp := map Real.exp
  sin := map Real.sin
  cos := map Real.cos
  atan2 := map₂ fun x z => Complex.arg ⟨z, x⟩

/-! ### Operations on real numbers -/

variable {x y : ℝ}

theorem zero_eq : (0 : Partial) = real 0 := rfl

theorem one_eq : (1 : Partial) = real 1 := rfl

@[simp] theorem real_sub (x y : ℝ) : real x - real y = real (x - y) := rfl

@[simp] theorem real_mul (x y : ℝ) : real x * real y = real (x * y) := rfl

@[simp] theorem neg_real (x : ℝ) : -real x = real (-x) := rfl

theorem real_div (some : y ≠ 0) : real x / real y = real (x / y) := if_neg some

theorem sqrt_real (nonneg : 0 ≤ x) : Scalar.sqrt (real x) = real √x := if_neg (not_lt.mpr nonneg)

@[simp] theorem exp_real (x : ℝ) : Scalar.exp (real x) = real (Real.exp x) := rfl

@[simp] theorem real_lt_real_iff : real x < real y ↔ x < y := Iff.rfl

@[simp] theorem real_le_real_iff : real x ≤ real y ↔ x ≤ y := Iff.rfl

@[simp] theorem isNaN_real (x : ℝ) : Scalar.isNaN (real x) = false := by
  simp [Scalar.isNaN]

theorem agrees_real (x y : ℝ) : Scalar.agrees (real x) (real y) = Scalar.agrees x y := by
  simp [Scalar.agrees]

theorem nonneg_real (x : ℝ) : Scalar.nonneg (real x) = real (Scalar.nonneg x) := by
  simp only [Scalar.nonneg, Scalar.larger, zero_eq, real_lt_real_iff, isNaN_real, Scalar.isNaN_real]
  split <;> rfl

theorem clampUnit_real (x : ℝ) : Scalar.clampUnit (real x) = real (Scalar.clampUnit x) := by
  simp only [Scalar.clampUnit, zero_eq, one_eq, real_lt_real_iff]
  split
  · rfl
  · split <;> rfl

end Partial

open Partial (real)

theorem TurnModel.share_real (m : TurnModel) (rate dt : ℝ) :
    m.share (real rate) (real dt) = real (m.share rate dt) := by
  cases m with
  | exponential =>
      simp only [share, Partial.nonneg_real, Partial.neg_real, Partial.real_mul, Partial.exp_real,
        Partial.one_eq, Partial.real_sub]
      rfl
  | linear =>
      simp only [share, Partial.nonneg_real, Partial.real_mul, Partial.clampUnit_real]

namespace Vec3

/-- A vector of real numbers as one of numbers that might be undefined. -/
def real (v : Vec3 ℝ) : Vec3 Partial := ⟨.real v.x, .real v.y, .real v.z⟩

theorem up_cross_real (v : Vec3 ℝ) : (up : Vec3 Partial).cross v.real = (up.cross v).real := rfl

theorem lengthSq_real (v : Vec3 ℝ) : v.real.lengthSq = .real v.lengthSq := rfl

theorem length_real (v : Vec3 ℝ) : v.real.length = .real v.length := by
  rw [length, lengthSq_real, Partial.sqrt_real]
  · rfl
  · rw [← length_sq]
    exact sq_nonneg _

theorem div_real (v : Vec3 ℝ) {k : ℝ} (some : k ≠ 0) : v.real / Partial.real k = (v / k).real := by
  have quotients : v.real / Partial.real k =
      ⟨.real v.x / .real k, .real v.y / .real k, .real v.z / .real k⟩ := rfl
  rw [quotients, Partial.real_div some, Partial.real_div some, Partial.real_div some]
  rfl

/-- The vectors that have a direction, and they alone, can be brought to length one. -/
theorem normalize_real_iff {v : Vec3 ℝ} :
    v.real.normalize = v.normalize.real ↔ v.length ≠ 0 := by
  constructor
  · intro defined none
    have reciprocal : (1 : Partial) / .real 0 = .undefined := if_pos rfl
    rw [normalize, length_real, none, reciprocal] at defined
    cases congrArg Vec3.x defined
  · intro directed
    rw [normalize, length_real, Partial.one_eq, Partial.real_div directed]
    rfl

end Vec3

end CharacterMotion
