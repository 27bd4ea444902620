import CharacterMotion.Proofs.Binary32.Basic
import CharacterMotion.Proofs.Binary32.Comparison
import CharacterMotion.Proofs.Binary32.Operations

/-!
Arithmetic of single precision numbers, as rounded arithmetic of real ones. What an operation on
finite numbers gives, if that is finite, is near the exact result, and it is finite unless the exact
result is large (`Result`).
-/

namespace CharacterMotion.Binary32

open Float.Model (Format UnpackedFloat)
open Float.Model.UnpackedFloat (Sign pack unpack)

variable {x y : Float32} {k : Nat}

/-- What an operation gives whose exact result is `r`. -/
structure Result (x : Float32) (r : ℝ) : Prop where
  near : Scalar.isFinite x → Near (real x) r
  finite : |r| < 2 ^ 127 → Scalar.isFinite x
  /-- Even if it is infinite. -/
  nonneg : 0 ≤ r → 0 ≤ x

theorem Result.ofRounds {u : UnpackedFloat} {r : ℝ} (rounds : Rounds u r)
    (stored : x.toModel.unpack = unpack Format.binary32 (pack Format.binary32 u)) :
    Result x r := by
  have status : Scalar.isFinite x = x.toModel.unpack.isFinite := rfl
  rcases rounds.unpack_pack with read | ⟨large, overflow⟩
  · have same : real x = number u := by rw [real_eq_number, stored, read]
    have finite : Scalar.isFinite x := by
      rw [status, stored, read]
      exact rounds.finite
    have near : Near (real x) r := same ▸ rounds.near
    refine ⟨fun _ => near, fun _ => finite, fun nonneg => ?_⟩
    exact (nonneg_iff finite).mpr (near.nonneg nonneg)
  · rw [← stored] at overflow
    refine ⟨fun finite => ?_, fun less => absurd less large.not_gt, fun nonneg => ?_⟩
    · rcases overflow with ⟨-, read⟩ | ⟨-, read⟩ <;> rw [status, read] at finite <;> cases finite
    · rcases overflow with ⟨-, read⟩ | ⟨neg, -⟩
      · rw [nonneg_iff_side, side, read]
        rfl
      · exact absurd nonneg neg.not_ge

/-- A bound by a power of two is kept by what the operation gives. -/
theorem Result.bounded {r : ℝ} (result : Result x r) (less : |r| < 2 ^ k) (ranged : k ≤ 127) :
    Scalar.isFinite x ∧ |real x| ≤ 2 ^ k := by
  have finite := result.finite (less.trans_le (pow_le_pow_right₀ one_le_two ranged))
  exact ⟨finite, (result.near finite).bounded k less⟩

theorem Result.eq_zero (result : Result x 0) : Scalar.isFinite x ∧ real x = 0 := by
  have finite := result.finite (by norm_num)
  exact ⟨finite, (result.near finite).eq_zero⟩

theorem result_neg (finite : Scalar.isFinite x) : Result (-x) (-real x) := by
  rw [real_eq_number]
  exact .ofRounds (.neg finite (canonical_toModel x)) rfl

theorem result_add (finite : Scalar.isFinite x) (finite' : Scalar.isFinite y) :
    Result (x + y) (real x + real y) := by
  rw [real_eq_number, real_eq_number]
  exact .ofRounds (.add finite finite' (canonical_toModel x) (canonical_toModel y)) rfl

theorem result_sub (finite : Scalar.isFinite x) (finite' : Scalar.isFinite y) :
    Result (x - y) (real x - real y) := by
  rw [real_eq_number, real_eq_number]
  exact .ofRounds (.sub finite finite' (canonical_toModel x) (canonical_toModel y)) rfl

theorem result_mul (finite : Scalar.isFinite x) (finite' : Scalar.isFinite y) :
    Result (x * y) (real x * real y) := by
  rw [real_eq_number, real_eq_number]
  exact .ofRounds (.mul finite finite' (canonical_toModel x) (canonical_toModel y)) rfl

theorem result_div (finite : Scalar.isFinite x) (finite' : Scalar.isFinite y)
    (some : real y ≠ 0) : Result (x / y) (real x / real y) := by
  rw [real_eq_number] at some
  rw [real_eq_number, real_eq_number]
  exact .ofRounds (.div finite finite' some) rfl

theorem result_sqrt (finite : Scalar.isFinite x) (nonneg : 0 ≤ real x) :
    Result (Scalar.sqrt x) √(real x) := by
  rw [real_eq_number] at nonneg
  rw [real_eq_number]
  exact .ofRounds (.sqrt finite nonneg) rfl

theorem real_one : real 1 = 1 := by
  have read : (1 : Float32).toModel.unpack = .finite .positive (2 ^ 23) (-23) (by decide) := rfl
  rw [real_eq_number, read, number_positive]
  norm_num

/-! ### Zero -/

theorem real_zero_mul (zero : real x = 0) (finite : Scalar.isFinite x)
    (finite' : Scalar.isFinite y) : Scalar.isFinite (x * y) ∧ real (x * y) = 0 := by
  have result := result_mul finite finite'
  rw [zero, zero_mul] at result
  exact result.eq_zero

theorem real_mul_zero (zero : real y = 0) (finite : Scalar.isFinite x)
    (finite' : Scalar.isFinite y) : Scalar.isFinite (x * y) ∧ real (x * y) = 0 := by
  have result := result_mul finite finite'
  rw [zero, mul_zero] at result
  exact result.eq_zero

/-- A zero adds nothing. -/
theorem real_add_of_zero (finite : Scalar.isFinite x) (finite' : Scalar.isFinite y)
    (zero : real y = 0) : real (x + y) = real x := by
  obtain ⟨s₁, read₁⟩ | ⟨s₁, m₁, e₁, some₁, read₁⟩ := zero_or_finite finite
  · have none : real x = 0 := by
      rw [real_eq_number, read₁, number_zero]
    have result := result_add finite finite'
    rw [none, zero, add_zero] at result
    rw [none]
    exact result.eq_zero.2
  · obtain ⟨s₂, read₂⟩ | ⟨s₂, m₂, e₂, some₂, read₂⟩ := zero_or_finite finite'
    · have sum : x + y = .ofModel (.pack (.add .binary32 x.toModel.unpack y.toModel.unpack)) := rfl
      have stored := ofModel_pack_unpack x
      rw [read₁] at stored
      rw [sum, read₁, read₂]
      exact congrArg real stored
    · rw [real_eq_number, read₂] at zero
      have magnitude : |number (.finite s₂ m₂ e₂ some₂)| = m₂ * 2 ^ e₂ := abs_number
      rw [zero, abs_zero] at magnitude
      exact absurd magnitude (by positivity)

/-- The sum of a number and a change that keeps it within a power of two is within that power. A
change of zero has to be kept apart, since the number may be that power. -/
theorem add_within (finite : Scalar.isFinite x) (finite' : Scalar.isFinite y)
    (within : |real x| ≤ 2 ^ k) (small : k ≤ 126) (keeps : real y = 0 ∨ |real x + real y| < 2 ^ k) :
    Scalar.isFinite (x + y) ∧ |real (x + y)| ≤ 2 ^ k := by
  have result := result_add finite finite'
  have ranged : (2 : ℝ) ^ k < 2 ^ 127 := pow_lt_pow_right₀ one_lt_two (by omega)
  rcases keeps with zero | less
  · refine ⟨result.finite ?_, ?_⟩
    · rw [zero, add_zero]
      exact within.trans_lt ranged
    · rwa [real_add_of_zero finite finite' zero]
  · have sum := result.finite (less.trans ranged)
    exact ⟨sum, (result.near sum).bounded k less⟩

/-- The same number, or zeros of either sign. -/
def Alike (x y : Float32) : Prop := x = y ∨ (Scalar.agrees x 0 = true ∧ Scalar.agrees y 0 = true)

/-- A sum that starts with zero gives its other part, up to the sign of a zero: the sum of two zeros
is positive even if one of them is not. -/
theorem zero_add_alike (x : Float32) : Alike (0 + x) x := by
  have sum : 0 + x = .ofModel (.pack (.add .binary32 (.zero .positive) x.toModel.unpack)) := rfl
  have stored := ofModel_pack_unpack x
  cases unpacked : x.toModel.unpack with
  | zero sign =>
      right
      rw [unpacked] at sum stored
      rw [sum, ← stored]
      cases sign <;> decide
  | _ =>
      left
      rw [unpacked] at sum stored
      exact sum.trans stored

end CharacterMotion.Binary32
