import CharacterMotion.Notice
import Mathlib.Analysis.SpecialFunctions.Complex.Arg
import Mathlib.Analysis.SpecialFunctions.Exp
import Mathlib.Analysis.SpecialFunctions.Sqrt

/-!
The real numbers as scalars. Every number is finite and none is the greatest, nothing fails to
compare with itself, and the choices between two values are the usual minimum and maximum.
-/

namespace CharacterMotion

-- Without these two a quotient or a decimal is the field's or the scalar's, as the imports fall.
noncomputable instance instDivReal : Div ℝ := DivInvMonoid.toDiv
noncomputable instance instOfScientificReal : OfScientific ℝ := NNRatCast.toOfScientific

open Classical in
noncomputable instance : Scalar ℝ where
  decidableLT := fun _ _ => propDecidable _
  decidableLE := fun _ _ => propDecidable _
  isFinite _ := true
  greatest? := none
  abs a := |a|
  sqrt := Real.sqrt
  exp := Real.exp
  sin := Real.sin
  cos := Real.cos
  atan2 x z := Complex.arg ⟨z, x⟩

namespace Scalar

@[simp] theorem isFinite_real (a : ℝ) : isFinite a = true := rfl

@[simp] theorem isNaN_real (a : ℝ) : isNaN a = false := by
  simp [isNaN]

@[simp] theorem sqrt_real (a : ℝ) : sqrt a = √a := rfl

@[simp] theorem exp_real (a : ℝ) : exp a = Real.exp a := rfl

theorem agrees_real_iff {a b : ℝ} : agrees a b = true ↔ a = b := by
  rw [agrees, Bool.and_eq_true, decide_eq_true_eq, decide_eq_true_eq]
  exact antisymm_iff

@[simp] theorem smaller_real (a b : ℝ) : smaller a b = min a b := by
  unfold smaller
  split <;> rename_i less
  · have lt : b < a := by simpa using less
    exact (min_eq_right lt.le).symm
  · have le : a ≤ b := by simpa using less
    exact (min_eq_left le).symm

@[simp] theorem larger_real (a b : ℝ) : larger a b = max a b := by
  unfold larger
  split <;> rename_i less
  · have lt : b < a := by simpa using less
    exact (max_eq_left lt.le).symm
  · have le : a ≤ b := by simpa using less
    exact (max_eq_right le).symm

@[simp] theorem nonneg_real (a : ℝ) : nonneg a = max a 0 := larger_real a 0

@[simp] theorem lower_real (a b : ℝ) : lower a b = min a b := by
  unfold lower
  split <;> rename_i le
  · exact (min_eq_left le).symm
  · exact (min_eq_right (not_le.mp le).le).symm

@[simp] theorem upper_real (a b : ℝ) : upper a b = max a b := by
  unfold upper
  split <;> rename_i le
  · exact (max_eq_left le).symm
  · exact (max_eq_right (not_le.mp le).le).symm

@[simp] theorem capped_real (a : ℝ) : capped a = a := rfl

@[simp] theorem belowGreatest_real (a : ℝ) : belowGreatest a = true := rfl

theorem clampUnit_real (a : ℝ) : clampUnit a = max 0 (min a 1) := by
  unfold clampUnit
  split <;> rename_i negative
  · rw [max_eq_left ((min_le_left a 1).trans negative.le)]
  · rw [max_eq_right (le_min (not_lt.mp negative) zero_le_one)]
    split <;> rename_i above
    · rw [min_eq_right above.le]
    · rw [min_eq_left (not_lt.mp above)]

end Scalar

theorem isTimestep_real_iff {dt : ℝ} : isTimestep dt = true ↔ 0 ≤ dt := by
  simp [isTimestep]

end CharacterMotion
