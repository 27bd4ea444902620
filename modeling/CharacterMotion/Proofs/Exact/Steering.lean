import CharacterMotion.Controller.Steering
import CharacterMotion.Proofs.Exact.Vec3

/-!
Steering over the real numbers. Pursuing a velocity goes straight toward it and braking straight
toward rest, each by a fraction of the way (`flat_pursue`, `flat_brake`). How far it goes is the
least of three lengths when pursuing: of the whole way, of what the acceleration allows, and of the
proportional part; and the lesser of drag and speed when braking.
-/

namespace CharacterMotion.Steering

/-- The change of velocity is a fraction of the difference. -/
theorem approach_eq_mul {acceleration dt : ℝ} (accelerates : 0 ≤ acceleration) (passes : 0 ≤ dt)
    (difference : Vec3 ℝ) :
    ∃ s, 0 ≤ s ∧ s ≤ 1 ∧ approach acceleration dt difference = difference * s ∧
      s * difference.length = min (min difference.length (acceleration * dt))
        (difference.length * (acceleration * dt)) := by
  have rate_nonneg : 0 ≤ acceleration * dt := mul_nonneg accelerates passes
  have change : difference * acceleration * dt = difference * (acceleration * dt) := by
    ext <;> simp [mul_assoc]
  have length_change : (difference * (acceleration * dt)).length =
      difference.length * (acceleration * dt) := by
    rw [Vec3.length_mul, abs_of_nonneg rate_nonneg]
  simp only [approach, change, length_change, Scalar.smaller_real]
  generalize acceleration * dt = rate at *
  rcases difference.length_nonneg.eq_or_lt with none | some
  · -- There is nothing to approach, and any fraction of it is the same.
    refine ⟨0, le_rfl, zero_le_one, ?_, ?_⟩
    · rw [Vec3.length_eq_zero_iff.mp none.symm]
      split <;> ext <;> simp
    · rw [← none, zero_mul, zero_mul, min_eq_left rate_nonneg, min_self]
  · split <;> rename_i longer
    · have long_pos : 0 < difference.length * rate :=
        lt_of_le_of_lt (le_min some.le rate_nonneg) longer
      refine ⟨min difference.length rate / difference.length,
        div_nonneg (le_min some.le rate_nonneg) some.le,
        (div_le_one some).mpr (min_le_left ..), ?_, ?_⟩
      · have rate_ne : rate ≠ 0 := (pos_of_mul_pos_right long_pos some.le).ne'
        ext <;> simp <;> field_simp
      · rw [div_mul_cancel₀ _ some.ne', min_eq_left longer.le]
    · have shorter := not_lt.mp longer
      have le_one : rate ≤ 1 := by
        have := shorter.trans (min_le_left ..)
        exact (mul_le_iff_le_one_right some).mp this
      refine ⟨rate, rate_nonneg, le_one, rfl, ?_⟩
      rw [min_eq_right shorter, mul_comm]

/-- A pursuing frame moves the velocity straight toward the wanted one, in the horizontal plane. -/
theorem flat_pursue {acceleration dt : ℝ} (accelerates : 0 ≤ acceleration) (passes : 0 ≤ dt)
    {speed : ℝ} {direction v target difference : Vec3 ℝ} (input : 0 < direction.length)
    (level : direction.y = 0) (aims : target = direction.normalize * speed)
    (gap : difference = target - v.flat) :
    ∃ s, 0 ≤ s ∧ s ≤ 1 ∧ (pursue acceleration speed dt direction v).flat = v.flat.lerp target s ∧
      s * difference.length = min (min difference.length (acceleration * dt))
        (difference.length * (acceleration * dt)) := by
  obtain ⟨s, nonneg, le_one, moves, length⟩ := approach_eq_mul accelerates passes difference
  refine ⟨s, nonneg, le_one, ?_, length⟩
  have target_level : target.y = 0 := by
    rw [aims]
    simp [Vec3.normalize, level]
  unfold pursue
  rw [Vec3.normalizeOrZero_eq input, ← aims, ← gap, moves, gap]
  ext
  · simp [push, Vec3.lerp]
    ring
  · simp [Vec3.lerp, target_level]
  · simp [push, Vec3.lerp]
    ring

theorem drag_nonneg {t : Tuning ℝ} {dt : ℝ} (passes : 0 ≤ dt) (decelerates : 0 ≤ t.deceleration)
    (rubs : 0 ≤ t.groundFriction) (resists : 0 ≤ t.airResistance) (onGround : Bool) (speed : ℝ) :
    0 ≤ drag t dt onGround speed := by
  unfold drag
  split
  · positivity
  · have := mul_nonneg (mul_nonneg resists (mul_self_nonneg speed)) passes
    rwa [← mul_assoc] at this

/-- A braking frame keeps a fraction of the horizontal velocity. -/
theorem flat_brake {t : Tuning ℝ} {dt : ℝ} {onGround : Bool} {v : Vec3 ℝ} {loss : ℝ}
    (lost : loss = drag t dt onGround v.flat.length) (nonneg : 0 ≤ loss) :
    ∃ s, 0 ≤ s ∧ s ≤ 1 ∧ (brake t dt onGround v).flat = v.flat * s ∧
      s * v.flat.length = v.flat.length - min loss v.flat.length := by
  unfold brake
  dsimp only
  rw [← lost]
  split <;> rename_i still
  · have rest : v.flat.length = 0 := le_antisymm still v.flat.length_nonneg
    exact ⟨1, zero_le_one, le_rfl, (Vec3.mul_one _).symm, by rw [rest, min_eq_right nonneg]; simp⟩
  · have moving : 0 < v.flat.length := not_le.mp still
    split <;> rename_i stops
    · refine ⟨0, le_rfl, zero_le_one, ?_, ?_⟩
      · ext <;> simp [Vec3.withHorizontal]
      · rw [min_eq_right stops, sub_self, zero_mul]
    · have slows : loss < v.flat.length := not_le.mp stops
      rw [Scalar.smaller_real, min_eq_left slows.le]
      refine ⟨1 - loss / v.flat.length, sub_nonneg.mpr ((div_le_one moving).mpr slows.le),
        sub_le_self 1 (div_nonneg nonneg moving.le), ?_, ?_⟩
      · generalize v.flat.length = speed
        ext <;> simp [push] <;> ring
      · rw [sub_mul, one_mul, div_mul_cancel₀ _ moving.ne']

end CharacterMotion.Steering
