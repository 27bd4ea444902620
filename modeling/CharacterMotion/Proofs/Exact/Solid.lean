import CharacterMotion.Physics.Shape
import CharacterMotion.Proofs.Exact.Vec3

/-!
Which points belong to a shape, over the real numbers. A ball and a box are told by inequalities
between coordinates. Of a capsule it is asked how far a point is from the nearest point of the
segment, and that point is the nearest indeed (`lengthSq_sub_nearestOnSegment_le`); so a point
belongs to the capsule exactly if some point of the segment is within the radius of it
(`contains_capsule_iff`).
-/

namespace CharacterMotion

namespace Vec3

variable (a b p : Vec3 ℝ)

theorem sq_y_le_lengthSq : p.y ^ 2 ≤ p.lengthSq := by
  rw [lengthSq_eq]
  linarith [sq_nonneg p.x, sq_nonneg p.z]

/-- The squared distance to a point of a line, as a quadratic function of where it lies. -/
theorem lengthSq_sub_lerp (t : ℝ) :
    (p - a.lerp b t).lengthSq =
      (p - a).lengthSq + (t ^ 2 * (b - a).lengthSq - 2 * t * (p - a).dot (b - a)) := by
  simp only [lengthSq, dot, lerp, sub_x, sub_y, sub_z, add_x, add_y, add_z, mul_x, mul_y, mul_z]
  ring

theorem length_le_iff {v : Vec3 ℝ} {k : ℝ} (nonneg : 0 ≤ k) :
    v.length ≤ k ↔ v.lengthSq ≤ k * k := by
  rw [← length_sq, ← sq, sq_le_sq₀ v.length_nonneg nonneg]

end Vec3

/-- Among the numbers from zero to one a parabola is lowest where its apex, clamped to them, is. -/
theorem Scalar.clampUnit_lowest {square along t : ℝ} (pos : 0 < square) (nonneg : 0 ≤ t)
    (le_one : t ≤ 1) :
    clampUnit (along / square) ^ 2 * square - 2 * clampUnit (along / square) * along ≤
      t ^ 2 * square - 2 * t * along := by
  have apex : along = along / square * square := (div_mul_cancel₀ along pos.ne').symm
  generalize along / square = s at apex ⊢
  subst apex
  -- The two heights differ by `square` times the difference of the squared distances to the apex.
  suffices (clampUnit s - s) ^ 2 ≤ (t - s) ^ 2 by nlinarith
  rw [sq_le_sq]
  unfold clampUnit
  split <;> rename_i below
  · rw [abs_of_nonneg, abs_of_nonneg] <;> linarith
  · split <;> rename_i above
    · rw [abs_of_nonpos, abs_of_nonpos] <;> linarith
    · rw [sub_self, abs_zero]
      exact abs_nonneg _

namespace Physics.Shape

variable {p : Vec3 ℝ}

theorem contains_ball_iff {radius : ℝ} :
    (ball radius).contains p = true ↔ p.lengthSq ≤ radius * radius := by
  simp [contains]

theorem within_iff {half x : ℝ} : within half x = true ↔ -half ≤ x ∧ x ≤ half := by
  simp [within]

theorem contains_box_iff {half : Vec3 ℝ} :
    (box half).contains p = true ↔ (-half.x ≤ p.x ∧ p.x ≤ half.x) ∧
      (-half.y ≤ p.y ∧ p.y ≤ half.y) ∧ -half.z ≤ p.z ∧ p.z ≤ half.z := by
  simp only [contains, Bool.and_eq_true, within_iff, and_assoc]

/-! ### Capsules -/

theorem exists_nearestOnSegment (a b p : Vec3 ℝ) :
    ∃ t, 0 ≤ t ∧ t ≤ 1 ∧ nearestOnSegment a b p = a.lerp b t ∧
      ∀ t', 0 ≤ t' → t' ≤ 1 → (p - a.lerp b t).lengthSq ≤ (p - a.lerp b t').lengthSq := by
  unfold nearestOnSegment
  dsimp only
  split <;> rename_i short
  · have point : b - a = 0 := by
      rw [← Vec3.length_eq_zero_iff, ← sq_eq_zero_iff, Vec3.length_sq]
      exact le_antisymm short (Vec3.length_sq (b - a) ▸ sq_nonneg _)
    refine ⟨0, le_rfl, zero_le_one, ?_, fun t' _ _ => ?_⟩
    · ext <;> simp [Vec3.lerp]
    · have none (t : ℝ) : (p - a.lerp b t).lengthSq = (p - a).lengthSq := by
        rw [Vec3.lengthSq_sub_lerp, point]
        simp [Vec3.dot, Vec3.lengthSq]
      rw [none, none]
  · refine ⟨Scalar.clampUnit ((p - a).dot (b - a) / (b - a).lengthSq), ?_, ?_, ?_, ?_⟩
    · rw [Scalar.clampUnit_real]
      exact le_max_left ..
    · rw [Scalar.clampUnit_real]
      exact max_le zero_le_one (min_le_right ..)
    · ext <;> simp [Vec3.lerp] <;> ring
    · intro t' nonneg le_one
      rw [Vec3.lengthSq_sub_lerp, Vec3.lengthSq_sub_lerp]
      exact (add_le_add_iff_left _).mpr (Scalar.clampUnit_lowest (not_le.mp short) nonneg le_one)

/-- A capsule is made of all points within its radius of the segment. -/
theorem contains_capsule_iff {a b : Vec3 ℝ} {radius : ℝ} (nonneg : 0 ≤ radius) :
    (capsule a b radius).contains p = true ↔
      ∃ t, 0 ≤ t ∧ t ≤ 1 ∧ (p - a.lerp b t).length ≤ radius := by
  obtain ⟨t, t_nonneg, t_le_one, nearest, least⟩ := exists_nearestOnSegment a b p
  simp only [contains, decide_eq_true_eq, nearest, Vec3.length_le_iff nonneg]
  constructor
  · intro inside
    exact ⟨t, t_nonneg, t_le_one, inside⟩
  · rintro ⟨t', t'_nonneg, t'_le_one, inside⟩
    exact (least t' t'_nonneg t'_le_one).trans inside

end Physics.Shape

end CharacterMotion
