import CharacterMotion.Proofs.Binary32.Overflow
import CharacterMotion.Vec3

/-!
Lengths of horizontal vectors. The length is the root of a sum of squares, with a rounding after
every operation, and squares of finite components may be infinite or vanish. A length that is finite
is still about the exact one (`Level.sq_length`), and one that is positive is at least a quarter of
each component (`Level.abs_le_length`). So the components of a direction are small numbers, whatever
vector it is taken from (`normalizeOrZero_flat`).
-/

namespace CharacterMotion.Binary32

/-- The square of a root is about the number under the root. -/
theorem Near.sq_bounds {v q : ℝ} (near : Near v √q) (nonneg : 0 ≤ q) :
    v ^ 2 ≤ (1 + 1 / 2 ^ 20) * q + 1 / 2 ^ 250 ∧ q ≤ (1 + 1 / 2 ^ 20) * v ^ 2 + 1 / 2 ^ 250 := by
  have root_nonneg := Real.sqrt_nonneg q
  obtain ⟨low, high⟩ := near.bounds root_nonneg
  have v_nonneg := near.nonneg root_nonneg
  rw [← Real.sq_sqrt nonneg]
  generalize √q = root at *
  have upper : v ^ 2 ≤ (root + root / 2 ^ 23 + 1 / 2 ^ 149) ^ 2 := pow_le_pow_left₀ v_nonneg high 2
  have lower : (root - root / 2 ^ 23) ^ 2 ≤ (v + 1 / 2 ^ 149) ^ 2 :=
    pow_le_pow_left₀ (by linarith) (by linarith) 2
  -- The mixed terms of both squares are small parts of the pure ones.
  have mixed := sq_nonneg (root / 2 ^ 12 - 2 ^ 12 / 2 ^ 149)
  have mixed' := sq_nonneg (v / 2 ^ 12 - 2 ^ 12 / 2 ^ 149)
  constructor <;> linarith

/-- A horizontal vector with finite components. -/
structure Level (v : Vec3 Float32) : Prop where
  x : Scalar.isFinite v.x
  y : Scalar.isFinite v.y
  z : Scalar.isFinite v.z
  flat : real v.y = 0

/-- The square of the exact length of a horizontal vector. -/
noncomputable def exactSq (v : Vec3 Float32) : ℝ := real v.x ^ 2 + real v.z ^ 2

theorem level_flat {v : Vec3 Float32} (finite_x : Scalar.isFinite v.x)
    (finite_z : Scalar.isFinite v.z) : Level v.flat :=
  ⟨finite_x, isFinite_zero, finite_z, real_zero⟩

theorem exactSq_nonneg (v : Vec3 Float32) : 0 ≤ exactSq v := by
  unfold exactSq
  positivity

variable {v : Vec3 Float32}

/-- A finite length is the rounded root of a finite number. -/
theorem near_sqrt_lengthSq (finite : Scalar.isFinite v.length) :
    Scalar.isFinite v.lengthSq ∧ 0 ≤ real v.lengthSq ∧
      Near (real v.length) √(real v.lengthSq) := by
  obtain ⟨finite_sq, nonneg_sq⟩ := isFinite_of_sqrt finite
  exact ⟨finite_sq, nonneg_sq, (result_sqrt finite_sq nonneg_sq).near finite⟩

namespace Level

theorem nonneg_lengthSq (level : Level v) : 0 ≤ v.lengthSq := by
  have nonneg {x : Float32} (finite : Scalar.isFinite x) : 0 ≤ x * x :=
    (result_mul finite finite).nonneg (mul_self_nonneg _)
  exact nonneg_add (nonneg_add (nonneg level.x) (nonneg level.y)) (nonneg level.z)

theorem nonneg_length (level : Level v) : 0 ≤ v.length := nonneg_sqrt level.nonneg_lengthSq

/-- No more than three roundings after one another lead to the square of the length. -/
theorem abs_lengthSq_sub (level : Level v) (finite : Scalar.isFinite v.lengthSq) :
    |real v.lengthSq - exactSq v| ≤ exactSq v / 2 ^ 21 + 8 / 2 ^ 149 := by
  obtain ⟨finite_xy, finite_z⟩ := isFinite_of_add finite
  obtain ⟨finite_x, finite_y⟩ := isFinite_of_add finite_xy
  have near_x := (result_mul level.x level.x).near finite_x
  have near_z := (result_mul level.z level.z).near finite_z
  have near_y := (result_mul level.y level.y).near finite_y
  rw [level.flat, zero_mul] at near_y
  have near_xy := (result_add finite_x finite_y).near finite_xy
  have near := (result_add finite_xy finite_z).near finite
  rw [near_y.eq_zero, add_zero] at near_xy
  have x_nonneg := near_x.nonneg (mul_self_nonneg _)
  have z_nonneg := near_z.nonneg (mul_self_nonneg _)
  have xy_nonneg := near_xy.nonneg x_nonneg
  obtain ⟨low_x, high_x⟩ := near_x.bounds (mul_self_nonneg _)
  obtain ⟨low_z, high_z⟩ := near_z.bounds (mul_self_nonneg _)
  obtain ⟨low_xy, high_xy⟩ := near_xy.bounds x_nonneg
  obtain ⟨low, high⟩ := near.bounds (add_nonneg xy_nonneg z_nonneg)
  have sum : v.lengthSq = v.x * v.x + v.y * v.y + v.z * v.z := rfl
  have exact_x := mul_self_nonneg (real v.x)
  have exact_z := mul_self_nonneg (real v.z)
  rw [sum, exactSq, sq, sq, abs_le]
  constructor <;> linarith

theorem isFinite_lengthSq (level : Level v) (fits_x : |real v.x| ≤ 2 ^ 62)
    (fits_z : |real v.z| ≤ 2 ^ 62) : Scalar.isFinite v.lengthSq := by
  have square_lt {r : ℝ} (fits : |r| ≤ 2 ^ 62) : |r * r| < 2 ^ 125 := by
    rw [abs_mul]
    calc |r| * |r| ≤ 2 ^ 62 * 2 ^ 62 := mul_le_mul fits fits (abs_nonneg r) (by positivity)
      _ < 2 ^ 125 := by norm_num
  have result_x := result_mul level.x level.x
  have result_y := result_mul level.y level.y
  have result_z := result_mul level.z level.z
  rw [level.flat, zero_mul] at result_y
  obtain ⟨finite_x, bound_x⟩ := result_x.bounded (square_lt fits_x) (by norm_num)
  obtain ⟨finite_y, none_y⟩ := result_y.eq_zero
  obtain ⟨finite_z, bound_z⟩ := result_z.bounded (square_lt fits_z) (by norm_num)
  have result_xy := result_add finite_x finite_y
  rw [none_y, add_zero] at result_xy
  obtain ⟨finite_xy, bound_xy⟩ :=
    result_xy.bounded (k := 126) (bound_x.trans_lt (by norm_num)) (by norm_num)
  refine (result_add finite_xy finite_z).finite ?_
  calc _ ≤ _ := abs_add_le _ _
    _ ≤ (2 : ℝ) ^ 126 + 2 ^ 125 := add_le_add bound_xy bound_z
    _ < 2 ^ 127 := by norm_num

theorem isFinite_length_of_lengthSq (level : Level v) (finite : Scalar.isFinite v.lengthSq) :
    Scalar.isFinite v.length := by
  have nonneg := (nonneg_iff finite).mp level.nonneg_lengthSq
  refine (result_sqrt finite nonneg).finite ?_
  rw [abs_of_nonneg (Real.sqrt_nonneg _), Real.sqrt_lt' (by positivity)]
  exact (real_lt _).trans (by norm_num)

theorem isFinite_length (level : Level v) (fits_x : |real v.x| ≤ 2 ^ 62)
    (fits_z : |real v.z| ≤ 2 ^ 62) : Scalar.isFinite v.length :=
  level.isFinite_length_of_lengthSq (level.isFinite_lengthSq fits_x fits_z)

theorem real_length_nonneg (level : Level v) (finite : Scalar.isFinite v.length) :
    0 ≤ real v.length := (nonneg_iff finite).mp level.nonneg_length

/-- The square of a finite length is about the square of the exact length. -/
theorem sq_length (level : Level v) (finite : Scalar.isFinite v.length) :
    real v.length ^ 2 ≤ (1 + 1 / 2 ^ 18) * exactSq v + 1 / 2 ^ 140 ∧
      exactSq v ≤ (1 + 1 / 2 ^ 18) * real v.length ^ 2 + 1 / 2 ^ 140 := by
  obtain ⟨finite_sq, nonneg_sq, near⟩ := near_sqrt_lengthSq finite
  obtain ⟨low, high⟩ := abs_le.mp (level.abs_lengthSq_sub finite_sq)
  obtain ⟨upper, lower⟩ := near.sq_bounds nonneg_sq
  have exact_nonneg := exactSq_nonneg v
  have := sq_nonneg (real v.length)
  constructor <;> linarith

/-- A length that does not vanish is not much shorter than the exact one. -/
theorem exactSq_le (level : Level v) (finite : Scalar.isFinite v.length)
    (pos : 0 < real v.length) : exactSq v ≤ 16 * real v.length ^ 2 := by
  obtain ⟨finite_sq, nonneg_sq, near⟩ := near_sqrt_lengthSq finite
  obtain ⟨low, high⟩ := abs_le.mp (level.abs_lengthSq_sub finite_sq)
  obtain ⟨-, lower⟩ := near.sq_bounds nonneg_sq
  have pos_sq : 0 < real v.lengthSq := by
    refine nonneg_sq.lt_of_ne fun none => pos.ne ?_
    rw [← none, Real.sqrt_zero] at near
    exact near.eq_zero.symm
  have least := least_le_real finite_sq pos_sq
  have exact_nonneg := exactSq_nonneg v
  linarith

theorem abs_le_length (level : Level v) (finite : Scalar.isFinite v.length)
    (pos : 0 < real v.length) :
    |real v.x| ≤ 4 * real v.length ∧ |real v.z| ≤ 4 * real v.length := by
  have long := level.exactSq_le finite pos
  have sixteen : 16 * real v.length ^ 2 = (4 * real v.length) ^ 2 := by ring
  rw [exactSq, sixteen] at long
  have exact_x := sq_nonneg (real v.x)
  have exact_z := sq_nonneg (real v.z)
  exact ⟨abs_le_of_sq_le_sq (by linarith) (by linarith),
    abs_le_of_sq_le_sq (by linarith) (by linarith)⟩

end Level

/-- Dividing a part of a length by that length, in two steps. -/
theorem mul_reciprocal {x length : Float32} (finite : Scalar.isFinite x)
    (finite_length : Scalar.isFinite length) (pos : 0 < real length)
    (finite_r : Scalar.isFinite (1 / length)) (le : |real x| ≤ 4 * real length) :
    Scalar.isFinite (x * (1 / length)) ∧ |real (x * (1 / length))| ≤ 8 := by
  have near := (result_div (x := 1) rfl finite_length pos.ne').near finite_r
  rw [real_one] at near
  have inverse_nonneg : 0 ≤ 1 / real length := by positivity
  have high := (near.bounds inverse_nonneg).2
  have nonneg := near.nonneg inverse_nonneg
  have less : |real x * real (1 / length)| < 2 ^ 3 := by
    rw [abs_mul, abs_of_nonneg nonneg]
    have unit_length : real length * (1 / real length) = 1 := mul_one_div_cancel pos.ne'
    have ranged := real_lt length
    calc |real x| * real (1 / length)
        ≤ 4 * real length * (1 / real length + 1 / real length / 2 ^ 23 + 1 / 2 ^ 149) :=
          mul_le_mul le high nonneg (by positivity)
      _ = 4 * (real length * (1 / real length)) * (1 + 1 / 2 ^ 23) +
          4 / 2 ^ 149 * real length := by ring
      _ < 2 ^ 3 := by
          rw [unit_length]
          linarith
  obtain ⟨product, bounded⟩ := (result_mul finite finite_r).bounded less (by norm_num)
  exact ⟨product, bounded.trans (by norm_num)⟩

/-- A direction has finite components, whatever it is taken from. -/
theorem normalizeOrZero_flat (w : Vec3 Float32) :
    Level w.flat.normalizeOrZero ∧ |real w.flat.normalizeOrZero.x| ≤ 8 ∧
      |real w.flat.normalizeOrZero.z| ≤ 8 := by
  unfold Vec3.normalizeOrZero
  dsimp only
  split <;> rename_i reciprocal
  · obtain ⟨finite_r, pos_r⟩ := reciprocal
    obtain ⟨finite, some⟩ := isFinite_of_one_div finite_r pos_r
    have level : Level w.flat := by
      obtain ⟨finite_sq, -⟩ := isFinite_of_sqrt finite
      obtain ⟨finite_xy, finite_z⟩ := isFinite_of_add finite_sq
      obtain ⟨finite_x, -⟩ := isFinite_of_add finite_xy
      exact level_flat (isFinite_of_mul finite_x).1 (isFinite_of_mul finite_z).1
    have pos : 0 < real w.flat.length := (level.real_length_nonneg finite).lt_of_ne' some
    obtain ⟨le_x, le_z⟩ := level.abs_le_length finite pos
    obtain ⟨finite_x, small_x⟩ := mul_reciprocal level.x finite pos finite_r le_x
    obtain ⟨finite_z, small_z⟩ := mul_reciprocal level.z finite pos finite_r le_z
    obtain ⟨finite_y, flat⟩ := real_zero_mul level.flat level.y finite_r
    exact ⟨⟨finite_x, finite_y, finite_z, flat⟩, small_x, small_z⟩
  · have small : |real 0| ≤ 8 := by
      rw [real_zero, abs_zero]
      norm_num
    exact ⟨⟨isFinite_zero, isFinite_zero, isFinite_zero, real_zero⟩, small, small⟩

end CharacterMotion.Binary32
