import CharacterMotion.Proofs.Binary32.Length
import CharacterMotion.Heading

/-!
Bringing horizontal vectors to length one. A vector whose squared length is finite and not
negligible has a direction (`Directed`): its length has a finite reciprocal, and the vector times
that comes out with a length of about one (`Directed.normalize`). The perpendicular of such a result
has a direction again (`Bearing.directed_up_cross`).

Where the squared length of finite components is infinite, so is the length. Its reciprocal is then
zero, and nothing is left of the vector (`Level.isZero_normalize`).
-/

namespace CharacterMotion.Binary32

variable {v : Vec3 Float32}

/-- Rounding changes a small number little. -/
theorem Result.within {x : Float32} {r : ℝ} (result : Result x r) (small : |r| ≤ 2 ^ 3) :
    Scalar.isFinite x ∧ |real x - r| ≤ 1 / 2 ^ 19 := by
  have finite := result.finite (small.trans_lt (by norm_num))
  have close := (result.near finite).close
  exact ⟨finite, by linarith⟩

/-- Multiplying by a rounded reciprocal is about dividing. -/
theorem Near.abs_mul_sub_div_le {p length x : ℝ} (near : Near p (1 / length)) (pos : 0 < length)
    (share : |x / length| ≤ 4) (ranged : |x| < 2 ^ 128) :
    |x * p - x / length| ≤ 1 / 2 ^ 20 := by
  have close := near.close
  have inverse_pos : 0 < 1 / length := by positivity
  rw [abs_of_pos inverse_pos] at close
  calc |x * p - x / length| = |x| * |p - 1 / length| := by
        rw [← abs_mul, mul_sub, mul_one_div]
    _ ≤ |x| * (1 / length / 2 ^ 23 + 1 / 2 ^ 149) :=
        mul_le_mul_of_nonneg_left close (abs_nonneg _)
    _ = |x / length| / 2 ^ 23 + |x| / 2 ^ 149 := by
        rw [abs_div, abs_of_pos pos]
        ring
    _ ≤ 1 / 2 ^ 20 := by linarith

/-- Squares of small numbers that are close to each other are close to each other. -/
theorem abs_sq_sub_sq_le {p q : ℝ} (close : |p - q| ≤ 1 / 2 ^ 18) (small : |q| ≤ 2 ^ 2) :
    |p ^ 2 - q ^ 2| ≤ 1 / 2 ^ 14 := by
  have sum : |p + q| ≤ 2 ^ 4 := by
    have triangle := abs_sub_abs_le_abs_sub p q
    have := abs_add_le p q
    linarith
  calc |p ^ 2 - q ^ 2| = |p + q| * |p - q| := by rw [sq_sub_sq, abs_mul]
    _ ≤ 2 ^ 4 * (1 / 2 ^ 18) := mul_le_mul sum close (abs_nonneg _) (by positivity)
    _ = 1 / 2 ^ 14 := by norm_num

theorem not_negligible_iff (finite : Scalar.isFinite v.lengthSq) :
    ¬ v.lengthSq < Heading.negligible ↔ 8796093 / 2 ^ 43 ≤ real v.lengthSq := by
  have read : (Heading.negligible : Float32).toModel.unpack =
      .finite .positive 8796093 (-43) (by decide) := rfl
  have finite' : Scalar.isFinite (Heading.negligible : Float32) := rfl
  rw [lt_iff_real_lt finite finite', not_lt, real_eq_number (Heading.negligible), read,
    number_positive]
  norm_num

/-- A horizontal vector that is long enough for a direction, and not too long. -/
structure Directed (v : Vec3 Float32) : Prop extends Level v where
  finite : Scalar.isFinite v.lengthSq
  long : 1 / 2 ^ 20 ≤ real v.lengthSq

/-- A direction: a horizontal vector whose length is one, up to rounding. -/
structure Bearing (v : Vec3 Float32) : Prop extends Level v where
  unit : |exactSq v - 1| ≤ 1 / 2 ^ 10

/-- A horizontal vector whose components are of a magnitude of at most `2 ^ k`. -/
structure Short (k : Nat) (v : Vec3 Float32) : Prop extends Level v where
  le_x : |real v.x| ≤ 2 ^ k
  le_z : |real v.z| ≤ 2 ^ k

theorem Short.isFinite_lengthSq {k : Nat} (short : Short k v) (small : k ≤ 62) :
    Scalar.isFinite v.lengthSq := by
  have power : (2 : ℝ) ^ k ≤ 2 ^ 62 := pow_le_pow_right₀ one_le_two small
  exact short.toLevel.isFinite_lengthSq (short.le_x.trans power) (short.le_z.trans power)

theorem Level.directed (level : Level v) (finite : Scalar.isFinite v.lengthSq)
    (long : ¬ v.lengthSq < Heading.negligible) : Directed v := by
  refine ⟨level, finite, le_trans ?_ ((not_negligible_iff finite).mp long)⟩
  norm_num

/-- A vector of a length between a half and three is directed. -/
theorem Level.directed_of_exactSq (level : Level v) (low : 1 / 4 ≤ exactSq v)
    (high : exactSq v ≤ 2 ^ 3) : Directed v := by
  have fits {x : ℝ} (le : x ^ 2 ≤ exactSq v) : |x| ≤ 2 ^ 62 :=
    abs_le_of_sq_le_sq (by linarith) (by positivity)
  have finite : Scalar.isFinite v.lengthSq := level.isFinite_lengthSq
    (fits (le_add_of_nonneg_right (sq_nonneg _))) (fits (le_add_of_nonneg_left (sq_nonneg _)))
  obtain ⟨least, -⟩ := abs_le.mp (level.abs_lengthSq_sub finite)
  exact ⟨level, finite, by linarith⟩

namespace Directed

variable (directed : Directed v)

include directed

theorem isFinite_length : Scalar.isFinite v.length :=
  directed.toLevel.isFinite_length_of_lengthSq directed.finite

theorem le_length : 1 / 2 ^ 11 ≤ real v.length := by
  obtain ⟨-, -, near⟩ := near_sqrt_lengthSq directed.isFinite_length
  have root : 1 / 2 ^ 10 ≤ √(real v.lengthSq) := by
    refine Real.le_sqrt_of_sq_le ?_
    have long := directed.long
    linarith
  obtain ⟨low, -⟩ := near.bounds (Real.sqrt_nonneg _)
  linarith

theorem length_pos : 0 < real v.length := by
  have long := directed.le_length
  linarith

theorem isFinite_reciprocal : Scalar.isFinite (1 / v.length) := by
  have pos := directed.length_pos
  have result := result_div (x := 1) rfl directed.isFinite_length pos.ne'
  rw [real_one] at result
  refine result.finite ?_
  rw [abs_of_pos (by positivity), div_lt_iff₀ pos]
  have long := directed.le_length
  linarith

theorem abs_quotient_le {x : ℝ} (le : |x| ≤ 4 * real v.length) : |x / real v.length| ≤ 4 := by
  rw [abs_div, abs_of_pos directed.length_pos, div_le_iff₀ directed.length_pos]
  exact le

/-- The squared length of the exact quotients is one but for the error of the length. -/
theorem abs_sq_quotients_sub_one :
    |(real v.x / real v.length) ^ 2 + (real v.z / real v.length) ^ 2 - 1| ≤ 1 / 2 ^ 16 := by
  have pos := pow_pos directed.length_pos 2
  obtain ⟨upper, lower⟩ := directed.sq_length directed.isFinite_length
  rw [exactSq] at upper lower
  have square : (1 / 2 ^ 11) ^ 2 ≤ real v.length ^ 2 :=
    pow_le_pow_left₀ (by positivity) directed.le_length 2
  have parts : (real v.x / real v.length) ^ 2 + (real v.z / real v.length) ^ 2 - 1 =
      (real v.x ^ 2 + real v.z ^ 2 - real v.length ^ 2) / real v.length ^ 2 := by
    rw [div_pow, div_pow, ← add_div, sub_div, div_self pos.ne']
  rw [parts, abs_div, abs_of_pos pos, div_le_iff₀ pos, abs_le]
  constructor <;> linarith

/-- A part of the vector, times the reciprocal of the length. -/
theorem abs_part_sub {x : Float32} (finite : Scalar.isFinite x)
    (le : |real x| ≤ 4 * real v.length) :
    |real (x * (1 / v.length)) - real x / real v.length| ≤ 1 / 2 ^ 18 := by
  have pos := directed.length_pos
  have finite_r := directed.isFinite_reciprocal
  have near_r := (result_div (x := 1) rfl directed.isFinite_length pos.ne').near finite_r
  rw [real_one] at near_r
  have share := directed.abs_quotient_le le
  have reciprocal := near_r.abs_mul_sub_div_le pos share (abs_real_lt x)
  have triangle := abs_sub_abs_le_abs_sub (real x * real (1 / v.length))
    (real x / real v.length)
  obtain ⟨-, rounded⟩ := (result_mul finite finite_r).within (by linarith)
  have total := abs_sub_le (real (x * (1 / v.length))) (real x * real (1 / v.length))
    (real x / real v.length)
  linarith

end Directed

/-- A vector with a direction is brought to a length of about one. -/
theorem Directed.normalize (directed : Directed v) : Bearing v.normalize := by
  have pos := directed.length_pos
  have finite := directed.isFinite_length
  have finite_r := directed.isFinite_reciprocal
  obtain ⟨le_x, le_z⟩ := directed.abs_le_length finite pos
  obtain ⟨finite_x, -⟩ := mul_reciprocal directed.x finite pos finite_r le_x
  obtain ⟨finite_z, -⟩ := mul_reciprocal directed.z finite pos finite_r le_z
  obtain ⟨finite_y, flat⟩ := real_zero_mul directed.flat directed.y finite_r
  refine ⟨⟨finite_x, finite_y, finite_z, flat⟩, ?_⟩
  have share_x := directed.abs_quotient_le le_x
  have share_z := directed.abs_quotient_le le_z
  have close_x := abs_sq_sub_sq_le (directed.abs_part_sub directed.x le_x) (by linarith)
  have close_z := abs_sq_sub_sq_le (directed.abs_part_sub directed.z le_z) (by linarith)
  have whole := directed.abs_sq_quotients_sub_one
  change |real (v.x * (1 / v.length)) ^ 2 + real (v.z * (1 / v.length)) ^ 2 - 1| ≤ 1 / 2 ^ 10
  rw [abs_le] at close_x close_z whole ⊢
  constructor <;> linarith

section

variable {x y : Float32}

theorem one_mul_sub_close (finite : Scalar.isFinite x) (small : |real x| ≤ 2 ^ 1)
    (finite' : Scalar.isFinite y) (zero : real y = 0) :
    Scalar.isFinite (1 * x - y) ∧ |real (1 * x - y) - real x| ≤ 1 / 2 ^ 18 := by
  have product := result_mul (x := 1) rfl finite
  rw [real_one, one_mul] at product
  obtain ⟨finite_p, close_p⟩ := product.within (by linarith)
  have difference := result_sub finite_p finite'
  rw [zero, sub_zero] at difference
  have triangle := abs_sub_abs_le_abs_sub (real (1 * x)) (real x)
  obtain ⟨finite_d, close_d⟩ := difference.within (by linarith)
  have total := abs_sub_le (real (1 * x - y)) (real (1 * x)) (real x)
  exact ⟨finite_d, by linarith⟩

theorem sub_mul_one_close (finite : Scalar.isFinite x) (small : |real x| ≤ 2 ^ 1)
    (finite' : Scalar.isFinite y) (zero : real y = 0) :
    Scalar.isFinite (y - x * 1) ∧ |real (y - x * 1) - -real x| ≤ 1 / 2 ^ 18 := by
  have product := result_mul (y := 1) finite rfl
  rw [real_one, mul_one] at product
  obtain ⟨finite_p, close_p⟩ := product.within (by linarith)
  have difference := result_sub finite' finite_p
  rw [zero, zero_sub] at difference
  have triangle := abs_sub_abs_le_abs_sub (real (x * 1)) (real x)
  obtain ⟨finite_d, close_d⟩ := difference.within <| by
    rw [abs_neg]
    linarith
  have total := abs_sub_le (real (y - x * 1)) (-real (x * 1)) (-real x)
  rw [neg_sub_neg, abs_sub_comm (real x)] at total
  exact ⟨finite_d, by linarith⟩

end

namespace Bearing

variable (bearing : Bearing v)

include bearing

theorem exactSq_bounds : 1 / 4 ≤ exactSq v ∧ exactSq v ≤ 2 := by
  obtain ⟨low, high⟩ := abs_le.mp bearing.unit
  constructor <;> linarith

theorem short : Short 1 v := by
  obtain ⟨-, high⟩ := bearing.exactSq_bounds
  rw [exactSq] at high
  have exact_x := sq_nonneg (real v.x)
  have exact_z := sq_nonneg (real v.z)
  exact ⟨bearing.toLevel, abs_le_of_sq_le_sq (by linarith) (by positivity),
    abs_le_of_sq_le_sq (by linarith) (by positivity)⟩

theorem directed : Directed v := by
  obtain ⟨low, high⟩ := bearing.exactSq_bounds
  exact bearing.directed_of_exactSq low (by linarith)

/-- The perpendicular of a direction has a direction. -/
theorem directed_up_cross : Directed (Vec3.up.cross v) := by
  obtain ⟨-, le_x, le_z⟩ := bearing.short
  obtain ⟨finite_yx, zero_yx⟩ := real_zero_mul bearing.flat bearing.y isFinite_zero
  obtain ⟨finite_yz, zero_yz⟩ := real_mul_zero bearing.flat isFinite_zero bearing.y
  obtain ⟨finite_xy, zero_xy⟩ := real_zero_mul real_zero isFinite_zero bearing.x
  obtain ⟨finite_zy, zero_zy⟩ := real_mul_zero real_zero bearing.z isFinite_zero
  have cross_y := result_sub finite_xy finite_zy
  rw [zero_xy, zero_zy, sub_zero] at cross_y
  obtain ⟨finite_y, flat⟩ := cross_y.eq_zero
  obtain ⟨finite_x, close_x⟩ := one_mul_sub_close bearing.z le_z finite_yx zero_yx
  obtain ⟨finite_z, close_z⟩ := sub_mul_one_close bearing.x le_x finite_yz zero_yz
  have level : Level (Vec3.up.cross v) := ⟨finite_x, finite_y, finite_z, flat⟩
  have square_x := abs_sq_sub_sq_le close_x (by linarith)
  have square_z := abs_sq_sub_sq_le close_z <| by
    rw [abs_neg]
    linarith
  have total : |exactSq (Vec3.up.cross v) - exactSq v| ≤ 1 / 2 ^ 13 := by
    change |real (1 * v.z - v.y * 0) ^ 2 + real (0 * v.y - v.x * 1) ^ 2 -
      (real v.x ^ 2 + real v.z ^ 2)| ≤ _
    rw [neg_sq] at square_z
    rw [abs_le] at square_x square_z ⊢
    constructor <;> linarith
  have unit := bearing.unit
  rw [abs_le] at total unit
  exact level.directed_of_exactSq (by linarith) (by linarith)

end Bearing

theorem bearing_forward : Bearing Vec3.forward := by
  refine ⟨⟨rfl, rfl, rfl, real_zero⟩, ?_⟩
  change |real 0 ^ 2 + real 1 ^ 2 - 1| ≤ _
  rw [real_zero, real_one]
  norm_num

theorem bearing_right : Bearing Vec3.right := by
  refine ⟨⟨rfl, rfl, rfl, real_zero⟩, ?_⟩
  change |real 1 ^ 2 + real 0 ^ 2 - 1| ≤ _
  rw [real_zero, real_one]
  norm_num

/-! ### Too long a vector -/

theorem Level.infinite_lengthSq (level : Level v) (long : ¬ Scalar.isFinite v.lengthSq) :
    Infinite v.lengthSq :=
  (isFinite_or_infinite level.nonneg_lengthSq).resolve_left long

/-- A vector whose squared length is infinite is brought to zero. -/
theorem Level.isZero_normalize (level : Level v) (long : ¬ Scalar.isFinite v.lengthSq) :
    v.normalize.isZero = true := by
  obtain ⟨finite_r, none⟩ := (level.infinite_lengthSq long).sqrt.div (x := 1) rfl
  have vanishes {x : Float32} (finite : Scalar.isFinite x) :
      Scalar.agrees (x * (1 / v.length)) 0 = true := by
    obtain ⟨product, zero⟩ := real_mul_zero none finite finite_r
    exact (agrees_zero_iff product).mpr zero
  change (Scalar.agrees (v.x * (1 / v.length)) 0 && Scalar.agrees (v.y * (1 / v.length)) 0 &&
    Scalar.agrees (v.z * (1 / v.length)) 0) = true
  rw [vanishes level.x, vanishes level.y, vanishes level.z]
  rfl

end CharacterMotion.Binary32
