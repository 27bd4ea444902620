import CharacterMotion.Vec3
import CharacterMotion.Proofs.Exact.Scalar
import Mathlib.Analysis.InnerProductSpace.PiL2

/-!
Vectors over the real numbers. Their length is a Euclidean norm, and with it come the triangle
inequality and the bound on what lies between two points (`length_lerp_le`).
-/

namespace CharacterMotion.Vec3

attribute [ext] Vec3

variable (a b v : Vec3 ℝ) (k : ℝ)

/-! ### Components -/

@[simp] theorem zero_x : (0 : Vec3 ℝ).x = 0 := rfl
@[simp] theorem zero_y : (0 : Vec3 ℝ).y = 0 := rfl
@[simp] theorem zero_z : (0 : Vec3 ℝ).z = 0 := rfl
@[simp] theorem add_x : (a + b).x = a.x + b.x := rfl
@[simp] theorem add_y : (a + b).y = a.y + b.y := rfl
@[simp] theorem add_z : (a + b).z = a.z + b.z := rfl
@[simp] theorem sub_x : (a - b).x = a.x - b.x := rfl
@[simp] theorem sub_y : (a - b).y = a.y - b.y := rfl
@[simp] theorem sub_z : (a - b).z = a.z - b.z := rfl
@[simp] theorem neg_x : (-a).x = -a.x := rfl
@[simp] theorem neg_y : (-a).y = -a.y := rfl
@[simp] theorem neg_z : (-a).z = -a.z := rfl
@[simp] theorem mul_x : (v * k).x = v.x * k := rfl
@[simp] theorem mul_y : (v * k).y = v.y * k := rfl
@[simp] theorem mul_z : (v * k).z = v.z * k := rfl
@[simp] theorem div_x : (v / k).x = v.x / k := rfl
@[simp] theorem div_y : (v / k).y = v.y / k := rfl
@[simp] theorem div_z : (v / k).z = v.z / k := rfl
@[simp] theorem flat_x : v.flat.x = v.x := rfl
@[simp] theorem flat_y : v.flat.y = 0 := rfl
@[simp] theorem flat_z : v.flat.z = v.z := rfl

@[simp] theorem mul_one : v * (1 : ℝ) = v := by
  ext <;> simp

@[simp] theorem mul_zero : v * (0 : ℝ) = 0 := by
  ext <;> simp

/-! ### Sums -/

@[simp] protected theorem add_zero : a + 0 = a := by
  ext <;> simp

@[simp] protected theorem zero_add : 0 + a = a := by
  ext <;> simp

protected theorem add_assoc (c : Vec3 ℝ) : a + b + c = a + (b + c) := by
  ext <;> simp [add_assoc]

protected theorem add_left_cancel_iff {a b c : Vec3 ℝ} : a + b = a + c ↔ b = c := by
  simp [Vec3.ext_iff]

protected theorem add_eq_right {a b : Vec3 ℝ} : a + b = b ↔ a = 0 := by
  simp [Vec3.ext_iff]

@[simp] protected theorem sub_zero : a - 0 = a := by
  ext <;> simp

protected theorem sub_self_add : a - a + b = b := by
  ext <;> simp

protected theorem add_right_comm (c : Vec3 ℝ) : a + b + c = a + c + b := by
  ext <;> simp [add_right_comm]

instance : Std.Associative (HAdd.hAdd : Vec3 ℝ → Vec3 ℝ → Vec3 ℝ) := ⟨Vec3.add_assoc⟩

instance : Std.LawfulIdentity (HAdd.hAdd : Vec3 ℝ → Vec3 ℝ → Vec3 ℝ) 0 where
  left_id := Vec3.zero_add
  right_id := Vec3.add_zero

theorem foldl_add (l : List (Vec3 ℝ)) : l.foldl (· + ·) a = a + l.sum := by
  induction l generalizing a with
  | nil => exact a.add_zero.symm
  | cons b l ih => rw [List.foldl_cons, ih, List.sum_cons, Vec3.add_assoc]

/-! ### Length -/

theorem lengthSq_eq : v.lengthSq = v.x ^ 2 + v.y ^ 2 + v.z ^ 2 := by
  simp only [lengthSq, dot]
  ring

theorem length_eq_norm : v.length = ‖!₂[v.x, v.y, v.z]‖ := by
  rw [length, lengthSq_eq, EuclideanSpace.norm_eq, Fin.sum_univ_three]
  simp

theorem length_nonneg : 0 ≤ v.length := Real.sqrt_nonneg _

theorem length_sq : v.length ^ 2 = v.lengthSq := by
  rw [length, Scalar.sqrt_real, Real.sq_sqrt]
  rw [lengthSq_eq]
  positivity

theorem length_of_sq {v : Vec3 ℝ} {l : ℝ} (nonneg : 0 ≤ l)
    (square : v.x ^ 2 + v.y ^ 2 + v.z ^ 2 = l ^ 2) : v.length = l := by
  rw [length, lengthSq_eq, square, Scalar.sqrt_real, Real.sqrt_sq nonneg]

@[simp] theorem length_zero : (0 : Vec3 ℝ).length = 0 := by
  rw [← sq_eq_zero_iff, length_sq, lengthSq_eq]
  simp

theorem length_forward : (forward : Vec3 ℝ).length = 1 := by
  rw [length, lengthSq_eq]
  simp [forward]

theorem length_eq_zero_iff {v : Vec3 ℝ} : v.length = 0 ↔ v = 0 := by
  refine ⟨fun none => ?_, fun none => none ▸ length_zero⟩
  rw [length_eq_norm, norm_eq_zero] at none
  have at_index (i : Fin 3) := congrFun (congrArg WithLp.ofLp none) i
  exact Vec3.ext (at_index 0) (at_index 1) (at_index 2)

theorem length_mul : (v * k).length = v.length * |k| := by
  rw [← sq_eq_sq₀ (length_nonneg _) (mul_nonneg v.length_nonneg (abs_nonneg k)), mul_pow, sq_abs,
    length_sq, length_sq, lengthSq_eq, lengthSq_eq]
  simp only [mul_x, mul_y, mul_z]
  ring

theorem length_add_le : (a + b).length ≤ a.length + b.length := by
  simp only [length_eq_norm]
  have sum : !₂[(a + b).x, (a + b).y, (a + b).z] = !₂[a.x, a.y, a.z] + !₂[b.x, b.y, b.z] := by
    ext i
    fin_cases i <;> rfl
  rw [sum]
  exact norm_add_le _ _

theorem lerp_sub (t : ℝ) : a.lerp b t - a = (b - a) * t := by
  ext <;> simp [lerp] <;> ring

/-- What lies between two points is no farther from the origin than the farther one. -/
theorem length_lerp_le {t : ℝ} (nonneg : 0 ≤ t) (le_one : t ≤ 1) :
    (a.lerp b t).length ≤ max a.length b.length := by
  have rest_nonneg : 0 ≤ 1 - t := sub_nonneg.mpr le_one
  calc (a.lerp b t).length
      ≤ (a * (1 - t)).length + (b * t).length := length_add_le ..
    _ = a.length * (1 - t) + b.length * t := by
        rw [length_mul, length_mul, abs_of_nonneg rest_nonneg, abs_of_nonneg nonneg]
    _ ≤ max a.length b.length * (1 - t) + max a.length b.length * t := by
        gcongr
        · exact le_max_left ..
        · exact le_max_right ..
    _ = max a.length b.length := by ring

/-! ### Direction -/

theorem length_normalize {v : Vec3 ℝ} (pos : 0 < v.length) : v.normalize.length = 1 := by
  rw [normalize, length_mul, abs_of_pos (one_div_pos.mpr pos), mul_one_div, div_self pos.ne']

/-- A multiple of a vector of length one has its direction, or the opposite one. -/
theorem normalize_mul_of_unit {v : Vec3 ℝ} (unit : v.length = 1) (k : ℝ) :
    (v * k).normalize = v * (k / |k|) := by
  rw [normalize, length_mul, unit, one_mul]
  ext <;> simp [div_eq_mul_inv, mul_assoc]

theorem normalize_of_unit {v : Vec3 ℝ} (unit : v.length = 1) : v.normalize = v := by
  rw [normalize, unit, one_div_one, mul_one]

theorem normalize_mul_of_pos {k : ℝ} (pos : 0 < k) (v : Vec3 ℝ) :
    (v * k).normalize = v.normalize := by
  have reciprocal : k * (1 / (v.length * k)) = 1 / v.length := by
    rw [mul_one_div, div_mul_cancel_right₀ pos.ne', one_div]
  rw [normalize, normalize, length_mul, abs_of_pos pos]
  ext
  · rw [mul_x, mul_x, mul_x, mul_assoc, reciprocal]
  · rw [mul_y, mul_y, mul_y, mul_assoc, reciprocal]
  · rw [mul_z, mul_z, mul_z, mul_assoc, reciprocal]

theorem normalizeOrZero_eq {v : Vec3 ℝ} (pos : 0 < v.length) :
    v.normalizeOrZero = v.normalize :=
  if_pos ⟨rfl, one_div_pos.mpr pos⟩

/-- A positive multiple of a vector points the same way, and so does that of the zero vector, which
points nowhere. -/
theorem normalizeOrZero_mul_of_pos {k : ℝ} (pos : 0 < k) (v : Vec3 ℝ) :
    (v * k).normalizeOrZero = v.normalizeOrZero := by
  rcases v.length_nonneg.eq_or_lt with none | long
  · have zero : v = 0 := length_eq_zero_iff.mp none.symm
    have same : v * k = v := by
      rw [zero]
      ext <;> simp
    rw [same]
  · have long' : 0 < (v * k).length := by
      rw [length_mul, abs_of_pos pos]
      exact mul_pos long pos
    rw [normalizeOrZero_eq long', normalizeOrZero_eq long, normalize_mul_of_pos pos]

end CharacterMotion.Vec3
