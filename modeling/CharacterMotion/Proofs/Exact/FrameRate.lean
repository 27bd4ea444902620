import CharacterMotion.Binary32.Scalar
import CharacterMotion.Proofs.Exact.Orientation
import CharacterMotion.Proofs.Exact.Reversal

/-!
Turns that are cut into frames, over the real numbers and under the exponential model.

The shares of the turn compose as exponentials do: what two frames leave of the way is the product
of what each of them leaves (`one_sub_share_add`). The headings do not. A frame draws the facing vector
toward the direction of travel by a multiple of it that depends on time alone (`turn_exponential`),
but the next frame draws a vector that has been brought back to length one, and the chord between
two directions is shorter than that. So two frames turn less far than one frame of their length
unless nothing turns or the character faces where it goes (`turn_twice_eq_iff`).
-/

namespace CharacterMotion

namespace TurnModel

variable (rate dt d₁ d₂ : ℝ)

theorem share_exponential : exponential.share rate dt = 1 - Real.exp (-max rate 0 * dt) := by
  simp only [share, Scalar.nonneg_real, Scalar.exp_real]

/-- What is left of a turn after two frames is what is left of it after one of their length. -/
theorem one_sub_share_add :
    1 - exponential.share rate (d₁ + d₂) =
      (1 - exponential.share rate d₁) * (1 - exponential.share rate d₂) := by
  simp only [share_exponential, sub_sub_cancel, mul_add, Real.exp_add]

variable {rate dt}

theorem share_exponential_pos (turns : 0 < rate) (passes : 0 < dt) :
    0 < exponential.share rate dt := by
  rw [share_exponential, max_eq_left turns.le, sub_pos, Real.exp_lt_one_iff, neg_mul, neg_lt_zero]
  exact mul_pos turns passes

theorem share_exponential_of_nonpos (none : rate ≤ 0) : exponential.share rate dt = 0 := by
  rw [share_exponential, max_eq_right none, neg_zero, zero_mul, Real.exp_zero, sub_self]

end TurnModel

namespace Vec3

variable {f g v : Vec3 ℝ}

theorem dot_add_mul (f g w : Vec3 ℝ) (k : ℝ) : (f + g * k).dot w = f.dot w + g.dot w * k := by
  simp only [dot, add_x, add_y, add_z, mul_x, mul_y, mul_z]
  ring

theorem dot_mul (v w : Vec3 ℝ) (k : ℝ) : (v * k).dot w = v.dot w * k := by
  simp only [dot, mul_x, mul_y, mul_z]
  ring

theorem dot_self_of_unit (unit : v.length = 1) : v.dot v = 1 := by
  rw [← lengthSq, ← length_sq, unit, one_pow]

theorem lengthSq_sub (f g : Vec3 ℝ) :
    (f - g).lengthSq = f.lengthSq - 2 * f.dot g + g.lengthSq := by
  simp only [lengthSq, dot, sub_x, sub_y, sub_z]
  ring

/-- Two different directions have a dot product below one. -/
theorem dot_lt_one (unit_f : f.length = 1) (unit_g : g.length = 1) (differ : f ≠ g) :
    f.dot g < 1 := by
  have apart : 0 < (f - g).lengthSq := by
    rw [← length_sq]
    refine sq_pos_of_ne_zero fun none => differ ?_
    have difference := length_eq_zero_iff.mp none
    ext
    · exact sub_eq_zero.mp (congrArg Vec3.x difference)
    · exact sub_eq_zero.mp (congrArg Vec3.y difference)
    · exact sub_eq_zero.mp (congrArg Vec3.z difference)
  rw [lengthSq_sub, lengthSq, lengthSq, dot_self_of_unit unit_f, dot_self_of_unit unit_g] at apart
  linarith

/-- The part along `g` and the part across it, of a direction that is drawn toward `g`. -/
theorem lengthSq_add_mul (unit_f : f.length = 1) (unit_g : g.length = 1) (k : ℝ) :
    (f + g * k).lengthSq = (f.dot g + k) ^ 2 + (1 - f.dot g ^ 2) := by
  have swap : g.dot f = f.dot g := by
    simp only [dot]
    ring
  have expanded : (f + g * k).lengthSq = f.dot f + 2 * k * f.dot g + k ^ 2 * g.dot g := by
    simp only [lengthSq, dot, add_x, add_y, add_z, mul_x, mul_y, mul_z]
    ring
  rw [expanded, dot_self_of_unit unit_f, dot_self_of_unit unit_g]
  ring

/-- The square of the length of a point on the chord, by the angle between its ends. -/
theorem lengthSq_lerp (unit_f : f.length = 1) (unit_g : g.length = 1) (t : ℝ) :
    (f.lerp g t).lengthSq = 1 - 2 * t * (1 - t) * (1 - f.dot g) := by
  have expanded : (f.lerp g t).lengthSq =
      (1 - t) ^ 2 * f.dot f + 2 * t * (1 - t) * f.dot g + t ^ 2 * g.dot g := by
    simp only [lengthSq, lerp, dot, add_x, add_y, add_z, mul_x, mul_y, mul_z]
    ring
  rw [expanded, dot_self_of_unit unit_f, dot_self_of_unit unit_g]
  ring

end Vec3

/-- The share of a vector that lies along an axis grows with its part along it. -/
theorem strictMono_div_sqrt {across : ℝ} (pos : 0 < across) :
    StrictMono fun part : ℝ => part / √(part ^ 2 + across) := by
  have root_pos (u : ℝ) : 0 < √(u ^ 2 + across) := Real.sqrt_pos.mpr (by positivity)
  have ahead {u v : ℝ} (nonneg : 0 ≤ u) (less : u < v) :
      u * √(v ^ 2 + across) < v * √(u ^ 2 + across) := by
    have squares : (u * √(v ^ 2 + across)) ^ 2 < (v * √(u ^ 2 + across)) ^ 2 := by
      rw [mul_pow, mul_pow, Real.sq_sqrt (by positivity), Real.sq_sqrt (by positivity)]
      have : u ^ 2 * across < v ^ 2 * across := by gcongr
      linarith
    exact lt_of_pow_lt_pow_left₀ 2 (mul_nonneg (nonneg.trans less.le) (root_pos u).le) squares
  intro u v less
  rw [div_lt_div_iff₀ (root_pos u) (root_pos v)]
  rcases le_or_gt 0 u with nonneg | negative
  · exact ahead nonneg less
  · rcases le_or_gt v 0 with nonpos | positive
    · have mirrored := ahead (neg_nonneg.mpr nonpos) (neg_lt_neg less)
      rw [neg_sq, neg_sq] at mirrored
      linarith
    · exact (mul_neg_of_neg_of_pos negative (root_pos v)).trans (mul_pos positive (root_pos u))

namespace Heading

variable {h : Heading ℝ} {velocity : Vec3 ℝ} {rate dt d₁ d₂ threshold : ℝ}

theorem along_mul_of_pos {k : ℝ} (pos : 0 < k) (v : Vec3 ℝ) : along (v * k) = along v := by
  unfold along
  rw [Vec3.normalize_mul_of_pos pos]

theorem dot_along (v g : Vec3 ℝ) : (along v).facing.dot g = v.dot g / v.length := by
  change v.normalize.dot g = _
  rw [Vec3.normalize, Vec3.dot_mul, mul_one_div]

/-- The direction of travel. -/
noncomputable def course (velocity : Vec3 ℝ) : Vec3 ℝ := velocity.flat / velocity.flat.length

theorem unit_course (directed : velocity.flat.length ≠ 0) : (course velocity).length = 1 := by
  have quotient : course velocity = velocity.flat.normalize := by
    ext <;> simp [course, Vec3.normalize, div_eq_mul_inv]
  rw [quotient]
  exact Vec3.length_normalize (lt_of_le_of_ne velocity.flat.length_nonneg directed.symm)

/-- Not nearly behind: the chord to the direction of travel keeps away from the middle. -/
def Abreast (h : Heading ℝ) (velocity : Vec3 ℝ) : Prop :=
  -0.999998 ≤ h.facing.dot (course velocity)

theorem Abreast.not_negligible (abreast : h.Abreast velocity) (oriented : h.Oriented)
    (directed : velocity.flat.length ≠ 0) (t : ℝ) :
    ¬ (h.facing.lerp (course velocity) t).lengthSq < negligible := by
  unfold Abreast at abreast
  rw [Vec3.lengthSq_lerp oriented.unit (unit_course directed), negligible, not_lt]
  have product : t * (1 - t) ≤ 1 / 4 := by nlinarith [sq_nonneg (t - 1 / 2)]
  have gap : 0 ≤ 1 - h.facing.dot (course velocity) := by
    by_cases same : h.facing = course velocity
    · rw [same, Vec3.dot_self_of_unit (unit_course directed), sub_self]
    · exact sub_nonneg.mpr (Vec3.dot_lt_one oriented.unit (unit_course directed) same).le
  norm_num at abreast ⊢
  nlinarith [mul_le_mul_of_nonneg_right product gap]

/-- A frame draws the facing vector toward the direction of travel, by what time alone decides. -/
theorem turn_exponential (oriented : h.Oriented) (abreast : h.Abreast velocity)
    (moves : threshold < velocity.flat.length) (directed : velocity.flat.length ≠ 0)
    (turns : 0 < rate) (passes : 0 < dt) :
    h.turn velocity dt rate .exponential threshold =
      along (h.facing + course velocity * (Real.exp (rate * dt) - 1)) := by
  have decay : Real.exp (-rate * dt) * Real.exp (rate * dt) = 1 := by
    rw [← Real.exp_add, neg_mul, neg_add_cancel, Real.exp_zero]
  have point : h.facing.lerp (course velocity) (TurnModel.exponential.share rate dt) =
      (h.facing + course velocity * (Real.exp (rate * dt) - 1)) * Real.exp (-rate * dt) := by
    rw [TurnModel.share_exponential, max_eq_left turns.le]
    ext
    · simp only [Vec3.lerp, Vec3.add_x, Vec3.mul_x]
      linear_combination -(course velocity).x * decay
    · simp only [Vec3.lerp, Vec3.add_y, Vec3.mul_y]
      linear_combination -(course velocity).y * decay
    · simp only [Vec3.lerp, Vec3.add_z, Vec3.mul_z]
      linear_combination -(course velocity).z * decay
  rw [turn_eq moves directed (TurnModel.share_exponential_pos turns passes)]
  change along (h.blend (course velocity) _) = _
  unfold blend
  dsimp only
  rw [if_neg (abreast.not_negligible oriented directed _), point,
    along_mul_of_pos (Real.exp_pos _)]

/-! ### Drawn vectors -/

section

variable {f g : Vec3 ℝ} (unit_f : f.length = 1) (unit_g : g.length = 1)

include unit_f unit_g

theorem dot_along_add_mul (k : ℝ) :
    (along (f + g * k)).facing.dot g =
      (f.dot g + k) / √((f.dot g + k) ^ 2 + (1 - f.dot g ^ 2)) := by
  rw [dot_along, Vec3.dot_add_mul, Vec3.dot_self_of_unit unit_g, one_mul, Vec3.length,
    Vec3.lengthSq_add_mul unit_f unit_g, Scalar.sqrt_real]

/-- The farther a direction is drawn, the nearer it comes, if it starts off the line. -/
theorem strictMono_dot_along (ahead : -1 < f.dot g) (differ : f ≠ g) :
    StrictMono fun k : ℝ => (along (f + g * k)).facing.dot g := by
  have less := Vec3.dot_lt_one unit_f unit_g differ
  have across : 0 < 1 - f.dot g ^ 2 := by nlinarith
  intro k l farther
  dsimp only
  rw [dot_along_add_mul unit_f unit_g, dot_along_add_mul unit_f unit_g]
  exact strictMono_div_sqrt across (add_lt_add_right farther _)

/-- A direction that is drawn off its line gets shorter than by the same way straight on. -/
theorem length_add_mul_lt (differ : f ≠ g) {k : ℝ} (pos : 0 < k) : (f + g * k).length < 1 + k := by
  have less := Vec3.dot_lt_one unit_f unit_g differ
  refine lt_of_pow_lt_pow_left₀ 2 (by positivity) ?_
  rw [Vec3.length_sq, Vec3.lengthSq_add_mul unit_f unit_g]
  nlinarith

end

/-- Drawing again what has been brought back to length one. -/
theorem along_facing_along_add_mul {v : Vec3 ℝ} (pos : 0 < v.length) (g : Vec3 ℝ) (k : ℝ) :
    along ((along v).facing + g * k) = along (v + g * (k * v.length)) := by
  have scaled : (along v).facing + g * k = (v + g * (k * v.length)) * (1 / v.length) := by
    change v * (1 / v.length) + g * k = _
    ext <;> simp <;> field_simp
  rw [scaled, along_mul_of_pos (one_div_pos.mpr pos)]

/-! ### Two frames and one -/

theorem along_facing (oriented : h.Oriented) : along h.facing = h :=
  oriented.along_eq (Vec3.normalize_of_unit oriented.unit)

/-- Without a rate nothing turns. -/
theorem turn_of_nonpos (none : rate ≤ 0) (h : Heading ℝ) (velocity : Vec3 ℝ) (dt threshold : ℝ) :
    h.turn velocity dt rate .exponential threshold = h := by
  have still : (⟨velocity, dt, rate, .exponential, threshold⟩ : Leg ℝ).Still :=
    .inr (TurnModel.share_exponential_of_nonpos none).le
  exact follow_of_none ((h.follow?_eq _).trans (if_pos still))

section

variable (oriented : h.Oriented) (abreast : h.Abreast velocity)
  (moves : threshold < velocity.flat.length) (directed : velocity.flat.length ≠ 0)
  (turns : 0 < rate)

include oriented abreast moves directed turns

/-- A character that faces where it goes stays so. -/
theorem turn_of_facing (same : h.facing = course velocity) (passes : 0 < dt) :
    h.turn velocity dt rate .exponential threshold = h := by
  have longer : h.facing + course velocity * (Real.exp (rate * dt) - 1) =
      h.facing * Real.exp (rate * dt) := by
    rw [← same]
    ext <;> simp <;> ring
  rw [turn_exponential oriented abreast moves directed turns passes, longer,
    along_mul_of_pos (Real.exp_pos _), along_facing oriented]

section

variable (differ : h.facing ≠ course velocity)

include differ

theorem dot_lt_dot_turn (passes : 0 < dt) : h.facing.dot (course velocity) <
    (h.turn velocity dt rate .exponential threshold).facing.dot (course velocity) := by
  have ahead : -1 < h.facing.dot (course velocity) := lt_of_lt_of_le (by norm_num) abreast
  have farther : 0 < Real.exp (rate * dt) - 1 :=
    sub_pos.mpr (Real.one_lt_exp_iff.mpr (mul_pos turns passes))
  have nearer := strictMono_dot_along oriented.unit (unit_course directed) ahead differ farther
  dsimp only at nearer
  rw [Vec3.mul_zero, Vec3.add_zero, along_facing oriented] at nearer
  rwa [turn_exponential oriented abreast moves directed turns passes]

/-- Two frames turn less far than one of their length. -/
theorem dot_turn_turn_lt (first : 0 < d₁) (second : 0 < d₂) :
    ((h.turn velocity d₁ rate .exponential threshold).turn velocity d₂ rate .exponential
      threshold).facing.dot (course velocity) <
    (h.turn velocity (d₁ + d₂) rate .exponential threshold).facing.dot (course velocity) := by
  have ahead : -1 < h.facing.dot (course velocity) := lt_of_lt_of_le (by norm_num) abreast
  have oriented' : (h.turn velocity d₁ rate .exponential threshold).Oriented :=
    oriented.follow ⟨velocity, d₁, rate, .exponential, threshold⟩
  have abreast' : (h.turn velocity d₁ rate .exponential threshold).Abreast velocity :=
    le_trans abreast (dot_lt_dot_turn oriented abreast moves directed turns differ first).le
  rw [turn_exponential oriented' abreast' moves directed turns second,
    turn_exponential oriented abreast moves directed turns first,
    turn_exponential oriented abreast moves directed turns (add_pos first second)]
  have grows₁ : 0 < Real.exp (rate * d₁) - 1 :=
    sub_pos.mpr (Real.one_lt_exp_iff.mpr (mul_pos turns first))
  have grows₂ : 0 < Real.exp (rate * d₂) - 1 :=
    sub_pos.mpr (Real.one_lt_exp_iff.mpr (mul_pos turns second))
  have sum : Real.exp (rate * (d₁ + d₂)) = Real.exp (rate * d₁) * Real.exp (rate * d₂) := by
    rw [mul_add, Real.exp_add]
  rw [sum]
  generalize Real.exp (rate * d₁) = e₁ at *
  generalize Real.exp (rate * d₂) = e₂ at *
  have shorter := length_add_mul_lt oriented.unit (unit_course directed) differ grows₁
  have some : 0 < (h.facing + course velocity * (e₁ - 1)).length := by
    refine lt_of_le_of_ne (Vec3.length_nonneg _) fun none => ?_
    have square := Vec3.length_sq (h.facing + course velocity * (e₁ - 1))
    rw [← none, Vec3.lengthSq_add_mul oriented.unit (unit_course directed)] at square
    have less := Vec3.dot_lt_one oriented.unit (unit_course directed) differ
    nlinarith
  rw [along_facing_along_add_mul some]
  generalize (h.facing + course velocity * (e₁ - 1)).length = length at *
  have added : h.facing + course velocity * (e₁ - 1) + course velocity * ((e₂ - 1) * length) =
      h.facing + course velocity * (e₁ - 1 + (e₂ - 1) * length) := by
    ext <;> simp <;> ring
  rw [added]
  refine strictMono_dot_along oriented.unit (unit_course directed) ahead differ ?_
  have less := mul_lt_mul_of_pos_left shorter grows₂
  linarith

end

end

/-- Two frames that are too short to turn a character that moves exactly backward, and one of their
length. -/
theorem turn_turn_eq_iff_of_behind (oriented : h.Oriented) (behind : course velocity = -h.facing)
    (moves : threshold < velocity.flat.length) (turns : 0 < rate) (first : 0 < d₁) (second : 0 < d₂)
    (short₁ : TurnModel.exponential.share rate d₁ ≤ 0.4995)
    (short₂ : TurnModel.exponential.share rate d₂ ≤ 0.4995) :
    ((h.turn velocity d₁ rate .exponential threshold).turn velocity d₂ rate .exponential threshold =
        h.turn velocity (d₁ + d₂) rate .exponential threshold) ↔
      TurnModel.exponential.share rate (d₁ + d₂) ≤ 0.4995 := by
  have turns_by {dt : ℝ} (passes : 0 < dt) : 0 < TurnModel.exponential.share rate dt :=
    TurnModel.share_exponential_pos turns passes
  rw [turn_eq_self_of_behind oriented behind moves (turns_by first) short₁,
    turn_eq_self_of_behind oriented behind moves (turns_by second) short₂]
  have facing := facing_turn_of_behind oriented behind moves (turns_by (add_pos first second))
  constructor
  · intro same
    by_contra past
    rw [← same, if_neg past] at facing
    split at facing
    · exact right_ne_facing oriented facing.symm
    · exact neg_facing_ne_facing oriented facing.symm
  · intro short
    have together := turns_by (add_pos first second)
    exact (turn_eq_self_of_behind oriented behind moves together short).symm

/-- When cutting a turn into frames makes no difference. What the frames leave of the way always
composes; but their headings are those of one frame only if nothing turns or the character faces
where it goes, and otherwise they stay farther from the direction of travel. A character that moves
exactly backward is not turned at all by short frames, however many, but is by a long one. -/
theorem turn_twice_eq_iff (oriented : h.Oriented) (moves : threshold < velocity.flat.length)
    (directed : velocity.flat.length ≠ 0) (first : 0 < d₁) (second : 0 < d₂) :
    let step := fun dt (h : Heading ℝ) => h.turn velocity dt rate .exponential threshold
    let share := TurnModel.exponential.share rate
    1 - share (d₁ + d₂) = (1 - share d₁) * (1 - share d₂) ∧
    (h.Abreast velocity →
      (step d₂ (step d₁ h) = step (d₁ + d₂) h ↔ rate ≤ 0 ∨ h.facing = course velocity) ∧
      (¬ (rate ≤ 0 ∨ h.facing = course velocity) →
        (step d₂ (step d₁ h)).facing.dot (course velocity) <
          (step (d₁ + d₂) h).facing.dot (course velocity))) ∧
    (course velocity = -h.facing → 0 < rate → share d₁ ≤ 0.4995 → share d₂ ≤ 0.4995 →
      (step d₂ (step d₁ h) = step (d₁ + d₂) h ↔ share (d₁ + d₂) ≤ 0.4995)) := by
  intro step share
  refine ⟨TurnModel.one_sub_share_add rate d₁ d₂, fun abreast => ?_,
    fun behind turns short₁ short₂ =>
      turn_turn_eq_iff_of_behind oriented behind moves turns first second short₁ short₂⟩
  have less (away : ¬ (rate ≤ 0 ∨ h.facing = course velocity)) :
      (step d₂ (step d₁ h)).facing.dot (course velocity) <
        (step (d₁ + d₂) h).facing.dot (course velocity) := by
    obtain ⟨turns, differ⟩ := not_or.mp away
    exact dot_turn_turn_lt oriented abreast moves directed (not_le.mp turns) differ first second
  refine ⟨⟨fun same => ?_, fun steady => ?_⟩, less⟩
  · by_contra away
    have apart := less away
    rw [same] at apart
    exact lt_irrefl _ apart
  · have stays {dt : ℝ} (passes : 0 < dt) : step dt h = h := by
      rcases le_or_gt rate 0 with none | turns
      · exact turn_of_nonpos none h velocity dt threshold
      · have same := steady.resolve_left (not_le.mpr turns)
        exact turn_of_facing oriented abreast moves directed turns same passes
    rw [stays first, stays second, stays (add_pos first second)]

/-- Sideways motion of a character that faces forward. -/
theorem sideways : (⟨3, 0, 0⟩ : Vec3 ℝ).flat.length = 3 ∧
    course ⟨3, 0, 0⟩ = (⟨1, 0, 0⟩ : Vec3 ℝ) ∧ (initial : Heading ℝ).Abreast ⟨3, 0, 0⟩ ∧
    (initial : Heading ℝ).facing ≠ course ⟨3, 0, 0⟩ := by
  have length : (⟨3, 0, 0⟩ : Vec3 ℝ).flat.length = 3 := by
    rw [Vec3.length, Vec3.lengthSq_eq, Scalar.sqrt_real, Real.sqrt_eq_iff_mul_self_eq_of_pos
      three_pos]
    norm_num
  have direction : course ⟨3, 0, 0⟩ = (⟨1, 0, 0⟩ : Vec3 ℝ) := by
    unfold course
    rw [length]
    ext <;> norm_num
  refine ⟨length, direction, ?_, fun same => ?_⟩
  · unfold Abreast
    rw [direction]
    norm_num [initial, Vec3.forward, Vec3.dot]
  · rw [direction] at same
    exact one_ne_zero (congrArg Vec3.z same)

theorem turn_twice_eq_iff_sideways :
    let step := fun dt (h : Heading ℝ) => h.turn ⟨3, 0, 0⟩ dt 8 .exponential 0.1
    ¬ ((8 : ℝ) ≤ 0 ∨ (initial : Heading ℝ).facing = course ⟨3, 0, 0⟩) ∧
      (step 0.0625 (step 0.0625 initial)).facing.dot (course ⟨3, 0, 0⟩) <
        (step (0.0625 + 0.0625) initial).facing.dot (course ⟨3, 0, 0⟩) := by
  obtain ⟨length, -, abreast, differ⟩ := sideways
  have away : ¬ ((8 : ℝ) ≤ 0 ∨ (initial : Heading ℝ).facing = course ⟨3, 0, 0⟩) :=
    not_or.mpr ⟨by norm_num, differ⟩
  refine ⟨away, ((turn_twice_eq_iff oriented_initial ?_ ?_ ?_ ?_).2.1 abreast).2 away⟩
  · rw [length]
    norm_num
  · rw [length]
    norm_num
  · norm_num
  · norm_num

/-- Two frames of a sixteenth of a second turn a character toward its side less far than one of an
eighth does, by about five degrees. -/
theorem two_frames_turn_less :
    (let step := fun dt (h : Heading ℝ) => h.turn ⟨3, 0, 0⟩ dt 8 .exponential 0.1;
      step 0.0625 (step 0.0625 initial) ≠ step (0.0625 + 0.0625) initial) ∧
    let step := fun dt (h : Heading Float32) => h.turn ⟨3, 0, 0⟩ dt 8 .exponential 0.1
    (step 0.125 initial).facing.z + 0.07 < (step 0.0625 (step 0.0625 initial)).facing.z := by
  obtain ⟨length, -, abreast, differ⟩ := sideways
  refine ⟨?_, by decide +kernel⟩
  intro step same
  have less : (step 0.0625 (step 0.0625 initial)).facing.dot (course ⟨3, 0, 0⟩) <
      (step (0.0625 + 0.0625) initial).facing.dot (course ⟨3, 0, 0⟩) :=
    dot_turn_turn_lt oriented_initial abreast (by rw [length]; norm_num)
      (by rw [length]; norm_num) (by norm_num) differ (by norm_num) (by norm_num)
  rw [same] at less
  exact lt_irrefl _ less

end Heading

end CharacterMotion
