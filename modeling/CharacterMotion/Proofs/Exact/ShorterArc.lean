import CharacterMotion.Proofs.Exact.FrameRate

/-!
Turns go along the shorter arc, over the real numbers and under both models.

A frame that turns brings the facing vector nearer to the direction of travel, and not past it
(`turn_shortens_arc`). Off the middle of the chord this is so because the new facing vector is a
combination of the old one and of the direction of travel, with no negative part of either. In the
middle it is the right-hand side, which need not lie on the shorter arc; but the middle is reached
only by a chord between directions that are almost opposite, and from there every side is nearer.

So under a steady direction of travel the way that is left never grows (`monotone_dot_after`).
-/

namespace CharacterMotion

theorem TurnModel.share_le_one (m : TurnModel) (rate dt : ℝ) : m.share rate dt ≤ 1 := by
  cases m with
  | exponential =>
      rw [share_exponential]
      exact sub_le_self 1 (Real.exp_pos _).le
  | linear =>
      simp only [share, Scalar.nonneg_real, Scalar.clampUnit_real]
      exact max_le zero_le_one (min_le_right ..)

namespace Vec3

variable {f g : Vec3 ℝ}

@[simp] theorem lerp_one (f g : Vec3 ℝ) : f.lerp g 1 = g := by
  ext <;> simp [lerp]

@[simp] theorem lerp_self (f : Vec3 ℝ) (t : ℝ) : f.lerp f t = f := by
  ext <;> simp [lerp] <;> ring

theorem length_neg (v : Vec3 ℝ) : (-v).length = v.length := by
  simp [length, lengthSq_eq]

theorem dot_neg (f g : Vec3 ℝ) : f.dot (-g) = -f.dot g := by
  simp only [dot, neg_x, neg_y, neg_z]
  ring

theorem dot_comm (f g : Vec3 ℝ) : f.dot g = g.dot f := by
  simp only [dot]
  ring

theorem neg_dot_of_unit (unit : g.length = 1) : (-g).dot g = -1 := by
  rw [dot_comm, dot_neg, dot_self_of_unit unit]

/-- Two directions that are not opposite have a dot product above minus one. -/
theorem neg_one_lt_dot (unit_f : f.length = 1) (unit_g : g.length = 1) (apart : f ≠ -g) :
    -1 < f.dot g := by
  have unit_neg : (-g).length = 1 := (length_neg g).trans unit_g
  have less := dot_lt_one unit_f unit_neg apart
  rw [dot_neg] at less
  linarith

/-- The perpendicular measures what the dot product leaves out. -/
theorem sq_dot_up_cross (level_f : f.y = 0) (level_g : g.y = 0) (unit_f : f.length = 1)
    (unit_g : g.length = 1) : (up.cross f).dot g ^ 2 = 1 - f.dot g ^ 2 := by
  have square_f := length_sq f
  have square_g := length_sq g
  rw [unit_f, lengthSq_eq, level_f] at square_f
  rw [unit_g, lengthSq_eq, level_g] at square_g
  have product : (1 : ℝ) = (f.x ^ 2 + f.z ^ 2) * (g.x ^ 2 + g.z ^ 2) := by
    linear_combination square_f + (f.x ^ 2 + f.z ^ 2) * square_g
  rw [up_cross level_f, product]
  simp only [dot, level_f, level_g]
  ring

end Vec3

namespace Heading

variable {h : Heading ℝ} {f g velocity : Vec3 ℝ} {dt rate : ℝ} {model : TurnModel} {threshold t : ℝ}

/-! ### Points of the chord -/

theorem facing_along_of_unit (unit : g.length = 1) : (along g).facing = g :=
  Vec3.normalize_of_unit unit

/-- A point of the chord lies where a vector drawn toward its end does. -/
theorem along_lerp (before : t < 1) (f g : Vec3 ℝ) :
    along (f.lerp g t) = along (f + g * (t / (1 - t))) := by
  have rest : 0 < 1 - t := sub_pos.mpr before
  have scaled : f.lerp g t = (f + g * (t / (1 - t))) * (1 - t) := by
    ext <;> simp [Vec3.lerp] <;> field_simp
  rw [scaled, along_mul_of_pos rest]

/-- The direction of a point of the chord is nearer to its end than its start is. -/
theorem dot_lt_dot_along_lerp (unit_f : f.length = 1) (unit_g : g.length = 1)
    (ahead : -1 < f.dot g) (differ : f ≠ g) (pos : 0 < t) (le_one : t ≤ 1) :
    f.dot g < (along (f.lerp g t)).facing.dot g := by
  rcases le_one.eq_or_lt with rfl | before
  · rw [Vec3.lerp_one, facing_along_of_unit unit_g, Vec3.dot_self_of_unit unit_g]
    exact Vec3.dot_lt_one unit_f unit_g differ
  · have farther : 0 < t / (1 - t) := div_pos pos (sub_pos.mpr before)
    have nearer := strictMono_dot_along unit_f unit_g ahead differ farther
    dsimp only at nearer
    rwa [Vec3.mul_zero, Vec3.add_zero, facing_along_of_unit unit_f, ← along_lerp before] at nearer

/-- The direction of a point of the chord is made of both ends, with no negative part of either. -/
theorem facing_along_lerp (pos : 0 ≤ t) (le_one : t ≤ 1) (f g : Vec3 ℝ) :
    ∃ a b : ℝ, 0 ≤ a ∧ 0 ≤ b ∧ (along (f.lerp g t)).facing = f * a + g * b := by
  have nonneg := Vec3.length_nonneg (f.lerp g t)
  refine ⟨(1 - t) / (f.lerp g t).length, t / (f.lerp g t).length,
    div_nonneg (sub_nonneg.mpr le_one) nonneg, div_nonneg pos nonneg, ?_⟩
  change (f.lerp g t).normalize = _
  unfold Vec3.normalize
  generalize (f.lerp g t).length = length
  ext <;> simp [Vec3.lerp] <;> ring

/-! ### Turns -/

theorem blend_of_not_negligible (long : ¬ (h.facing.lerp g t).lengthSq < negligible) :
    h.blend g t = h.facing.lerp g t := if_neg long

theorem blend_of_negligible (short : (h.facing.lerp g t).lengthSq < negligible) :
    h.blend g t = h.right := if_pos short

/-- The end of the chord, which is never taken for its middle. -/
theorem blend_one (unit_g : g.length = 1) (h : Heading ℝ) : h.blend g 1 = g := by
  rw [blend_of_not_negligible, Vec3.lerp_one]
  rw [Vec3.lerp_one, ← Vec3.length_sq, unit_g]
  norm_num [negligible]

theorem blend_self (oriented : h.Oriented) : h.blend h.facing t = h.facing := by
  rw [blend_of_not_negligible, Vec3.lerp_self]
  rw [Vec3.lerp_self, ← Vec3.length_sq, oriented.unit]
  norm_num [negligible]

theorem level_course (velocity : Vec3 ℝ) : (course velocity).y = 0 := zero_div _

/-- Where the chord gives no direction, the right-hand side is nearer than the facing vector. -/
theorem dot_lt_dot_right (oriented : h.Oriented) (directed : velocity.flat.length ≠ 0)
    (short : (h.facing.lerp (course velocity) t).lengthSq < negligible) :
    h.facing.dot (course velocity) < h.right.dot (course velocity) := by
  have behind : h.facing.dot (course velocity) < -0.999998 := by
    by_contra abreast
    exact Abreast.not_negligible (not_lt.mp abreast) oriented directed t short
  have rest := Vec3.sq_dot_up_cross oriented.level (level_course velocity) oriented.unit
    (unit_course directed)
  rw [← oriented.right_eq] at rest
  -- Both products cannot be near minus one.
  by_contra farther
  have right := not_lt.mp farther
  norm_num at behind
  nlinarith

/-- A turn brings the facing vector nearer, on the chord and off it. -/
theorem dot_lt_dot_along_blend (oriented : h.Oriented) (directed : velocity.flat.length ≠ 0)
    (differ : h.facing ≠ course velocity) (apart : h.facing ≠ -course velocity) (pos : 0 < t)
    (le_one : t ≤ 1) :
    h.facing.dot (course velocity) <
      (along (h.blend (course velocity) t)).facing.dot (course velocity) := by
  have unit := unit_course directed
  by_cases short : (h.facing.lerp (course velocity) t).lengthSq < negligible
  · rw [blend_of_negligible short, facing_along_of_unit oriented.right_unit]
    exact dot_lt_dot_right oriented directed short
  · have ahead := Vec3.neg_one_lt_dot oriented.unit unit apart
    rw [blend_of_not_negligible short]
    exact dot_lt_dot_along_lerp oriented.unit unit ahead differ pos le_one

/-- Off the middle of the chord the direction of travel stays on the side on which it was. -/
theorem along_blend_between (oriented : h.Oriented) (level : g.y = 0) (pos : 0 ≤ t)
    (le_one : t ≤ 1) (long : ¬ (h.facing.lerp g t).lengthSq < negligible) :
    ∃ a b : ℝ, 0 ≤ a ∧ 0 ≤ b ∧ (along (h.blend g t)).facing = h.facing * a + g * b ∧
      (along (h.blend g t)).right.dot g = h.right.dot g * a := by
  obtain ⟨blend_level, directed⟩ := oriented.blend level t
  have turned := oriented_along blend_level directed
  obtain ⟨a, b, a_nonneg, b_nonneg, facing⟩ := facing_along_lerp pos le_one h.facing g
  rw [← blend_of_not_negligible long] at facing
  refine ⟨a, b, a_nonneg, b_nonneg, facing, ?_⟩
  rw [turned.right_eq, facing, oriented.right_eq, Vec3.up_cross (by simp [oriented.level, level]),
    Vec3.up_cross oriented.level]
  simp only [Vec3.dot, Vec3.add_x, Vec3.add_z, Vec3.mul_x, Vec3.mul_z, level]
  ring

/-! ### Runs -/

/-- Nothing is farther from a direction than its opposite. -/
theorem Oriented.neg_one_le_dot (oriented : h.Oriented) (unit : g.length = 1) :
    -1 ≤ h.facing.dot g := by
  by_cases opposite : h.facing = -g
  · rw [opposite, Vec3.neg_dot_of_unit unit]
  · exact (Vec3.neg_one_lt_dot oriented.unit unit opposite).le

/-- No leg leads away from its direction of travel. -/
theorem dot_le_dot_follow (oriented : h.Oriented) (l : Leg ℝ) :
    h.facing.dot (course l.velocity) ≤ (h.follow l).facing.dot (course l.velocity) := by
  by_cases still : l.Still
  · rw [follow_of_none ((h.follow?_eq l).trans (if_pos still))]
  · have directed : l.velocity.flat.length ≠ 0 := Leg.speed_ne_zero still
    have turns : 0 < l.share := not_le.mp fun small => still (.inr small)
    have along_blend : h.follow l = along (h.blend (course l.velocity) l.share) :=
      follow_of_some ((h.follow?_eq l).trans (if_neg still))
    by_cases same : h.facing = course l.velocity
    · rw [along_blend, ← same, blend_self oriented, along_facing oriented]
    · by_cases opposite : h.facing = -course l.velocity
      · rw [opposite, Vec3.neg_dot_of_unit (unit_course directed)]
        exact (oriented.follow l).neg_one_le_dot (unit_course directed)
      · rw [along_blend]
        exact (dot_lt_dot_along_blend oriented directed same opposite turns
          (l.model.share_le_one l.rate l.dt)).le

/-- Under a steady direction of travel a heading comes nearer to it all the time, whatever the
lengths, rates, models and thresholds of the legs. -/
theorem monotone_dot_after (oriented : h.Oriented) {legs : Nat → Leg ℝ}
    (steady : ∀ n, course (legs n).velocity = g) :
    Monotone fun n => (h.after legs n).facing.dot g := by
  refine monotone_nat_of_le_succ fun n => ?_
  have nearer := dot_le_dot_follow (oriented.after legs n) (legs n)
  rw [steady n] at nearer
  exact nearer

/-- What a frame that turns makes of the facing vector. It is nearer to the direction of travel
than before, unless it was there already or exactly opposite. If the chord gives a direction, it is a
combination of the facing vector before and the direction of travel, which stays on the side on
which it was; otherwise it is the right-hand side. The whole share of a turn ends in the direction
of travel, and what faces there stays as it is. -/
theorem turn_shortens_arc (oriented : h.Oriented) (moves : threshold < velocity.flat.length)
    (directed : velocity.flat.length ≠ 0) (turns : 0 < model.share rate dt) :
    let g := course velocity
    let share := model.share rate dt
    let turned := h.turn velocity dt rate model threshold
    share ≤ 1 ∧
    (h.facing ≠ g → h.facing ≠ -g → h.facing.dot g < turned.facing.dot g) ∧
    (¬ (h.facing.lerp g share).lengthSq < negligible →
      ∃ a b : ℝ, 0 ≤ a ∧ 0 ≤ b ∧ turned.facing = h.facing * a + g * b ∧
        turned.right.dot g = h.right.dot g * a) ∧
    ((h.facing.lerp g share).lengthSq < negligible → turned.facing = h.right) ∧
    (share = 1 → turned.facing = g) ∧ (h.facing = g → turned = h) := by
  intro g share turned
  have le_one : share ≤ 1 := model.share_le_one rate dt
  have unit : g.length = 1 := unit_course directed
  have along_blend : turned = along (h.blend g share) := turn_eq moves directed turns
  rw [along_blend]
  refine ⟨le_one, fun differ apart => ?_, fun long => ?_, fun short => ?_, fun whole => ?_,
    fun same => ?_⟩
  · exact dot_lt_dot_along_blend oriented directed differ apart turns le_one
  · exact along_blend_between oriented (level_course velocity) turns.le le_one long
  · rw [blend_of_negligible short, facing_along_of_unit oriented.right_unit]
  · rw [whole, blend_one unit, facing_along_of_unit unit]
  · rw [← same, blend_self oriented, along_facing oriented]

/-- The length and the direction of a velocity, if its length is known. -/
theorem course_of_sq (x z : ℝ) {speed : ℝ} (pos : 0 < speed) (square : x ^ 2 + z ^ 2 = speed ^ 2) :
    (⟨x, 0, z⟩ : Vec3 ℝ).flat.length = speed ∧
      course ⟨x, 0, z⟩ = (⟨x / speed, 0, z / speed⟩ : Vec3 ℝ) := by
  have length : (⟨x, 0, z⟩ : Vec3 ℝ).flat.length = speed :=
    Vec3.length_of_sq pos.le (by simpa using square)
  refine ⟨length, ?_⟩
  unfold course
  rw [length]
  ext <;> simp

theorem share_linear_half : TurnModel.linear.share (8 : ℝ) 0.0625 = 0.5 := by
  simp only [TurnModel.share, Scalar.nonneg_real, Scalar.clampUnit_real]
  norm_num

/-- Half of a turn: backward and to the side, where the chord gives a direction, and backward but for
a thousandth, where it does not. -/
theorem turn_shortens_arc_half :
    let start : Heading ℝ := initial
    let turned := fun velocity => start.turn velocity 0.0625 8 .linear 0.1
    let side : Vec3 ℝ := ⟨3, 0, -4⟩
    let back : Vec3 ℝ := ⟨4000, 0, -3999999⟩
    (∃ a b : ℝ, 0 ≤ a ∧ 0 ≤ b ∧ (turned side).facing = start.facing * a + course side * b ∧
      (turned side).right.dot (course side) = start.right.dot (course side) * a) ∧
    (turned back).facing = start.right ∧
      start.facing.dot (course back) < (turned back).facing.dot (course back) := by
  intro start turned side back
  obtain ⟨length_side, course_side⟩ :=
    course_of_sq 3 (-4) (by norm_num : (0 : ℝ) < 5) (by norm_num)
  obtain ⟨length_back, course_back⟩ :=
    course_of_sq 4000 (-3999999) (by norm_num : (0 : ℝ) < 4000001) (by norm_num)
  have turns : 0 < TurnModel.linear.share (8 : ℝ) 0.0625 := by
    rw [share_linear_half]
    norm_num
  have moves_side : (0.1 : ℝ) < side.flat.length := by
    rw [length_side]
    norm_num
  have moves_back : (0.1 : ℝ) < back.flat.length := by
    rw [length_back]
    norm_num
  have to_side := turn_shortens_arc oriented_initial moves_side
    (by rw [length_side]; norm_num) turns
  have to_back := turn_shortens_arc oriented_initial moves_back
    (by rw [length_back]; norm_num) turns
  rw [share_linear_half] at to_side to_back
  obtain ⟨-, -, between, -⟩ := to_side
  obtain ⟨-, nearer, -, middle, -⟩ := to_back
  refine ⟨between ?_, middle ?_, nearer (fun same => ?_) fun opposite => ?_⟩
  · rw [Vec3.lengthSq_eq, course_side]
    norm_num [negligible, Vec3.lerp, initial, Vec3.forward]
  · rw [Vec3.lengthSq_eq, course_back]
    norm_num [negligible, Vec3.lerp, initial, Vec3.forward]
  · rw [course_back] at same
    have x := congrArg Vec3.x same
    norm_num [initial, Vec3.forward] at x
  · rw [course_back] at opposite
    have x := congrArg Vec3.x opposite
    norm_num [initial, Vec3.forward] at x

end Heading

end CharacterMotion
