import CharacterMotion.Binary32.Scalar
import CharacterMotion.Proofs.Exact.Heading

/-!
Turning to the opposite direction, over the real numbers.

When a character moves exactly backward, the chord of the turn runs through the middle, and its
point is `1 - 2 * share` times the facing vector. Its length is brought back to one, so that only
three headings can come of it: the old one while the point is short of the middle, the right-hand
side if it is within a thousandth of the middle, and the opposite one if it is past the middle
(`facing_turn_of_behind`). A share of the turn of 0.4995 or less is thus lost in every frame, and
the character goes on facing away from where it moves (`leaves_facing_iff_of_behind`). The default
tuning at sixty frames per second has such a share.
-/

namespace CharacterMotion.Heading

variable {h : Heading ℝ} {velocity : Vec3 ℝ} {dt rate : ℝ} {model : TurnModel} {threshold : ℝ}

theorem lerp_neg (v : Vec3 ℝ) (t : ℝ) : v.lerp (-v) t = v * (1 - 2 * t) := by
  ext <;> simp [Vec3.lerp] <;> ring

/-- Near the middle of the chord there is no direction. -/
theorem lengthSq_lerp_neg_lt_iff {v : Vec3 ℝ} (unit : v.length = 1) (t : ℝ) :
    (v.lerp (-v) t).lengthSq < negligible ↔ 0.4995 < t ∧ t < 0.5005 := by
  have square : (v.lerp (-v) t).lengthSq = (1 - 2 * t) ^ 2 := by
    rw [lerp_neg, ← Vec3.length_sq, Vec3.length_mul, unit, one_mul, sq_abs]
  have small : (negligible : ℝ) = 0.001 ^ 2 := by norm_num [negligible]
  rw [square, small, sq_lt_sq, abs_lt, abs_of_pos (by norm_num : (0 : ℝ) < 0.001)]
  constructor
  · rintro ⟨low, high⟩
    constructor <;> linarith
  · rintro ⟨low, high⟩
    constructor <;> linarith

/-- The direction that a turn to the opposite direction arrives at. -/
theorem along_blend_neg (oriented : h.Oriented) (t : ℝ) :
    (along (h.blend (-h.facing) t)).facing =
      if t ≤ 0.4995 then h.facing else if t < 0.5005 then h.right else -h.facing := by
  have off_middle (out : ¬ (0.4995 < t ∧ t < 0.5005)) :
      (along (h.blend (-h.facing) t)).facing = h.facing * ((1 - 2 * t) / |1 - 2 * t|) := by
    have long := (lengthSq_lerp_neg_lt_iff oriented.unit t).not.mpr out
    simp only [blend, along, if_neg long]
    rw [lerp_neg, Vec3.normalize_mul_of_unit oriented.unit]
  rcases le_or_gt t 0.4995 with short | past
  · have ahead : 0 < 1 - 2 * t := by linarith
    rw [if_pos short, off_middle fun window => not_lt.mpr short window.1, abs_of_pos ahead,
      div_self ahead.ne', Vec3.mul_one]
  · rw [if_neg (not_le.mpr past)]
    rcases lt_or_ge t 0.5005 with near | far
    · have window := (lengthSq_lerp_neg_lt_iff oriented.unit t).mpr ⟨past, near⟩
      simp only [blend, along, if_pos window, if_pos near]
      exact Vec3.normalize_of_unit oriented.right_unit
    · have behind : 1 - 2 * t < 0 := by linarith
      rw [if_neg (not_lt.mpr far), off_middle fun window => not_lt.mpr far window.2,
        abs_of_neg behind, div_neg, div_self behind.ne]
      ext <;> simp

theorem right_ne_facing (oriented : h.Oriented) : h.right ≠ h.facing := by
  intro same
  rw [oriented.right_eq, Vec3.up_cross oriented.level] at same
  have x : h.facing.z = h.facing.x := congrArg Vec3.x same
  have z : -h.facing.x = h.facing.z := congrArg Vec3.z same
  refine oriented.z_ne_zero ?_ ?_ <;> linarith

theorem neg_facing_ne_facing (oriented : h.Oriented) : -h.facing ≠ h.facing := by
  intro same
  have x : -h.facing.x = h.facing.x := congrArg Vec3.x same
  have z : -h.facing.z = h.facing.z := congrArg Vec3.z same
  refine oriented.z_ne_zero ?_ ?_ <;> linarith

/-- Exactly backward motion has a direction. -/
theorem directed_of_behind (oriented : h.Oriented)
    (behind : velocity.flat / velocity.flat.length = -h.facing) : velocity.flat.length ≠ 0 := by
  intro none
  refine oriented.z_ne_zero ?_ ?_
  · have x := congrArg Vec3.x behind
    simpa [none] using x.symm
  · have z := congrArg Vec3.z behind
    simpa [none] using z.symm

theorem facing_turn_of_behind (oriented : h.Oriented)
    (behind : velocity.flat / velocity.flat.length = -h.facing)
    (moves : threshold < velocity.flat.length) (turns : 0 < model.share rate dt) :
    (h.turn velocity dt rate model threshold).facing =
      if model.share rate dt ≤ 0.4995 then h.facing
      else if model.share rate dt < 0.5005 then h.right else -h.facing := by
  rw [turn_eq moves (directed_of_behind oriented behind) turns, behind, along_blend_neg oriented]

/-- A share that is too small to pass the middle leaves the whole heading as it is. -/
theorem turn_eq_self_of_behind (oriented : h.Oriented)
    (behind : velocity.flat / velocity.flat.length = -h.facing)
    (moves : threshold < velocity.flat.length) (turns : 0 < model.share rate dt)
    (short : model.share rate dt ≤ 0.4995) : h.turn velocity dt rate model threshold = h := by
  have facing := facing_turn_of_behind oriented behind moves turns
  rw [if_pos short] at facing
  rw [turn_eq moves (directed_of_behind oriented behind) turns] at facing ⊢
  exact oriented.along_eq facing

/-- What becomes of a character that moves exactly backward: one frame turns it away exactly if
the share of the turn exceeds 0.4995, and otherwise no number of frames does. -/
theorem leaves_facing_iff_of_behind (oriented : h.Oriented)
    (behind : velocity.flat / velocity.flat.length = -h.facing)
    (moves : threshold < velocity.flat.length) (turns : 0 < model.share rate dt) :
    let step := fun h : Heading ℝ => h.turn velocity dt rate model threshold
    let share := model.share rate dt
    (step h).facing =
      (if share ≤ 0.4995 then h.facing else if share < 0.5005 then h.right else -h.facing) ∧
    ((step h).facing ≠ h.facing ↔ 0.4995 < share) ∧
    ((∃ n, (step^[n] h).facing ≠ h.facing) ↔ 0.4995 < share) := by
  intro step share
  have outcome : (step h).facing =
      if share ≤ 0.4995 then h.facing else if share < 0.5005 then h.right else -h.facing :=
    facing_turn_of_behind oriented behind moves turns
  have leaves : (step h).facing ≠ h.facing ↔ 0.4995 < share := by
    rw [outcome]
    split <;> rename_i short
    · exact iff_of_false (fun away => away rfl) (not_lt.mpr short)
    · refine iff_of_true ?_ (not_le.mp short)
      split
      · exact right_ne_facing oriented
      · exact neg_facing_ne_facing oriented
  refine ⟨outcome, leaves, ?_, fun past => ⟨1, leaves.mpr past⟩⟩
  rintro ⟨n, away⟩
  by_contra short
  have fixed : step h = h :=
    turn_eq_self_of_behind oriented behind moves turns (not_lt.mp short)
  rw [Function.iterate_fixed fixed] at away
  exact away rfl

theorem leaves_facing_iff_of_behind_linear :
    let step := fun h : Heading ℝ => h.turn ⟨0, 0, -4⟩ 0.015625 8 .linear 0.1
    (∃ n, (step^[n] initial).facing ≠ (initial : Heading ℝ).facing) ↔
      0.4995 < TurnModel.linear.share (8 : ℝ) 0.015625 := by
  have length : (⟨0, 0, -4⟩ : Vec3 ℝ).flat.length = 4 := by
    rw [Vec3.length, Vec3.lengthSq_eq, Scalar.sqrt_real, Real.sqrt_eq_iff_mul_self_eq_of_pos four_pos]
    norm_num
  refine (leaves_facing_iff_of_behind oriented_initial ?_ ?_ ?_).2.2
  · rw [length]
    ext <;> norm_num [initial, Vec3.forward]
  · rw [length]
    norm_num
  · simp only [TurnModel.share, Scalar.nonneg_real, Scalar.clampUnit_real]
    norm_num

/-- A character that faces forward and moves backward never turns, neither under the linear model
with an eighth of the turn in each frame nor under the default tuning at sixty frames per second. -/
theorem never_turns_round :
    let linear := fun h : Heading Float32 => h.turn ⟨0, 0, -4⟩ 0.015625 8 .linear 0.1
    let tuned := fun h : Heading Float32 => h.turn ⟨0, 0, -4⟩ (1 / 60) 8 .exponential 0.1
    (TurnModel.linear.share (8 : Float32) 0.015625 = 0.125 ∧
      ∀ n, (linear^[n] initial).facing = (initial : Heading Float32).facing) ∧
    (0 < TurnModel.exponential.share (8 : Float32) (1 / 60) ∧
      ∀ n, (tuned^[n] initial).facing = (initial : Heading Float32).facing) := by
  intro linear tuned
  have linear_fixed : linear initial = initial := by decide +kernel
  have tuned_fixed : tuned initial = initial := by decide +kernel
  refine ⟨⟨by decide +kernel, fun n => ?_⟩, by decide +kernel, fun n => ?_⟩
  · rw [Function.iterate_fixed linear_fixed]
  · rw [Function.iterate_fixed tuned_fixed]

end CharacterMotion.Heading
