import CharacterMotion.Heading
import CharacterMotion.Proofs.Exact.Vec3

/-!
Headings over the real numbers. A heading is oriented if it faces along a horizontal vector of
length one and has the horizontal perpendicular of that vector on its right.
-/

namespace CharacterMotion

namespace TurnModel

/-- Only the passing of time turns. -/
theorem pos_of_share_pos {m : TurnModel} {rate dt : ℝ} (turns : 0 < m.share rate dt) : 0 < dt := by
  by_contra still
  have nothing : max rate 0 * dt ≤ 0 :=
    mul_nonpos_of_nonneg_of_nonpos (le_max_right ..) (not_lt.mp still)
  cases m with
  | exponential =>
      have grows : 1 ≤ Real.exp (-max rate 0 * dt) := by
        rw [Real.one_le_exp_iff, neg_mul]
        exact neg_nonneg.mpr nothing
      simp only [share, Scalar.nonneg_real, Scalar.exp_real] at turns
      linarith
  | linear =>
      simp only [share, Scalar.nonneg_real, Scalar.clampUnit_real] at turns
      rw [max_eq_left ((min_le_left ..).trans nothing)] at turns
      exact lt_irrefl 0 turns

end TurnModel

namespace Vec3

theorem up_cross {v : Vec3 ℝ} (level : v.y = 0) : up.cross v = ⟨v.z, 0, -v.x⟩ := by
  ext <;> simp [cross, up, level]

theorem length_up_cross {v : Vec3 ℝ} (level : v.y = 0) : (up.cross v).length = v.length := by
  rw [up_cross level, length, length, lengthSq_eq, lengthSq_eq, level]
  congr 1
  ring

end Vec3

namespace Heading

structure Oriented (h : Heading ℝ) : Prop where
  level : h.facing.y = 0
  unit : h.facing.length = 1
  right_eq : h.right = Vec3.up.cross h.facing

theorem oriented_initial : (initial : Heading ℝ).Oriented where
  level := rfl
  unit := by
    rw [Vec3.length, Vec3.lengthSq_eq]
    simp [initial, Vec3.forward]
  right_eq := by
    rw [Vec3.up_cross rfl]
    simp [initial, Vec3.forward, Vec3.right]

theorem Oriented.right_unit {h : Heading ℝ} (oriented : h.Oriented) : h.right.length = 1 := by
  rw [oriented.right_eq, Vec3.length_up_cross oriented.level, oriented.unit]

/-- A heading along a vector is known by the direction it faces. -/
theorem Oriented.along_eq {h : Heading ℝ} (oriented : h.Oriented) {v : Vec3 ℝ}
    (same : (along v).facing = h.facing) : along v = h := by
  calc along v = ⟨(along v).facing, (Vec3.up.cross (along v).facing).normalize⟩ := rfl
    _ = ⟨h.facing, (Vec3.up.cross h.facing).normalize⟩ := by rw [same]
    _ = h := by rw [← oriented.right_eq, Vec3.normalize_of_unit oriented.right_unit]

theorem Oriented.z_ne_zero {h : Heading ℝ} (oriented : h.Oriented) (x : h.facing.x = 0) :
    h.facing.z ≠ 0 := by
  intro z
  have none : h.facing = 0 := Vec3.ext x oriented.level z
  have unit := oriented.unit
  rw [none, Vec3.length_zero] at unit
  exact zero_ne_one unit

/-- The heading of a frame that turns: the speed is above the threshold and is not zero, and the
share of the turn is positive. -/
theorem turn_eq {h : Heading ℝ} {velocity : Vec3 ℝ} {dt rate : ℝ} {model : TurnModel}
    {threshold : ℝ} (moves : threshold < velocity.flat.length) (directed : velocity.flat.length ≠ 0)
    (turns : 0 < model.share rate dt) :
    h.turn velocity dt rate model threshold =
      along (h.blend (velocity.flat / velocity.flat.length) (model.share rate dt)) := by
  have passes := TurnModel.pos_of_share_pos turns
  have no_agreement : Scalar.agrees velocity.flat.length 0 = false :=
    eq_false_of_ne_true fun agrees => directed (Scalar.agrees_real_iff.mp agrees)
  simp only [turn, turn?, no_agreement, Bool.or_false, Bool.or_eq_true, decide_eq_true_eq]
  rw [if_neg (not_or.mpr ⟨not_le.mpr moves, not_le.mpr passes⟩), if_neg (not_le.mpr turns)]
  rfl

end Heading

end CharacterMotion
