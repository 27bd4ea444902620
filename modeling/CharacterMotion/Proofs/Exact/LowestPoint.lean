import CharacterMotion.Binary32.Scalar
import CharacterMotion.Physics.Scene
import CharacterMotion.Proofs.Exact.Solid

/-!
Where the ray of a probe ends, over the real numbers: how far below the lowest point of the
collider.

The offset of the bottom is half of the vertical extent. That is the distance to the lowest point
from the middle of the shape, and the ray starts at the origin of the shape; so the ray is off by
the height of the middle above the origin (`isLeast_heights`). Balls and boxes have their middle at
the origin. A capsule has it there if its ends are equally far above and below, and otherwise the
ray ends too low or too high (`ray_past_lowest`): a capsule whose origin is at its feet, where its
lowest point is, counts as reaching as far below the feet as its middle is above them
(`reach_below_the_feet`).
-/

namespace CharacterMotion.Physics

namespace Shape

/-- The heights at which a shape has points. -/
def heights (s : Shape ℝ) : Set ℝ := {y | ∃ p : Vec3 ℝ, s.contains p = true ∧ p.y = y}

/-- Shapes whose bottom is looked for, with sizes that are not negative. -/
def Measured : Shape ℝ → Prop
  | .ball radius | .capsule _ _ radius => 0 ≤ radius
  | .box half => 0 ≤ half.x ∧ 0 ≤ half.y ∧ 0 ≤ half.z
  | _ => False

/-- The height of the middle of such a shape above its origin. -/
noncomputable def middle : Shape ℝ → ℝ
  | .capsule a b _ => (a.y + b.y) / 2.0
  | _ => 0

theorem isLeast_heights_ball {radius : ℝ} (nonneg : 0 ≤ radius) :
    IsLeast (ball radius).heights (-radius) := by
  constructor
  · refine ⟨⟨0, -radius, 0⟩, contains_ball_iff.mpr ?_, rfl⟩
    rw [Vec3.lengthSq_eq]
    linarith
  · rintro _ ⟨p, inside, rfl⟩
    refine neg_le_of_abs_le (abs_le_of_sq_le_sq ?_ nonneg)
    exact (p.sq_y_le_lengthSq.trans (contains_ball_iff.mp inside)).trans_eq (sq radius).symm

theorem isLeast_heights_box {half : Vec3 ℝ} (x : 0 ≤ half.x) (y : 0 ≤ half.y) (z : 0 ≤ half.z) :
    IsLeast (box half).heights (-half.y) := by
  constructor
  · refine ⟨⟨0, -half.y, 0⟩, contains_box_iff.mpr ⟨?_, ?_, ?_⟩, rfl⟩ <;> constructor <;>
      dsimp only <;> linarith
  · rintro _ ⟨p, inside, rfl⟩
    exact (contains_box_iff.mp inside).2.1.1

/-- The point straight below an end of the segment, at the distance of the radius. -/
theorem contains_below_end {a b : Vec3 ℝ} {radius : ℝ} (nonneg : 0 ≤ radius) {t : ℝ}
    (t_nonneg : 0 ≤ t) (le_one : t ≤ 1) :
    (capsule a b radius).contains (a.lerp b t - ⟨0, radius, 0⟩) = true := by
  refine (contains_capsule_iff nonneg).mpr ⟨t, t_nonneg, le_one, (Vec3.length_of_sq nonneg ?_).le⟩
  simp only [Vec3.sub_x, Vec3.sub_y, Vec3.sub_z]
  ring

theorem isLeast_heights_capsule {a b : Vec3 ℝ} {radius : ℝ} (nonneg : 0 ≤ radius) :
    IsLeast (capsule a b radius).heights (min a.y b.y - radius) := by
  constructor
  · rcases le_total a.y b.y with first | second
    · refine ⟨_, contains_below_end nonneg le_rfl zero_le_one, ?_⟩
      simp [Vec3.lerp, min_eq_left first]
    · refine ⟨_, contains_below_end nonneg zero_le_one le_rfl, ?_⟩
      simp [Vec3.lerp, min_eq_right second]
  · rintro _ ⟨p, inside, rfl⟩
    obtain ⟨t, t_nonneg, le_one, near⟩ := (contains_capsule_iff nonneg).mp inside
    have between : min a.y b.y ≤ (a.lerp b t).y := by
      have rest : 0 ≤ 1 - t := sub_nonneg.mpr le_one
      calc min a.y b.y = min a.y b.y * (1 - t) + min a.y b.y * t := by ring
        _ ≤ a.y * (1 - t) + b.y * t := by
            gcongr
            · exact min_le_left ..
            · exact min_le_right ..
        _ = (a.lerp b t).y := rfl
    have apart : |(p - a.lerp b t).y| ≤ radius := by
      refine abs_le_of_sq_le_sq ?_ nonneg
      exact ((p - a.lerp b t).sq_y_le_lengthSq.trans ((Vec3.length_le_iff nonneg).mp near)).trans_eq
        (sq radius).symm
    have below := neg_le_of_abs_le apart
    rw [Vec3.sub_y] at below
    linarith

theorem bottomOffset_capsule (a b : Vec3 ℝ) (radius : ℝ) :
    (capsule a b radius).bottomOffset = |a.y - b.y| / 2 + radius := by
  have two : (2.0 : ℝ) = 2 := by norm_num
  rw [← two]
  rfl

theorem middle_capsule (a b : Vec3 ℝ) (radius : ℝ) :
    (capsule a b radius).middle = (a.y + b.y) / 2 := by
  have two : (2.0 : ℝ) = 2 := by norm_num
  rw [← two]
  rfl

/-- The offset of the bottom is the distance from the middle to the lowest point. -/
theorem isLeast_heights {s : Shape ℝ} (measured : s.Measured) :
    IsLeast s.heights (s.middle - s.bottomOffset) := by
  cases s with
  | ball radius =>
      change IsLeast _ (0 - radius)
      rw [zero_sub]
      exact isLeast_heights_ball measured
  | box half =>
      obtain ⟨x, y, z⟩ := measured
      change IsLeast _ (0 - half.y)
      rw [zero_sub]
      exact isLeast_heights_box x y z
  | capsule a b radius =>
      have lower : (a.y + b.y) / 2 - (|a.y - b.y| / 2 + radius) = min a.y b.y - radius := by
        rcases le_total a.y b.y with first | second
        · rw [min_eq_left first, abs_of_nonpos (sub_nonpos.mpr first)]
          ring
        · rw [min_eq_right second, abs_of_nonneg (sub_nonneg.mpr second)]
          ring
      rw [middle_capsule, bottomOffset_capsule, lower]
      exact isLeast_heights_capsule measured
  | _ => exact measured.elim

end Shape

theorem Probe.reach_real (probe : Probe ℝ) (shape? : Option (Shape ℝ)) :
    probe.reach shape? = shape?.elim 0 Shape.bottomOffset + max probe.tolerance 0 := by
  rw [reach, Scalar.nonneg_real]

/-- The ray from the origin of a capsule, ball or box ends the tolerance below the lowest point of
the collider, and farther below it by as much as the middle of the shape is above its origin; so it
ends where it should for all tolerances exactly if the middle is at the height of the origin, as it
always is in balls and boxes, and in capsules whose ends are equally far above and below it. -/
theorem ray_past_lowest {s : Shape ℝ} (measured : s.Measured) :
    ∃ lowest, IsLeast s.heights lowest ∧ s.bottomOffset = s.middle - lowest ∧
      (∀ (origin : Vec3 ℝ) (probe : Probe ℝ),
        origin.y - probe.reach (some s) =
          origin.y + lowest - max probe.tolerance 0 - s.middle) ∧
      ((∀ (origin : Vec3 ℝ) (probe : Probe ℝ),
        origin.y - probe.reach (some s) = origin.y + lowest - max probe.tolerance 0) ↔
          s.bottomOffset = -lowest) ∧
      (s.bottomOffset = -lowest ↔ ∀ a b radius, s = .capsule a b radius → a.y = -b.y) := by
  obtain ⟨lowest, least⟩ : ∃ lowest, lowest = s.middle - s.bottomOffset := ⟨_, rfl⟩
  have offset : s.bottomOffset = s.middle - lowest := by linarith
  refine ⟨lowest, least ▸ Shape.isLeast_heights measured, offset, ?_, ?_, ?_⟩
  · intro origin probe
    rw [Probe.reach_real, Option.elim_some, offset]
    ring
  · constructor
    · intro ends
      have := ends 0 (.new 0)
      rw [Probe.reach_real, Option.elim_some] at this
      linarith
    · intro exact_offset origin probe
      rw [Probe.reach_real, Option.elim_some, exact_offset]
      ring
  · have centred : s.bottomOffset = -lowest ↔ s.middle = 0 := by
      rw [offset]
      constructor <;> intro h <;> linarith
    rw [centred]
    cases s with
    | capsule a b radius =>
        constructor
        · rintro middle _ _ _ ⟨⟩
          rw [Shape.middle_capsule] at middle
          linarith
        · intro balanced
          rw [Shape.middle_capsule, balanced a b radius rfl]
          ring
    | _ => exact iff_of_true rfl (by rintro _ _ _ ⟨⟩)

/-- A slanted capsule whose ends are equally far above and below its origin. -/
theorem ray_past_lowest_slanted :
    let s : Shape ℝ := .capsule ⟨-1, 2, 0⟩ ⟨1, -2, 0.5⟩ 0.25
    s.Measured ∧ ∃ lowest, IsLeast s.heights lowest ∧ s.bottomOffset = -lowest ∧
      (⟨0, 3, 0⟩ : Vec3 ℝ).y - (Probe.new 0.1).reach (some s) = 3 + lowest - max 0.1 0 := by
  intro s
  have measured : s.Measured := by
    change (0 : ℝ) ≤ 0.25
    norm_num
  obtain ⟨lowest, least, -, -, ends, balanced⟩ := ray_past_lowest measured
  have offset : s.bottomOffset = -lowest := by
    refine balanced.mpr fun a b radius same => ?_
    obtain ⟨rfl, rfl, -⟩ := Shape.capsule.inj same
    norm_num
  exact ⟨measured, lowest, least, offset, ends.mpr offset _ _⟩

/-- A capsule that stands on its origin, in single precision as well. Its bottom is looked for one
unit below its lowest point. -/
theorem reach_below_the_feet :
    let s : Shape ℝ := .capsule ⟨0, 0.5, 0⟩ ⟨0, 1.5, 0⟩ 0.5
    s.Measured ∧ IsLeast s.heights 0 ∧ s.bottomOffset = 1 ∧
      ¬ IsLeast s.heights (-s.bottomOffset) ∧
      (Shape.capsule ⟨0, 0.5, 0⟩ ⟨0, 1.5, 0⟩ 0.5 : Shape Float32).bottomOffset = 1 := by
  intro s
  have measured : s.Measured := by
    change (0 : ℝ) ≤ 0.5
    norm_num
  have offset : s.bottomOffset = 1 := by
    rw [Shape.bottomOffset_capsule]
    norm_num
  have least : IsLeast s.heights 0 := by
    have lower : min (0.5 : ℝ) 1.5 - 0.5 = 0 := by norm_num
    rw [← lower]
    exact Shape.isLeast_heights_capsule measured
  refine ⟨measured, least, offset, ?_, by decide +kernel⟩
  intro bottom
  have same := bottom.unique least
  rw [offset] at same
  norm_num at same

end CharacterMotion.Physics
