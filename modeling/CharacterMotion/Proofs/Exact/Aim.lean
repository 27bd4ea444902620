import CharacterMotion.Proofs.Controller.Commit
import CharacterMotion.Proofs.Controller.EmptyFrames
import CharacterMotion.Proofs.Exact.Steering

/-!
What a frame takes from the direction that is wanted of it. It asks whether the direction counts as
input, and if it does, which way its horizontal part points (`aim?`). Steering and the assisting
force each bring that part to length one for themselves, a start is told of if there is an aim at
all, and then the direction is forgotten; so directions with the same aim make the same frame
(`advance_wanting`).

Over the real numbers all that is left of an input is therefore the way it points, whatever its
length and its height, and of anything else nothing at all (`aim_decides`). Rounding may tell two
lengths of the same direction apart, but it never gives an aim to what does not count as input.
-/

namespace CharacterMotion

variable {α : Type}

namespace Controller

/-- The same controller with another direction wanted of the next frame. -/
def wanting (c : Controller α) (direction : Vec3 α) : Controller α := { c with direction }

@[simp] theorem direction_wanting (c : Controller α) (direction : Vec3 α) :
    (c.wanting direction).direction = direction := rfl

variable [Scalar α]

/-- The way that a direction points, if it counts as input. -/
def aim? (t : Tuning α) (direction : Vec3 α) : Option (Vec3 α) :=
  (input? t direction).map Vec3.normalizeOrZero

theorem aim?_eq (t : Tuning α) (direction : Vec3 α) :
    aim? t direction =
      if CountsAsInput t direction then some direction.flat.normalizeOrZero else none := by
  rw [aim?, input?_eq]
  split <;> rfl

/-! ### Directions with the same aim -/

section

variable {input input' : Option (Vec3 α)}
  (same : input'.map Vec3.normalizeOrZero = input.map Vec3.normalizeOrZero)

include same

theorem isSome_eq_of_same_aim : input'.isSome = input.isSome := by
  rw [← Option.isSome_map, same, Option.isSome_map]

theorem steered_of_same_aim (c : Controller α) (dt : α) (t : Tuning α) (onGround : Bool)
    (v : Vec3 α) : c.steered dt t onGround input' v = c.steered dt t onGround input v := by
  cases input with
  | none =>
      obtain rfl : input' = none := Option.map_eq_none_iff.mp same
      rfl
  | some direction =>
      obtain ⟨direction', rfl, aims⟩ := Option.map_eq_some_iff.mp same
      unfold steered Steering.pursue
      dsimp only
      rw [aims]

theorem commands_of_same_aim (c : Controller α) (t : Tuning α) (r : Reading α) (launched : Bool) :
    c.commands t r launched input' = c.commands t r launched input := by
  cases input with
  | none =>
      obtain rfl : input' = none := Option.map_eq_none_iff.mp same
      rfl
  | some direction =>
      obtain ⟨direction', rfl, aims⟩ := Option.map_eq_some_iff.mp same
      simp only [commands_eq, Option.elim_some, aims]

end

section

variable {t : Tuning α} {v w : Vec3 α} (same : aim? t w = aim? t v) (c : Controller α) (dt : α)
  (r : Reading α)

include same

theorem moved_wanting :
    (c.wanting w).moved dt t r =
      (((c.wanting v).moved dt t r).1.wanting w, ((c.wanting v).moved dt t r).2) := by
  by_cases passes : 0 < dt
  · have steered (velocity : Vec3 α) :
        ((c.wanting w).observe r).steered dt t r.onGround (input? t w) velocity =
          ((c.wanting v).observe r).steered dt t r.onGround (input? t v) velocity :=
      steered_of_same_aim same ..
    simp only [moved_of_pos passes, direction_wanting, steered]
    rfl
  · rw [moved, moved, if_neg passes, if_neg passes]
    rfl

theorem frame_wanting : (c.wanting w).frame dt t r = (c.wanting v).frame dt t r := by
  have some_iff : (input? t w).isSome = (input? t v).isSome := isSome_eq_of_same_aim same
  have pushes : (if 0 < dt ∧ r.onGround then input? t w else none).map Vec3.normalizeOrZero =
      (if 0 < dt ∧ r.onGround then input? t v else none).map Vec3.normalizeOrZero := by
    split
    · exact same
    · rfl
  simp only [frame_eq, moved_wanting same, direction_wanting, commands_of_same_aim pushes, some_iff]
  rfl

/-- Directions with the same aim make the same frame. -/
theorem advance_wanting : (c.wanting w).advance dt t r = (c.wanting v).advance dt t r := by
  unfold advance
  rw [frame_wanting same, frame_wanting same]

end

/-- What does not count as input makes the frame of the zero direction, where that has no length. -/
theorem advance_of_no_input (none : ¬ 0 < (0 : Vec3 α).flat.length) {t : Tuning α} {v : Vec3 α}
    (idle : ¬ CountsAsInput t v) (c : Controller α) (dt : α) (r : Reading α) :
    (c.wanting v).advance dt t r = (c.wanting 0).advance dt t r := by
  refine advance_wanting ?_ c dt r
  rw [aim?_eq, aim?_eq, if_neg idle, if_neg fun counts => none counts.1]

/-! ### Directions that point the same way -/

theorem aim?_of_aligned {v w : Vec3 ℝ} {k : ℝ} (pos : 0 < k) (aligned : v.flat = w.flat * k)
    {t : Tuning ℝ} (alike : CountsAsInput t v ↔ CountsAsInput t w) : aim? t v = aim? t w := by
  rw [aim?_eq, aim?_eq, aligned, Vec3.normalizeOrZero_mul_of_pos pos]
  exact if_congr alike rfl rfl

/-- Of the direction that is wanted of it a frame takes the way that it points, and that only if it
counts as input. Two directions whose horizontal parts are positive multiples of each other, and
which both count or both do not, make the same controller, commands and notices. All directions that
do not count make those of the zero direction, for any threshold; the same holds of single precision
numbers. -/
theorem aim_decides :
    (∀ (c : Controller ℝ) (dt : ℝ) (t : Tuning ℝ) (r : Reading ℝ) (v w : Vec3 ℝ) (k : ℝ),
      0 < k → v.flat = w.flat * k → (CountsAsInput t v ↔ CountsAsInput t w) →
      (c.take (.direction v)).1.advance dt t r = (c.take (.direction w)).1.advance dt t r) ∧
    (∀ (c : Controller ℝ) (dt : ℝ) (t : Tuning ℝ) (r : Reading ℝ) (v : Vec3 ℝ),
      ¬ CountsAsInput t v →
      (c.take (.direction v)).1.advance dt t r = (c.take (.direction 0)).1.advance dt t r) ∧
    ∀ (c : Controller Float32) (dt : Float32) (t : Tuning Float32) (r : Reading Float32)
        (v : Vec3 Float32),
      ¬ CountsAsInput t v →
      (c.take (.direction v)).1.advance dt t r = (c.take (.direction 0)).1.advance dt t r := by
  refine ⟨?_, ?_, ?_⟩
  · intro c dt t r v w k pos aligned alike
    exact advance_wanting (aim?_of_aligned pos aligned alike) c dt r
  · intro c dt t r v idle
    have none : (0 : Vec3 ℝ).flat.length = 0 := Vec3.length_zero
    exact advance_of_no_input none.not_gt idle c dt r
  · intro c dt t r v idle
    exact advance_of_no_input (by decide +kernel) idle c dt r

/-- A long direction that points up as well and a short one that points down, alike in the
horizontal; one that is too short; and one that is vertical, with a threshold that anything else
reaches. -/
theorem aim_decides_stick :
    let frame (threshold : ℝ) (v : Vec3 ℝ) : Frame ℝ :=
      ((Controller.fresh : Controller ℝ).take (.direction v)).1.advance 0.25
        { Tuning.standard with inputThreshold := threshold } ⟨true, none⟩
    let vertical : Vec3 Float32 := ⟨0, 9, 0⟩
    frame 0.5 ⟨3, 5, 4⟩ = frame 0.5 ⟨0.3, -2, 0.4⟩ ∧ frame 0.5 ⟨0.03, 9, 0.04⟩ = frame 0.5 0 ∧
      frame (-1) ⟨0, 9, 0⟩ = frame (-1) 0 ∧
      ((Controller.fresh : Controller Float32).take (.direction vertical)).1.advance 0.25
          { Tuning.standard with inputThreshold := -1 } ⟨true, none⟩ =
        ((Controller.fresh : Controller Float32).take (.direction 0)).1.advance 0.25
          { Tuning.standard with inputThreshold := -1 } ⟨true, none⟩ := by
  intro frame vertical
  have long : (⟨3, 5, 4⟩ : Vec3 ℝ).flat.length = 5 :=
    Vec3.length_of_sq (by norm_num) (by norm_num)
  have enough : (⟨0.3, -2, 0.4⟩ : Vec3 ℝ).flat.length = 0.5 :=
    Vec3.length_of_sq (by norm_num) (by norm_num)
  have short : (⟨0.03, 9, 0.04⟩ : Vec3 ℝ).flat.length = 0.05 :=
    Vec3.length_of_sq (by norm_num) (by norm_num)
  have upright : (⟨0, 9, 0⟩ : Vec3 ℝ).flat.length = 0 := Vec3.length_zero
  obtain ⟨same_way, no_input, no_input_single⟩ := aim_decides
  refine ⟨same_way _ _ _ _ _ _ 10 (by norm_num) ?_ ?_, no_input _ _ _ _ _ ?_,
    no_input _ _ _ _ _ ?_, no_input_single _ _ _ _ _ (by decide +kernel)⟩
  · ext <;> norm_num
  · rw [CountsAsInput, CountsAsInput, long, enough]
    norm_num
  · rw [CountsAsInput, short]
    norm_num
  · rw [CountsAsInput, upright]
    norm_num

end Controller

end CharacterMotion
