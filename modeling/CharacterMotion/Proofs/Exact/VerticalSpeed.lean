import CharacterMotion.Proofs.Controller.Components
import CharacterMotion.Proofs.Controller.SingleJump
import CharacterMotion.Proofs.Exact.SpeedBound
import Mathlib.Algebra.BigOperators.Intervals

/-!
The vertical speed of a character over the real numbers, for a body that leaves the velocity to its
controller (`vertical_speed_bounded`).

One frame writes the height of the velocity at most once (`y_perform_of_unowned`): a launch sets it,
contact cuts off what points downward, and the air takes away what gravity asks for. So nothing but
a launch and the ground ever raises it, and neither lifts it above the launch speeds. Between two
frames on the ground the air adds up exactly, and empty frames add nothing to that.
-/

namespace CharacterMotion

theorem Steering.y_fall_real (t : Tuning ℝ) (dt : ℝ) (onGround : Bool) (v : Vec3 ℝ) :
    (fall t dt onGround v).y = if onGround then max v.y 0 else v.y - t.gravity * dt := by
  rw [y_fall]
  split
  · split <;> rename_i downward
    · exact (max_eq_right downward.le).symm
    · exact (max_eq_left (not_lt.mp downward)).symm
  · rfl

theorem Tuning.jumpSpeed_nonneg (t : Tuning ℝ) : 0 ≤ t.jumpSpeed := Real.sqrt_nonneg _

namespace Controller

variable {c : Controller ℝ} {q : Cue ℝ}

/-- The height of the velocity after a frame. -/
theorem y_perform_of_unowned (c : Controller ℝ) (unowned : q.reading.velocity? = none) :
    (c.perform q).controller.velocity.y =
      if 0 < elapsed q.dt then
        if (c.perform q).launches then q.tuning.jumpSpeed
        else if q.reading.onGround then max c.velocity.y 0
        else c.velocity.y - q.tuning.gravity * elapsed q.dt
      else c.velocity.y := by
  have observed : ((c.takeAll q.orders).1.observe q.reading).velocity = c.velocity := by
    rw [velocity_observe unowned, velocity_takeAll]
  rw [controller_perform, y_frame, observed]
  by_cases passes : 0 < elapsed q.dt
  · have fallen : ((c.takeAll q.orders).1.observe q.reading).fallen (elapsed q.dt) q.tuning
          q.reading =
        Steering.fall q.tuning (elapsed q.dt) q.reading.onGround c.velocity := by
      rw [Controller.fallen, if_pos (by rw [unowned]; rfl), observed]
    rw [if_pos passes, if_pos passes, y_lifted, fallen, gateStep_told, Steering.y_fall_real,
      launches_perform, decide_eq_true passes, Bool.true_and]
  · rw [if_neg passes, if_neg passes]

theorem onGround_of_launches (launches : (c.perform q).launches = true) :
    q.reading.onGround = true :=
  JumpGate.onGround_of_launched (launched_of_launches launches).2

/-- What raises the height of the velocity is a launch, or ground under a character that falls. -/
theorem raised_by (unowned : q.reading.velocity? = none) (pulls : 0 ≤ q.tuning.gravity)
    (raised : c.velocity.y < (c.perform q).controller.velocity.y) :
    0 < elapsed q.dt ∧ q.reading.onGround = true ∧
      ((c.perform q).launches = true ∧ (c.perform q).controller.velocity.y = q.tuning.jumpSpeed ∨
        c.velocity.y < 0 ∧ (c.perform q).controller.velocity.y = 0) := by
  have height := c.y_perform_of_unowned unowned
  by_cases passes : 0 < elapsed q.dt
  · rw [if_pos passes] at height
    by_cases launches : (c.perform q).launches = true
    · rw [if_pos launches] at height
      exact ⟨passes, onGround_of_launches launches, .inl ⟨launches, height⟩⟩
    · rw [if_neg launches] at height
      by_cases grounded : q.reading.onGround = true
      · rw [if_pos grounded] at height
        have downward : c.velocity.y < 0 := by
          rw [height, lt_max_iff] at raised
          exact raised.resolve_left (lt_irrefl _)
        rw [max_eq_right downward.le] at height
        exact ⟨passes, grounded, .inr ⟨downward, height⟩⟩
      · rw [if_neg grounded] at height
        have lost : 0 ≤ q.tuning.gravity * elapsed q.dt := mul_nonneg pulls passes.le
        linarith
  · rw [if_neg passes] at height
    exact absurd height raised.ne'

/-- A frame lifts the height of the velocity above nothing but what it was and the launch speed. -/
theorem y_perform_le (unowned : q.reading.velocity? = none) (pulls : 0 ≤ q.tuning.gravity) :
    (c.perform q).controller.velocity.y ≤ max c.velocity.y q.tuning.jumpSpeed := by
  rcases le_or_gt (c.perform q).controller.velocity.y c.velocity.y with kept | raised
  · exact le_max_of_le_left kept
  · refine le_max_of_le_right ?_
    obtain ⟨-, -, ⟨-, height⟩ | ⟨-, height⟩⟩ := raised_by unowned pulls raised
    · exact height.le
    · exact height.trans_le q.tuning.jumpSpeed_nonneg

/-- On the ground nothing moves downward. -/
theorem y_perform_nonneg (unowned : q.reading.velocity? = none) (passes : 0 < elapsed q.dt)
    (grounded : q.reading.onGround = true) : 0 ≤ (c.perform q).controller.velocity.y := by
  rw [c.y_perform_of_unowned unowned, if_pos passes, if_pos grounded]
  split
  · exact q.tuning.jumpSpeed_nonneg
  · exact le_max_right ..

/-- The height that a frame takes away in the air. -/
theorem y_perform_of_airborne (unowned : q.reading.velocity? = none)
    (airborne : 0 < elapsed q.dt → q.reading.onGround = false) :
    (c.perform q).controller.velocity.y = c.velocity.y - q.tuning.gravity * elapsed q.dt := by
  rw [c.y_perform_of_unowned unowned]
  split <;> rename_i passes
  · have waits : ¬ (c.perform q).launches = true := by
      intro launches
      have grounded := onGround_of_launches launches
      rw [airborne passes] at grounded
      cases grounded
    rw [if_neg waits, if_neg (by rw [airborne passes]; exact Bool.false_ne_true)]
  · have none : elapsed q.dt = 0 := le_antisymm (not_lt.mp passes) (elapsed_nonneg q.dt)
    rw [none, mul_zero, sub_zero]

/-! ### Runs -/

variable {cues : Nat → Cue ℝ} (unowned : ∀ n, (cues n).reading.velocity? = none)

include unowned

theorem y_before_le (pulls : ∀ n, 0 ≤ (cues n).tuning.gravity) {top : ℝ} {n : Nat}
    (reaches : ∀ k < n, (cues k).tuning.jumpSpeed ≤ top) :
    (c.before cues n).velocity.y ≤ max c.velocity.y top := by
  refine stateAt_keeps (fun c' : Controller ℝ => c'.velocity.y ≤ max c.velocity.y top) n.zero_le
    (le_max_left ..) ?_
  intro k _ lt held
  exact (y_perform_le (unowned k) (pulls k)).trans
    (max_le held (le_max_of_le_right (reaches k lt)))

/-- Without contact the heights that the frames take away add up. -/
theorem y_before_of_airborne {m n : Nat} (le : m ≤ n)
    (airborne : ∀ k, m ≤ k → k < n → 0 < elapsed (cues k).dt → (cues k).reading.onGround = false) :
    (c.before cues n).velocity.y = (c.before cues m).velocity.y -
      ∑ k ∈ Finset.Ico m n, (cues k).tuning.gravity * elapsed (cues k).dt := by
  induction n, le using Nat.le_induction with
  | base => rw [Finset.Ico_self, Finset.sum_empty, sub_zero]
  | succ n le ih =>
      have earlier := ih fun k from_m lt => airborne k from_m (Nat.lt_succ_of_lt lt)
      have last : (c.before cues (n + 1)).velocity.y =
          (c.before cues n).velocity.y - (cues n).tuning.gravity * elapsed (cues n).dt :=
        y_perform_of_airborne (unowned n) (airborne n le (Nat.lt_succ_self n))
      rw [last, earlier, Finset.sum_Ico_succ_top le, sub_sub]

end Controller

/-- In a run with gravity that does not push upward, over a body without a velocity of its own: the
vertical speed never exceeds the greater of the first one and the launch speeds so far; after a
frame on the ground in which time passes it is not negative; over a stretch in which time passes
without contact only, it loses gravity times that time; and what raises it is a launch, or the
ground that ends a fall. -/
theorem vertical_speed_bounded (c : Controller ℝ) (cues : Nat → Cue ℝ)
    (unowned : ∀ n, (cues n).reading.velocity? = none)
    (pulls : ∀ n, 0 ≤ (cues n).tuning.gravity) (n : Nat) :
    let height := fun k => (c.before cues k).velocity.y
    (∀ top, (∀ k < n, (cues k).tuning.jumpSpeed ≤ top) → height n ≤ max c.velocity.y top) ∧
    (0 < elapsed (cues n).dt → (cues n).reading.onGround = true → 0 ≤ height (n + 1)) ∧
    (∀ m ≤ n, (∀ k, m ≤ k → k < n → 0 < elapsed (cues k).dt → (cues k).reading.onGround = false) →
      height n = height m -
        ∑ k ∈ Finset.Ico m n, (cues k).tuning.gravity * elapsed (cues k).dt) ∧
    (height n < height (n + 1) → 0 < elapsed (cues n).dt ∧ (cues n).reading.onGround = true ∧
      ((c.frameAt cues n).launches = true ∧ height (n + 1) = (cues n).tuning.jumpSpeed ∨
        height n < 0 ∧ height (n + 1) = 0)) := by
  intro height
  refine ⟨fun top reaches => ?_, fun passes grounded => ?_, fun m le airborne => ?_,
    fun raised => ?_⟩
  · exact Controller.y_before_le unowned pulls reaches
  · exact Controller.y_perform_nonneg (unowned n) passes grounded
  · exact Controller.y_before_of_airborne unowned le airborne
  · exact Controller.raised_by (unowned n) (pulls n) raised

/-- A fall that the ground ends, a jump, and a flight with an empty frame on the ground in it. -/
noncomputable def vault (n : Nat) : Cue ℝ :=
  ⟨[.jump], if n = 3 then -1 else 0.25, .standard, ⟨n = 1 ∨ n = 3, none⟩⟩

theorem vertical_speed_bounded_vault :
    let c : Controller ℝ := .fresh
    let height := fun k => (c.before vault k).velocity.y
    height 5 ≤ max 0 (Tuning.standard : Tuning ℝ).jumpSpeed ∧ 0 ≤ height 2 ∧
      height 5 = height 2 -
        ∑ k ∈ Finset.Ico 2 5, (vault k).tuning.gravity * elapsed (vault k).dt := by
  intro c height
  have pulls (n : Nat) : 0 ≤ (vault n).tuning.gravity := by
    norm_num [vault, Tuning.standard]
  have bounded := vertical_speed_bounded c vault (fun _ => rfl) pulls
  have passes : 0 < elapsed (vault 1).dt := by
    norm_num [vault, elapsed, isTimestep_real_iff]
  have airborne (k : Nat) (from_two : 2 ≤ k) (_ : k < 5) (passes : 0 < elapsed (vault k).dt) :
      (vault k).reading.onGround = false := by
    have not_three : k ≠ 3 := by
      rintro rfl
      norm_num [vault, elapsed, isTimestep_real_iff] at passes
    have not_one : k ≠ 1 := by omega
    simp [vault, not_one, not_three]
  exact ⟨(bounded 5).1 _ fun _ _ => le_rfl, (bounded 1).2.1 passes (by simp [vault]),
    (bounded 5).2.2.1 2 (by decide) airborne⟩

end CharacterMotion
