import CharacterMotion.Proofs.Controller.Run
import CharacterMotion.Proofs.Exact.Steering
import Mathlib.Data.Finset.Fold

/-!
No overshoot, over the real numbers and for a body that leaves the velocity to its controller. The
speed after any number of frames is at most the greatest of the speed at the start and of the
target speeds of the frames so far (`run_speed_le`).

A frame with input takes the horizontal velocity some way along the segment to the wanted velocity,
and one without input some way along the segment to rest. Both ends of a segment lie within the
bound, and so does what is between them. Lengths of frames, contact, jumps, changes of gait and
even changes of tuning may be mixed at will.
-/

namespace CharacterMotion

/-- What steering asks of a tuning. -/
structure Tuning.Nonnegative (t : Tuning ℝ) : Prop where
  acceleration : 0 ≤ t.acceleration
  airControl : 0 ≤ t.airControl
  deceleration : 0 ≤ t.deceleration
  groundFriction : 0 ≤ t.groundFriction
  airResistance : 0 ≤ t.airResistance
  targetSpeed : ∀ g, 0 ≤ t.targetSpeed g

theorem Tuning.Nonnegative.accelerationOn {t : Tuning ℝ} (tuned : t.Nonnegative)
    (onGround : Bool) : 0 ≤ t.accelerationOn onGround := by
  unfold Tuning.accelerationOn
  split
  · exact tuned.acceleration
  · exact mul_nonneg tuned.acceleration tuned.airControl

theorem elapsed_nonneg (dt : ℝ) : 0 ≤ elapsed dt := by
  unfold elapsed
  split <;> rename_i right
  · exact isTimestep_real_iff.mp right
  · exact le_rfl

namespace Controller

variable {c : Controller ℝ} {dt : ℝ} {t : Tuning ℝ} {r : Reading ℝ}

/-- A frame with input goes along the segment from the old horizontal velocity to the target. -/
theorem flat_frame_of_input (tuned : t.Nonnegative) (unowned : r.velocity? = none)
    (nonneg : 0 ≤ dt) {direction target difference : Vec3 ℝ}
    (wanted : input? t c.direction = some direction)
    (aims : target = direction.normalize * t.targetSpeed c.gait)
    (gap : difference = target - c.velocity.flat) :
    ∃ s, 0 ≤ s ∧ s ≤ 1 ∧
      (c.frame dt t r).controller.velocity.flat = c.velocity.flat.lerp target s ∧
      s * difference.length = min (min difference.length (t.accelerationOn r.onGround * dt))
        (difference.length * (t.accelerationOn r.onGround * dt)) := by
  obtain ⟨flattened, long, -⟩ := input?_eq_some wanted
  have level : direction.y = 0 := by rw [flattened, Vec3.flat_y]
  rw [← flattened] at long
  have start : (c.lifted dt t r).flat = c.velocity.flat := by
    rw [flat_lifted, velocity_observe unowned]
  rw [velocity_frame]
  split <;> rename_i passes
  · rw [← start] at gap ⊢
    rw [wanted]
    exact Steering.flat_pursue (tuned.accelerationOn r.onGround) nonneg long level aims gap
  · have none : dt = 0 := le_antisymm (not_lt.mp passes) nonneg
    refine ⟨0, le_rfl, zero_le_one, ?_, ?_⟩
    · rw [velocity_observe unowned]
      ext <;> simp [Vec3.lerp]
    · simp [none, Vec3.length_nonneg]

/-- A frame without input keeps a fraction of the horizontal velocity. -/
theorem flat_frame_of_no_input (tuned : t.Nonnegative) (unowned : r.velocity? = none)
    (nonneg : 0 ≤ dt) (idle : input? t c.direction = none) :
    ∃ s : ℝ, 0 ≤ s ∧ s ≤ 1 ∧ (c.frame dt t r).controller.velocity.flat = c.velocity.flat * s := by
  have start : (c.lifted dt t r).flat = c.velocity.flat := by
    rw [flat_lifted, velocity_observe unowned]
  rw [velocity_frame]
  split
  · rw [idle]
    have drag_nonneg := Steering.drag_nonneg nonneg tuned.deceleration tuned.groundFriction
      tuned.airResistance r.onGround (c.lifted dt t r).flat.length
    obtain ⟨s, s_nonneg, le_one, keeps, -⟩ := Steering.flat_brake rfl drag_nonneg
    rw [start] at keeps
    exact ⟨s, s_nonneg, le_one, keeps⟩
  · refine ⟨1, zero_le_one, le_rfl, ?_⟩
    rw [velocity_observe unowned, Vec3.mul_one]

/-- The speed after a frame is at most the greater of the speed before it and the target. -/
theorem speed_frame_le (tuned : t.Nonnegative) (unowned : r.velocity? = none) (nonneg : 0 ≤ dt) :
    (c.frame dt t r).controller.speed ≤ max c.speed (c.targetSpeed t) := by
  cases wanted : input? t c.direction with
  | some direction =>
      obtain ⟨s, s_nonneg, le_one, moves, -⟩ :=
        flat_frame_of_input tuned unowned nonneg wanted rfl rfl
      have long : 0 < direction.length := by
        obtain ⟨rfl, long, -⟩ := input?_eq_some wanted
        exact long
      have target_length : (direction.normalize * t.targetSpeed c.gait).length = c.targetSpeed t := by
        rw [Vec3.length_mul, Vec3.length_normalize long, one_mul,
          abs_of_nonneg (tuned.targetSpeed c.gait)]
        rfl
      unfold speed
      rw [moves, ← target_length]
      exact Vec3.length_lerp_le _ _ s_nonneg le_one
  | none =>
      obtain ⟨s, s_nonneg, le_one, keeps⟩ := flat_frame_of_no_input tuned unowned nonneg wanted
      unfold speed
      rw [keeps, Vec3.length_mul, abs_of_nonneg s_nonneg]
      exact le_max_of_le_left (mul_le_of_le_one_right (Vec3.length_nonneg _) le_one)

theorem speed_perform_le (c : Controller ℝ) {q : Cue ℝ} (tuned : q.tuning.Nonnegative)
    (unowned : q.reading.velocity? = none) :
    (c.perform q).controller.speed ≤
      max c.speed ((c.takeAll q.orders).1.targetSpeed q.tuning) := by
  have start : (c.takeAll q.orders).1.speed = c.speed := by
    unfold speed
    rw [velocity_takeAll]
  rw [controller_perform, ← start]
  exact speed_frame_le tuned unowned (elapsed_nonneg q.dt)

variable {cues : Nat → Cue ℝ}

/-- A bound on the first speed and on the targets so far is a bound on the speed. -/
theorem speed_before_le (tuned : ∀ n, (cues n).tuning.Nonnegative)
    (unowned : ∀ n, (cues n).reading.velocity? = none) {bound : ℝ} {n : Nat}
    (start : c.speed ≤ bound)
    (targets : ∀ k < n, (c.toldAt cues k).targetSpeed (cues k).tuning ≤ bound) :
    (c.before cues n).speed ≤ bound := by
  refine stateAt_keeps (fun c : Controller ℝ => c.speed ≤ bound) n.zero_le start ?_
  intro k _ lt held
  exact (speed_perform_le _ (tuned k) (unowned k)).trans (max_le held (targets k lt))

end Controller

/-- In a run with tunings that are not negative, over a body without a velocity of its own: the
speed never exceeds the greatest of the first speed and the target speeds so far; a frame with
input goes along the segment to its target, no farther than the target is and no farther than the
acceleration allows; and within the disc of one target speed the velocity stays. -/
theorem run_speed_le (c : Controller ℝ) (cues : Nat → Cue ℝ)
    (tuned : ∀ n, (cues n).tuning.Nonnegative) (unowned : ∀ n, (cues n).reading.velocity? = none)
    (n : Nat) :
    (c.before cues n).speed ≤
      (Finset.range n).fold max c.speed (fun k => (c.toldAt cues k).targetSpeed (cues k).tuning) ∧
    (∀ direction, Controller.input? (cues n).tuning (c.toldAt cues n).direction = some direction →
      let old := (c.before cues n).velocity.flat
      let new := (c.frameAt cues n).controller.velocity.flat
      let target := direction.normalize * (c.toldAt cues n).targetSpeed (cues n).tuning
      let allowed := (cues n).tuning.accelerationOn (cues n).reading.onGround * elapsed (cues n).dt
      (∃ s : ℝ, 0 ≤ s ∧ s ≤ 1 ∧ new = old.lerp target s) ∧
        (new - old).length ≤ min (target - old).length allowed) ∧
    ∀ t g, (∀ k < n, (cues k).tuning = t ∧ (c.toldAt cues k).gait = g) →
      c.speed ≤ t.targetSpeed g → (c.before cues n).speed ≤ t.targetSpeed g := by
  refine ⟨?_, fun direction wanted => ?_, fun t g kept start => ?_⟩
  · refine Controller.speed_before_le tuned unowned ?_ ?_
    · exact (Finset.le_fold_max _).mpr (.inl le_rfl)
    · intro k lt
      exact (Finset.le_fold_max _).mpr (.inr ⟨k, Finset.mem_range.mpr lt, le_rfl⟩)
  · intro old new target allowed
    have start : (c.toldAt cues n).velocity.flat = old :=
      congrArg Vec3.flat (Controller.velocity_takeAll ..)
    have finish : new = ((c.toldAt cues n).frame (elapsed (cues n).dt) (cues n).tuning
        (cues n).reading).controller.velocity.flat := by
      unfold new Controller.frameAt
      rw [Controller.controller_perform]
      rfl
    obtain ⟨s, nonneg, le_one, moves, length⟩ := Controller.flat_frame_of_input (tuned n)
      (unowned n) (elapsed_nonneg (cues n).dt) wanted (rfl : target = _) rfl
    rw [← finish, start] at moves
    rw [start] at length
    refine ⟨⟨s, nonneg, le_one, moves⟩, ?_⟩
    rw [moves, Vec3.lerp_sub, Vec3.length_mul, abs_of_nonneg nonneg, mul_comm, length]
    exact min_le_left ..
  · refine Controller.speed_before_le tuned unowned start fun k lt => ?_
    obtain ⟨tuning, gait⟩ := kept k lt
    rw [tuning, Controller.targetSpeed, gait]

theorem Tuning.nonnegative_standard : (Tuning.standard : Tuning ℝ).Nonnegative where
  acceleration := by norm_num [standard]
  airControl := by norm_num [standard]
  deceleration := by norm_num [standard]
  groundFriction := by norm_num [standard]
  airResistance := by norm_num [standard]
  targetSpeed g := by cases g <;> norm_num [standard, Tuning.targetSpeed, Speeds.of, Speeds.standard]

theorem input?_forward : Controller.input? (.standard : Tuning ℝ) .forward = some .forward := by
  have length : (Vec3.forward : Vec3 ℝ).flat.length = 1 := Vec3.length_forward
  unfold Controller.input?
  dsimp only
  rw [length, if_pos (by norm_num [Tuning.standard])]
  rfl

/-- A run forward, off the ground in a frame of a wrong length, then with ground again. -/
noncomputable def dash (n : Nat) : Cue ℝ :=
  ⟨[.direction .forward], if n = 1 then -1 else 0.25, .standard, ⟨n != 1, none⟩⟩

theorem run_speed_le_dash :
    let c : Controller ℝ := .fresh
    let old := (c.before dash 2).velocity.flat
    let new := (c.frameAt dash 2).controller.velocity.flat
    let target := (Vec3.forward : Vec3 ℝ).normalize * (c.toldAt dash 2).targetSpeed (dash 2).tuning
    (c.before dash 3).speed ≤ (Finset.range 3).fold max c.speed
      (fun k => (c.toldAt dash k).targetSpeed (dash k).tuning) ∧
    ((∃ s : ℝ, 0 ≤ s ∧ s ≤ 1 ∧ new = old.lerp target s) ∧
      (new - old).length ≤ min (target - old).length
        ((dash 2).tuning.accelerationOn (dash 2).reading.onGround * elapsed (dash 2).dt)) ∧
    (c.before dash 3).speed ≤ (Tuning.standard : Tuning ℝ).targetSpeed .run := by
  intro c
  have bounds := run_speed_le c dash (fun _ => Tuning.nonnegative_standard) (fun _ => rfl)
  have runs (n : Nat) : (c.before dash n).gait = .run := by
    refine stateAt_keeps (fun c : Controller ℝ => c.gait = .run) n.zero_le rfl ?_
    intro k _ _ held
    exact (Controller.gait_perform ..).trans held
  have rests : c.speed ≤ (Tuning.standard : Tuning ℝ).targetSpeed .run :=
    Vec3.length_zero.trans_le (Tuning.nonnegative_standard.targetSpeed .run)
  exact ⟨(bounds 3).1, (bounds 2).2.1 .forward input?_forward,
    (bounds 3).2.2 .standard .run (fun k _ => ⟨rfl, runs k⟩) rests⟩

end CharacterMotion
