import CharacterMotion.Controller.Steering
import CharacterMotion.Proofs.Binary32.Length

/-!
Steering in single precision keeps the horizontal velocity finite, and within sixteen times the
range of the target speeds (`Within.pursue`, `Within.brake`).

What a frame does to a component of the velocity is a step toward a target component: of the wanted
direction when pursuing, of rest when braking. The step may pass its target, since it is rounded
many times, but not by more than a fifth of the way (`Toward`); so it does not leave a range that is
wide enough for that (`Toward.keeps`).

A pursuing step is the difference to the target times two factors, and it is cut to the length of
that difference where it is longer. The length of what is cut may be infinite although its
components are finite; the step is then zero, and harmless. A component that is infinite would be
cut to NaN, and the bounds on the factors are there to keep every component finite (`Drives`).
-/

namespace CharacterMotion.Binary32

variable {s : Nat}

/-! ### Steps toward a target -/

/-- A change of a component goes toward its target, and not much farther. -/
structure Toward (gap change : ℝ) : Prop where
  nonneg : 0 ≤ gap → 0 ≤ change
  nonpos : gap ≤ 0 → change ≤ 0
  le : |change| ≤ 6 / 5 * |gap| + 1 / 2

/-- A component within twice the range of its targets stays there. The way to the target need not be
exact. -/
theorem Toward.keeps {target v gap δ : ℝ} (near : Near gap (target - v)) (toward : Toward gap δ)
    (aims : |target| ≤ 2 ^ (s + 3)) (within : |v| ≤ 2 ^ (s + 4)) :
    δ = 0 ∨ |v + δ| < 2 ^ (s + 4) := by
  have power : (1 : ℝ) ≤ 2 ^ s := one_le_pow₀ one_le_two
  have bound := toward.le
  have gap_le := near.abs_le
  rw [pow_add] at aims within ⊢
  obtain ⟨low, high⟩ := abs_le.mp aims
  obtain ⟨low_v, high_v⟩ := abs_le.mp within
  by_cases none : δ = 0
  · exact .inl none
  · right
    rw [abs_lt]
    rcases le_total 0 (target - v) with ahead | behind
    · have onward := (toward.nonneg (near.nonneg ahead)).lt_of_ne' none
      rw [abs_of_nonneg ahead] at gap_le
      rw [abs_of_pos onward] at bound
      constructor <;> linarith
    · have onward := (toward.nonpos (near.nonpos behind)).lt_of_ne none
      rw [abs_of_nonpos behind] at gap_le
      rw [abs_of_neg onward] at bound
      constructor <;> linarith

/-- The horizontal components are finite and of a magnitude of at most `2 ^ k`. -/
structure Within (k : Nat) (v : Vec3 Float32) : Prop where
  finite_x : Scalar.isFinite v.x
  finite_z : Scalar.isFinite v.z
  le_x : |real v.x| ≤ 2 ^ k
  le_z : |real v.z| ≤ 2 ^ k

theorem Within.of_zero {k : Nat} {v : Vec3 Float32} (x : v.x = 0) (z : v.z = 0) : Within k v := by
  have none : |real 0| ≤ 2 ^ k := by
    rw [real_zero, abs_zero]
    positivity
  exact ⟨x ▸ isFinite_zero, z ▸ isFinite_zero, x ▸ none, z ▸ none⟩

theorem Within.of_flat_eq {k : Nat} {v w : Vec3 Float32} (within : Within k v)
    (flat : w.flat = v.flat) : Within k w := by
  injection flat with x _ z
  exact ⟨x ▸ within.finite_x, z ▸ within.finite_z, x ▸ within.le_x, z ▸ within.le_z⟩

theorem Within.level_flat {k : Nat} {v : Vec3 Float32} (within : Within k v) : Level v.flat :=
  Binary32.level_flat within.finite_x within.finite_z

theorem Within.push {v d : Vec3 Float32} (within : Within (s + 4) v) (small : s ≤ 57)
    (finite_x : Scalar.isFinite d.x) (finite_z : Scalar.isFinite d.z)
    (keeps_x : real d.x = 0 ∨ |real v.x + real d.x| < 2 ^ (s + 4))
    (keeps_z : real d.z = 0 ∨ |real v.z + real d.z| < 2 ^ (s + 4)) :
    Within (s + 4) (Steering.push v d) := by
  obtain ⟨sum_x, le_x⟩ := add_within within.finite_x finite_x within.le_x (by omega) keeps_x
  obtain ⟨sum_z, le_z⟩ := add_within within.finite_z finite_z within.le_z (by omega) keeps_z
  exact ⟨sum_x, sum_z, le_x, le_z⟩

/-! ### Braking -/

section

variable {x speed loss : Float32}

/-- The loss of speed, spread over a component of the motion, is at most about that component. -/
theorem abs_spread_le {share : ℝ}
    (spread : |share| ≤ (1 + 1 / 2 ^ 21) * (|real x| / real speed) + 1 / 2 ^ 147)
    (moving : 0 < real speed) (nonneg : 0 ≤ real loss) (less : real loss < real speed) :
    |share * real loss| ≤ (1 + 1 / 2 ^ 21) * |real x| + 1 / 2 ^ 19 := by
  have ranged := real_lt speed
  have whole : |real x| / real speed * real speed = |real x| := div_mul_cancel₀ _ moving.ne'
  calc |share * real loss| = |share| * real loss := by
        rw [abs_mul, abs_of_nonneg nonneg]
    _ ≤ ((1 + 1 / 2 ^ 21) * (|real x| / real speed) + 1 / 2 ^ 147) * real speed :=
        mul_le_mul spread less.le nonneg (by positivity)
    _ = (1 + 1 / 2 ^ 21) * (|real x| / real speed * real speed) + 1 / 2 ^ 147 * real speed := by
        ring
    _ ≤ (1 + 1 / 2 ^ 21) * |real x| + 1 / 2 ^ 19 := by
        rw [whole]
        linarith

/-- The component of the direction against the motion. -/
theorem against (finite : Scalar.isFinite x) (finite_speed : Scalar.isFinite speed)
    (moving : 0 < real speed) (part : |real x| ≤ 4 * real speed) :
    Scalar.isFinite (-(x / speed)) ∧
      |real (-(x / speed))| ≤ (1 + 1 / 2 ^ 21) * (|real x| / real speed) + 1 / 2 ^ 147 ∧
      (real x ≤ 0 → 0 ≤ real (-(x / speed))) ∧ (0 ≤ real x → real (-(x / speed)) ≤ 0) := by
  have quotient := result_div finite finite_speed moving.ne'
  have small : |real x / real speed| < 2 ^ 3 := by
    rw [abs_div, abs_of_pos moving, div_lt_iff₀ moving]
    linarith
  obtain ⟨finite_q, bounded⟩ := quotient.bounded small (by norm_num)
  have near_q := quotient.near finite_q
  have opposite := result_neg finite_q
  have finite_n := opposite.finite <| by
    rw [abs_neg]
    exact bounded.trans_lt (by norm_num)
  have near_n := opposite.near finite_n
  refine ⟨finite_n, ?_, fun backward => ?_, fun forward => ?_⟩
  · have upper_q := near_q.abs_le
    have upper_n := near_n.abs_le
    rw [abs_neg] at upper_n
    rw [abs_div, abs_of_pos moving] at upper_q
    have := div_nonneg (abs_nonneg (real x)) moving.le
    linarith
  · exact near_n.nonneg <| neg_nonneg.mpr <|
      near_q.nonpos (div_nonpos_of_nonpos_of_nonneg backward moving.le)
  · exact near_n.nonpos <| neg_nonpos.mpr <| near_q.nonneg (div_nonneg forward moving.le)

/-- The loss of speed, in one component of the motion. -/
theorem toward_loss (finite : Scalar.isFinite x) (fits : |real x| ≤ 2 ^ 62)
    (finite_speed : Scalar.isFinite speed) (moving : 0 < real speed)
    (part : |real x| ≤ 4 * real speed) (finite_loss : Scalar.isFinite loss)
    (nonneg : 0 ≤ real loss) (less : real loss < real speed) :
    Scalar.isFinite (-(x / speed) * loss) ∧
      Toward (0 - real x) (real (-(x / speed) * loss)) := by
  obtain ⟨finite_n, spread, backward, forward⟩ := against finite finite_speed moving part
  have product := result_mul finite_n finite_loss
  have share := abs_spread_le spread moving nonneg less
  have finite_δ := product.finite (by linarith)
  have near := product.near finite_δ
  refine ⟨finite_δ, ⟨fun gap => ?_, fun gap => ?_, ?_⟩⟩
  · exact near.nonneg (mul_nonneg (backward (by linarith)) nonneg)
  · exact near.nonpos (mul_nonpos_of_nonpos_of_nonneg (forward (by linarith)) nonneg)
  · have bound := near.abs_le
    have := abs_nonneg (real x)
    rw [zero_sub, abs_neg]
    linarith

/-- What braking asks of a tuning. -/
structure Drags (t : Tuning Float32) : Prop where
  finite_deceleration : Scalar.isFinite t.deceleration
  finite_groundFriction : Scalar.isFinite t.groundFriction
  deceleration : 0 ≤ t.deceleration
  groundFriction : 0 ≤ t.groundFriction
  airResistance : 0 ≤ t.airResistance

theorem Drags.nonneg_drag {t : Tuning Float32} (drags : Drags t) {dt : Float32}
    (finite_dt : Scalar.isFinite dt) (passes : 0 < dt) (finite : Scalar.isFinite speed)
    (moving : 0 < speed) (onGround : Bool) : 0 ≤ Steering.drag t dt onGround speed := by
  unfold Steering.drag
  split
  · have friction := (result_mul drags.finite_deceleration drags.finite_groundFriction).nonneg
      (mul_nonneg ((nonneg_iff drags.finite_deceleration).mp drags.deceleration)
        ((nonneg_iff drags.finite_groundFriction).mp drags.groundFriction))
    exact nonneg_mul friction finite_dt passes
  · have once := nonneg_mul drags.airResistance finite moving
    exact nonneg_mul (nonneg_mul once finite moving) finite_dt passes

/-- Braking keeps the velocity within its range. -/
theorem Within.brake {v : Vec3 Float32} (within : Within (s + 4) v) (small : s ≤ 57)
    {t : Tuning Float32} (drags : Drags t) {dt : Float32} (finite_dt : Scalar.isFinite dt)
    (passes : 0 < dt) (onGround : Bool) : Within (s + 4) (Steering.brake t dt onGround v) := by
  have power : (2 : ℝ) ^ (s + 4) ≤ 2 ^ 62 := pow_le_pow_right₀ one_le_two (by omega)
  have fits_x := within.le_x.trans power
  have fits_z := within.le_z.trans power
  have level := within.level_flat
  have finite : Scalar.isFinite v.flat.length := level.isFinite_length fits_x fits_z
  unfold Steering.brake
  dsimp only
  split <;> rename_i still
  · exact within
  · have moving : 0 < real v.flat.length := by
      rw [le_iff_real_le finite isFinite_zero, real_zero] at still
      exact not_le.mp still
    have nonneg := drags.nonneg_drag finite_dt passes finite ((pos_iff finite).mpr moving) onGround
    generalize Steering.drag t dt onGround v.flat.length = loss at nonneg ⊢
    split <;> rename_i stops
    · exact .of_zero rfl rfl
    · -- An infinite loss would have stopped the motion.
      have finite_loss : Scalar.isFinite loss :=
        (isFinite_or_infinite nonneg).resolve_right fun infinite => stops (infinite.le finite)
      have less : real loss < real v.flat.length := by
        rw [le_iff_real_le finite finite_loss] at stops
        exact not_le.mp stops
      obtain ⟨finite_m, smaller⟩ := real_smaller finite_loss finite
      rw [min_eq_left less.le] at smaller
      generalize Scalar.smaller loss v.flat.length = m at finite_m smaller ⊢
      rw [nonneg_iff finite_loss, ← smaller] at nonneg
      rw [← smaller] at less
      obtain ⟨part_x, part_z⟩ := level.abs_le_length finite moving
      obtain ⟨finite_x, toward_x⟩ :=
        toward_loss within.finite_x fits_x finite moving part_x finite_m nonneg less
      obtain ⟨finite_z, toward_z⟩ :=
        toward_loss within.finite_z fits_z finite moving part_z finite_m nonneg less
      have rest : |(0 : ℝ)| ≤ 2 ^ (s + 3) := by
        rw [abs_zero]
        positivity
      exact within.push small finite_x finite_z (toward_x.keeps (.refl _) rest within.le_x)
        (toward_z.keeps (.refl _) rest within.le_z)

end

/-! ### A step that is cut -/

/-- The step `(px, pz)` is `q` times the difference `(dx, dz)`, up to rounding. Their lengths are
about `long` and `short`, and the given share of the step is not longer than the difference. -/
structure Cut (dx dz px pz q share long short : ℝ) : Prop where
  q_nonneg : 0 ≤ q
  close_x : |px - dx * q| ≤ |dx| * q / 2 ^ 21 + 1 / 2 ^ 20
  close_z : |pz - dz * q| ≤ |dz| * q / 2 ^ 21 + 1 / 2 ^ 20
  step_le : px ^ 2 + pz ^ 2 ≤ (1 + 1 / 2 ^ 18) * long ^ 2 + 1 / 2 ^ 140
  short_le : short ^ 2 ≤ (1 + 1 / 2 ^ 18) * (dx ^ 2 + dz ^ 2) + 1 / 2 ^ 140
  long_nonneg : 0 ≤ long
  share_nonneg : 0 ≤ share
  share_le : share ≤ 1
  clamped : share * long ≤ short * (1 + 1 / 2 ^ 23) + 1 / 2 ^ 21

namespace Cut

variable {dx dz px pz q share long short : ℝ} (cut : Cut dx dz px pz q share long short)

include cut

theorem swap : Cut dz dx pz px q share long short :=
  { cut with
    close_x := cut.close_z
    close_z := cut.close_x
    step_le := add_comm (px ^ 2) _ ▸ cut.step_le
    short_le := add_comm (dx ^ 2) _ ▸ cut.short_le }

/-- What is left of the step is about as long as the difference, at most. -/
theorem sq_add_sq_le : (share * px) ^ 2 + (share * pz) ^ 2 ≤
    (1 + 1 / 2 ^ 9) * (dx ^ 2 + dz ^ 2) + 1 / 2 ^ 29 := by
  have square : (share * long) ^ 2 ≤ (short * (1 + 1 / 2 ^ 23) + 1 / 2 ^ 21) ^ 2 :=
    pow_le_pow_left₀ (mul_nonneg cut.share_nonneg cut.long_nonneg) cut.clamped 2
  have mixed := sq_nonneg (short / 2 ^ 6 - 1 / 2 ^ 15)
  have scaled := mul_le_mul_of_nonneg_left cut.step_le (sq_nonneg share)
  have unit_sq : share ^ 2 ≤ 1 := pow_le_one₀ cut.share_nonneg cut.share_le
  have short_le := cut.short_le
  have := sq_nonneg dx
  have := sq_nonneg dz
  linarith

/-- If what is left were longer than the difference in one component, it would be so in both. -/
theorem sq_le_of_fast (fast : 51 / 50 < share * q) :
    (101 / 100 * |dx|) ^ 2 ≤ (1 + 1 / 2 ^ 20) * (share * px) ^ 2 + 1 / 2 ^ 19 := by
  have nonneg := abs_nonneg dx
  have triangle := abs_sub_abs_le_abs_sub (dx * q) px
  rw [abs_sub_comm, abs_mul, abs_of_nonneg cut.q_nonneg] at triangle
  have close := cut.close_x
  have share_le := cut.share_le
  have scaled : share * ((1 - 1 / 2 ^ 21) * (|dx| * q) - 1 / 2 ^ 20) ≤ share * |px| :=
    mul_le_mul_of_nonneg_left (by linarith) cut.share_nonneg
  have part : 51 / 50 * |dx| ≤ share * q * |dx| := mul_le_mul_of_nonneg_right fast.le nonneg
  have near : 101 / 100 * |dx| ≤ |share * px| + 1 / 2 ^ 20 := by
    rw [abs_mul, abs_of_nonneg cut.share_nonneg]
    linarith
  have squares := pow_le_pow_left₀ (by positivity) near 2
  have mixed := sq_nonneg (|share * px| - 1)
  rw [← sq_abs (share * px)]
  linarith

/-- What is left of the step is in no component much longer than the difference. -/
theorem abs_le : |share * px| ≤ 11 / 10 * |dx| + 1 / 4 := by
  have nonneg := abs_nonneg dx
  by_cases slow : share * q ≤ 51 / 50
  · have triangle := abs_sub_abs_le_abs_sub px (dx * q)
    rw [abs_mul dx, abs_of_nonneg cut.q_nonneg] at triangle
    have close := cut.close_x
    have share_le := cut.share_le
    have scaled : share * |px| ≤ share * ((1 + 1 / 2 ^ 21) * (|dx| * q) + 1 / 2 ^ 20) :=
      mul_le_mul_of_nonneg_left (by linarith) cut.share_nonneg
    have part : share * q * |dx| ≤ 51 / 50 * |dx| := mul_le_mul_of_nonneg_right slow nonneg
    rw [abs_mul, abs_of_nonneg cut.share_nonneg]
    linarith
  · -- The difference is then so small that only underflow can be behind it.
    have total := cut.sq_add_sq_le
    have first := cut.sq_le_of_fast (not_le.mp slow)
    have second := cut.swap.sq_le_of_fast (not_le.mp slow)
    rw [mul_pow, sq_abs] at first second
    have tiny : dx ^ 2 + dz ^ 2 < 1 / 2 ^ 6 := by linarith
    have small : (share * px) ^ 2 ≤ (1 / 4) ^ 2 := by
      have := sq_nonneg (share * pz)
      linarith
    have bound := abs_le_of_sq_le_sq small (by norm_num)
    linarith

end Cut

/-! ### Pursuing -/

section

variable {b n : Nat} {a dt : Float32}

/-- What an acceleration and a length of a frame may be, if no difference of velocities up to
`2 ^ (s + 5)` is to become infinite by them. -/
structure Drives (s b n : Nat) (a dt : Float32) : Prop where
  finite_a : Scalar.isFinite a
  finite_dt : Scalar.isFinite dt
  accelerates : 0 ≤ real a
  passes : 0 ≤ real dt
  below_a : real a < 2 ^ b
  below_dt : real dt < 2 ^ n
  range : s + b + n ≤ 122

namespace Drives

variable (drives : Drives s b n a dt)

include drives

theorem isFinite_step {d : Float32} (finite : Scalar.isFinite d) (le : |real d| ≤ 2 ^ (s + 5)) :
    Scalar.isFinite (d * a * dt) := by
  obtain ⟨finite_a, finite_dt, accelerates, passes, below_a, below_dt, range⟩ := drives
  have less : |real d * real a| < 2 ^ (s + 5 + b) := by
    rw [abs_mul, abs_of_nonneg accelerates, pow_add]
    exact mul_lt_mul' le below_a accelerates (by positivity)
  obtain ⟨finite_c, le_c⟩ := (result_mul finite finite_a).bounded less (by omega)
  refine (result_mul finite_c finite_dt).finite ?_
  rw [abs_mul, abs_of_nonneg passes]
  calc |real (d * a)| * real dt < 2 ^ (s + 5 + b) * 2 ^ n :=
        mul_lt_mul' le_c below_dt passes (by positivity)
    _ = 2 ^ (s + 5 + b + n) := (pow_add ..).symm
    _ ≤ 2 ^ 127 := pow_le_pow_right₀ one_le_two (by omega)

theorem rate : Scalar.isFinite (a * dt) ∧ 0 ≤ real (a * dt) := by
  obtain ⟨finite_a, finite_dt, accelerates, passes, below_a, below_dt, range⟩ := drives
  have result := result_mul finite_a finite_dt
  have less : |real a * real dt| < 2 ^ 127 := by
    rw [abs_of_nonneg (mul_nonneg accelerates passes)]
    calc real a * real dt < 2 ^ b * 2 ^ n := mul_lt_mul'' below_a below_dt accelerates passes
      _ = 2 ^ (b + n) := (pow_add ..).symm
      _ ≤ 2 ^ 127 := pow_le_pow_right₀ one_le_two (by omega)
  have finite := result.finite less
  exact ⟨finite, (result.near finite).nonneg (mul_nonneg accelerates passes)⟩

/-- The step in one component is the difference times the product of both factors, up to
rounding. -/
theorem step_close {d : Float32} (finite : Scalar.isFinite (d * a * dt)) :
    |real (d * a * dt) - real d * (real a * real dt)| ≤
      |real d| * (real a * real dt) / 2 ^ 21 + 1 / 2 ^ 20 := by
  obtain ⟨finite_c, finite_dt⟩ := isFinite_of_mul finite
  obtain ⟨finite_d, finite_a⟩ := isFinite_of_mul finite_c
  have accelerates := drives.accelerates
  have passes := drives.passes
  have near_c := (result_mul finite_d finite_a).near finite_c
  have close := ((result_mul finite_c finite_dt).near finite).close
  have close_c := mul_le_mul_of_nonneg_right near_c.close passes
  have upper_c := mul_le_mul_of_nonneg_right near_c.abs_le passes
  have ranged := real_lt dt
  have apart : |real (d * a * dt) - real d * (real a * real dt)| ≤
      |real (d * a * dt) - real (d * a) * real dt| +
        |real (d * a) - real d * real a| * real dt := by
    have split : real (d * a * dt) - real d * (real a * real dt) =
        (real (d * a * dt) - real (d * a) * real dt) +
          (real (d * a) - real d * real a) * real dt := by ring
    rw [split]
    refine (abs_add_le _ _).trans_eq ?_
    rw [abs_mul _ (real dt), abs_of_nonneg passes]
  rw [abs_mul (real d), abs_of_nonneg accelerates] at close_c upper_c
  rw [abs_mul, abs_of_nonneg passes] at close
  have exact_nonneg : 0 ≤ |real d| * real a * real dt := by positivity
  linarith

/-- The step in one component does not go the other way. -/
theorem step_sign {d : Float32} (finite : Scalar.isFinite (d * a * dt)) :
    (0 ≤ real d → 0 ≤ real (d * a * dt)) ∧ (real d ≤ 0 → real (d * a * dt) ≤ 0) := by
  obtain ⟨finite_c, finite_dt⟩ := isFinite_of_mul finite
  obtain ⟨finite_d, finite_a⟩ := isFinite_of_mul finite_c
  have near_c := (result_mul finite_d finite_a).near finite_c
  have near := (result_mul finite_c finite_dt).near finite
  refine ⟨fun nonneg => ?_, fun nonpos => ?_⟩
  · have onward := near_c.nonneg (mul_nonneg nonneg drives.accelerates)
    exact near.nonneg (mul_nonneg onward drives.passes)
  · have onward := near_c.nonpos (mul_nonpos_of_nonpos_of_nonneg nonpos drives.accelerates)
    exact near.nonpos (mul_nonpos_of_nonpos_of_nonneg onward drives.passes)

section

variable {d : Vec3 Float32} (level : Level d) (le_x : |real d.x| ≤ 2 ^ (s + 5))
  (le_z : |real d.z| ≤ 2 ^ (s + 5))

include level le_x le_z

theorem level_step : Level (d * a * dt) := by
  obtain ⟨finite_y, flat⟩ := real_zero_mul level.flat level.y drives.finite_a
  obtain ⟨finite_y, flat⟩ := real_zero_mul flat finite_y drives.finite_dt
  exact ⟨drives.isFinite_step level.x le_x, finite_y, drives.isFinite_step level.z le_z, flat⟩

theorem cut (finite_gap : Scalar.isFinite d.length) (finite : Scalar.isFinite (d * a * dt).length)
    {share : ℝ} (share_nonneg : 0 ≤ share) (share_le : share ≤ 1)
    (clamped : share * real (d * a * dt).length ≤
      real d.length * (1 + 1 / 2 ^ 23) + 1 / 2 ^ 21) :
    Cut (real d.x) (real d.z) (real (d.x * a * dt)) (real (d.z * a * dt)) (real a * real dt) share
      (real (d * a * dt).length) (real d.length) where
  q_nonneg := mul_nonneg drives.accelerates drives.passes
  close_x := drives.step_close (drives.isFinite_step level.x le_x)
  close_z := drives.step_close (drives.isFinite_step level.z le_z)
  step_le := ((drives.level_step level le_x le_z).sq_length finite).2
  short_le := (level.sq_length finite_gap).1
  long_nonneg := (drives.level_step level le_x le_z).real_length_nonneg finite
  share_nonneg := share_nonneg
  share_le := share_le
  clamped := clamped

end

end Drives

/-- The share that cuts a step to the longest allowed. An infinite step is cut to nothing. -/
theorem share_spec {longest long : Float32} (finite : Scalar.isFinite longest)
    (nonneg : 0 ≤ real longest) (nonneg_long : 0 ≤ long) (longer : longest < long) :
    Scalar.isFinite (longest / long) ∧ 0 ≤ real (longest / long) ∧
      (real (longest / long) = 0 ∨ Scalar.isFinite long ∧ real (longest / long) ≤ 1 ∧
        real (longest / long) * real long ≤ real longest * (1 + 1 / 2 ^ 23) + 1 / 2 ^ 21) := by
  rcases isFinite_or_infinite nonneg_long with finite_long | infinite
  · rw [lt_iff_real_lt finite finite_long] at longer
    have pos := nonneg.trans_lt longer
    have quotient := result_div finite finite_long pos.ne'
    have ratio_nonneg := div_nonneg nonneg pos.le
    have less : |real longest / real long| < 2 ^ 0 := by
      rw [abs_of_nonneg ratio_nonneg, pow_zero, div_lt_one pos]
      exact longer
    have finite_r := quotient.finite (less.trans (by norm_num))
    have near := quotient.near finite_r
    have share_nonneg := near.nonneg ratio_nonneg
    have share_le := near.bounded 0 less
    rw [pow_zero, abs_of_nonneg share_nonneg] at share_le
    refine ⟨finite_r, share_nonneg, .inr ⟨finite_long, share_le, ?_⟩⟩
    have whole : real longest / real long * real long = real longest := div_mul_cancel₀ _ pos.ne'
    have ranged := real_lt long
    have scaled := mul_le_mul_of_nonneg_right (near.bounds ratio_nonneg).2 pos.le
    linarith
  · obtain ⟨finite_r, none⟩ := infinite.div finite
    exact ⟨finite_r, none.ge, .inl none⟩

/-- What is left of a step in one component is a step toward the target. -/
theorem toward_share {d p r : Float32} (finite_p : Scalar.isFinite p) (finite_r : Scalar.isFinite r)
    (share_nonneg : 0 ≤ real r) (ahead : 0 ≤ real d → 0 ≤ real p)
    (behind : real d ≤ 0 → real p ≤ 0) (le_d : |real d| ≤ 2 ^ 62)
    (le : |real r * real p| ≤ 11 / 10 * |real d| + 1 / 4) :
    Scalar.isFinite (p * r) ∧ Toward (real d) (real (p * r)) := by
  have nonneg := abs_nonneg (real d)
  have result := result_mul finite_p finite_r
  rw [mul_comm] at le
  have finite := result.finite (by linarith)
  have near := result.near finite
  have bound := near.abs_le
  exact ⟨finite, fun forward => near.nonneg (mul_nonneg (ahead forward) share_nonneg),
    fun backward => near.nonpos (mul_nonpos_of_nonpos_of_nonneg (behind backward) share_nonneg),
    by linarith⟩

/-- A step of pursuit goes toward the target in each component. -/
theorem Drives.toward_approach (drives : Drives s b n a dt) (small : s ≤ 57)
    {difference : Vec3 Float32} (level : Level difference)
    (le_x : |real difference.x| ≤ 2 ^ (s + 5)) (le_z : |real difference.z| ≤ 2 ^ (s + 5)) :
    let δ := Steering.approach a dt difference
    (Scalar.isFinite δ.x ∧ Toward (real difference.x) (real δ.x)) ∧
      Scalar.isFinite δ.z ∧ Toward (real difference.z) (real δ.z) := by
  have finite_x := drives.isFinite_step level.x le_x
  have finite_z := drives.isFinite_step level.z le_z
  obtain ⟨ahead_x, behind_x⟩ := drives.step_sign finite_x
  obtain ⟨ahead_z, behind_z⟩ := drives.step_sign finite_z
  have level_step := drives.level_step level le_x le_z
  have power : (2 : ℝ) ^ (s + 5) ≤ 2 ^ 62 := pow_le_pow_right₀ one_le_two (by omega)
  have fits_x := le_x.trans power
  have fits_z := le_z.trans power
  have finite_gap := level.isFinite_length fits_x fits_z
  have gap_nonneg := level.real_length_nonneg finite_gap
  obtain ⟨finite_rate, rate_nonneg⟩ := drives.rate
  obtain ⟨finite_longest, longest_eq⟩ := real_smaller finite_gap finite_rate
  have longest_nonneg := longest_eq ▸ le_min gap_nonneg rate_nonneg
  have longest_le := longest_eq.trans_le (min_le_left ..)
  unfold Steering.approach
  dsimp only
  generalize Scalar.smaller difference.length (a * dt) = longest at *
  split <;> rename_i longer
  · obtain ⟨finite_r, share_nonneg, none | ⟨finite, share_le, clamped⟩⟩ :=
      share_spec finite_longest longest_nonneg level_step.nonneg_length longer
    · have left {p d : ℝ} : |real (longest / (difference * a * dt).length) * p| ≤
          11 / 10 * |d| + 1 / 4 := by
        rw [none, zero_mul, abs_zero]
        positivity
      exact ⟨toward_share finite_x finite_r share_nonneg ahead_x behind_x fits_x left,
        toward_share finite_z finite_r share_nonneg ahead_z behind_z fits_z left⟩
    · have cut := drives.cut level le_x le_z finite_gap finite share_nonneg share_le (by linarith)
      exact ⟨toward_share finite_x finite_r share_nonneg ahead_x behind_x fits_x cut.abs_le,
        toward_share finite_z finite_r share_nonneg ahead_z behind_z fits_z cut.swap.abs_le⟩
  · have finite : Scalar.isFinite (difference * a * dt).length :=
      (isFinite_or_infinite level_step.nonneg_length).resolve_right fun infinite =>
        longer (infinite.lt finite_longest)
    rw [lt_iff_real_lt finite_longest finite] at longer
    have cut := drives.cut level le_x le_z finite_gap finite zero_le_one le_rfl (by linarith)
    have whole_x := cut.abs_le
    have whole_z := cut.swap.abs_le
    rw [one_mul] at whole_x whole_z
    have := abs_nonneg (real difference.x)
    have := abs_nonneg (real difference.z)
    exact ⟨⟨finite_x, ahead_x, behind_x, whole_x.trans (by linarith)⟩, finite_z, ahead_z, behind_z,
      whole_z.trans (by linarith)⟩

/-- One component of the way to a target. -/
theorem difference_close {direction speed component : Float32}
    (finite_direction : Scalar.isFinite direction) (le : |real direction| ≤ 8)
    (below : Below s speed) (small : s ≤ 57) (finite : Scalar.isFinite component)
    (within : |real component| ≤ 2 ^ (s + 4)) :
    |real (direction * speed)| ≤ 2 ^ (s + 3) ∧ Scalar.isFinite (direction * speed - component) ∧
      Near (real (direction * speed - component)) (real (direction * speed) - real component) ∧
      |real (direction * speed - component)| ≤ 2 ^ (s + 5) := by
  have less : |real direction * real speed| < 2 ^ (s + 3) := by
    rw [abs_mul, pow_add, mul_comm (2 ^ s)]
    exact mul_lt_mul' (le.trans_eq (by norm_num)) below.abs_real_lt (abs_nonneg _) (by positivity)
  obtain ⟨finite_aim, aims⟩ :=
    (result_mul finite_direction below.isFinite).bounded less (by omega)
  have result := result_sub finite_aim finite
  have gap : |real (direction * speed) - real component| < 2 ^ (s + 5) := by
    have power : (0 : ℝ) < 2 ^ s := by positivity
    refine (abs_sub _ _).trans_lt ?_
    rw [pow_add] at aims within ⊢
    linarith
  obtain ⟨finite_gap, bounded⟩ := result.bounded gap (by omega)
  exact ⟨aims, finite_gap, result.near finite_gap, bounded⟩

/-- Pursuing a target keeps the velocity within its range, whatever the wanted direction. -/
theorem Within.pursue {v : Vec3 Float32} (within : Within (s + 4) v) (small : s ≤ 57)
    {speed : Float32} (below : Below s speed) (drives : Drives s b n a dt) (w : Vec3 Float32) :
    Within (s + 4) (Steering.pursue a speed dt w.flat v) := by
  obtain ⟨level, le_x, le_z⟩ := normalizeOrZero_flat w
  obtain ⟨aims_x, finite_x, near_x, gap_x⟩ :=
    difference_close level.x le_x below small within.finite_x within.le_x
  obtain ⟨aims_z, finite_z, near_z, gap_z⟩ :=
    difference_close level.z le_z below small within.finite_z within.le_z
  unfold Steering.pursue
  generalize w.flat.normalizeOrZero = direction at *
  have level_gap : Level (direction * speed - v.flat) := by
    obtain ⟨finite_y, flat⟩ := real_zero_mul level.flat level.y below.isFinite
    have result := result_sub finite_y isFinite_zero
    rw [flat, real_zero, sub_zero] at result
    obtain ⟨finite, none⟩ := result.eq_zero
    exact ⟨finite_x, finite, finite_z, none⟩
  obtain ⟨⟨finite_δx, toward_x⟩, finite_δz, toward_z⟩ :=
    drives.toward_approach small level_gap gap_x gap_z
  exact within.push small finite_δx finite_δz (toward_x.keeps near_x aims_x within.le_x)
    (toward_z.keeps near_z aims_z within.le_z)

end

end CharacterMotion.Binary32
