import CharacterMotion.Proofs.Controller.Undisturbed
import CharacterMotion.Proofs.Exact.SpeedBound

/-!
Braking, over the real numbers: runs of frames without input over a body that is left alone.

Such a frame keeps a fraction of the horizontal velocity (`exists_fraction`), so that a whole run
does too, and with every frame a smaller one. What it takes from the speed depends on the speed and
on the length of the frame. On the ground it is proportional to the length alone, and then it does
not matter into what frames a time is cut (`speed_before_of_grounded`); the zero at which a speed
ends is what makes this more than a sum, since a frame may end in the middle of its own length
(`eq_max_sub_sum`).
-/

namespace CharacterMotion

/-- What braking asks of a tuning. -/
structure Tuning.Slows (t : Tuning ℝ) : Prop where
  deceleration : 0 ≤ t.deceleration
  groundFriction : 0 ≤ t.groundFriction
  airResistance : 0 ≤ t.airResistance

theorem Steering.drag_zero (t : Tuning ℝ) (onGround : Bool) (speed : ℝ) :
    drag t 0 onGround speed = 0 := by
  simp [drag]

theorem Vec3.mul_mul (v : Vec3 ℝ) (k l : ℝ) : v * k * l = v * (k * l) := by
  ext <;> simp [mul_assoc]

/-- What loses no more than there is of it has lost the sum of its losses, or everything. -/
theorem eq_max_sub_sum {d loss : Nat → ℝ} {n : Nat} (start : 0 ≤ d 0)
    (nonneg : ∀ k < n, 0 ≤ loss k) (step : ∀ k < n, d (k + 1) = d k - min (loss k) (d k)) :
    d n = max 0 (d 0 - ∑ k ∈ Finset.range n, loss k) := by
  induction n with
  | zero => rw [Finset.sum_range_zero, sub_zero, max_eq_right start]
  | succ n ih =>
      have before := ih (fun k less => nonneg k (Nat.lt_succ_of_lt less))
        fun k less => step k (Nat.lt_succ_of_lt less)
      have last := nonneg n n.lt_succ_self
      rw [step n n.lt_succ_self, before, Finset.sum_range_succ, sub_add_eq_sub_sub]
      generalize d 0 - ∑ k ∈ Finset.range n, loss k = rest
      rcases le_total rest 0 with none | some
      · rw [max_eq_left none, min_eq_right last, max_eq_left (by linarith), sub_zero]
      · rw [max_eq_right some]
        rcases le_total rest (loss n) with all | part
        · rw [min_eq_right all, max_eq_left (sub_nonpos.mpr all), sub_self]
        · rw [min_eq_left part, max_eq_right (sub_nonneg.mpr part)]

namespace Embodied

variable {β : Type} [Body ℝ β] {e : Embodied ℝ β}

theorem speed_nonneg (e : Embodied ℝ β) : 0 ≤ e.speed := Vec3.length_nonneg _

/-- A turn without input keeps a fraction of the horizontal velocity. -/
theorem exists_fraction {t : Turn ℝ β} (stores : Body.StoresVelocity β)
    (undisturbed : e.Undisturbed t) (slows : t.tuning.Slows)
    (idle : ¬ CountsAsInput t.tuning (e.controller.takeAll t.orders).1.direction) :
    ∃ s, 0 ≤ s ∧ s ≤ 1 ∧ (e.take t).velocity.flat = e.velocity.flat * s ∧
      s * e.speed = e.speed - min (Steering.drag t.tuning (elapsed t.dt)
        (Body.read (t.change e.body)).onGround e.speed) e.speed := by
  have passes := elapsed_nonneg t.dt
  rw [flat_velocity_take stores undisturbed]
  split <;> rename_i active
  · rw [Controller.input?_eq, if_neg idle]
    exact Steering.flat_brake rfl <| Steering.drag_nonneg passes slows.deceleration
      slows.groundFriction slows.airResistance ..
  · have none : elapsed t.dt = 0 := le_antisymm (not_lt.mp active) passes
    refine ⟨1, zero_le_one, le_rfl, (Vec3.mul_one _).symm, ?_⟩
    rw [none, Steering.drag_zero, min_eq_left e.speed_nonneg, sub_zero, one_mul]

/-- The time that the first `n` turns take. -/
noncomputable def timeBefore (turns : Nat → Turn ℝ β) (n : Nat) : ℝ :=
  ∑ k ∈ Finset.range n, elapsed (turns k).dt

/-- Turn `k` brakes on the ground, at the rate `D`. -/
def BrakesAt (e : Embodied ℝ β) (turns : Nat → Turn ℝ β) (D : ℝ) (k : Nat) : Prop :=
  (e.readingAt turns k).onGround = true ∧
    (turns k).tuning.deceleration * (turns k).tuning.groundFriction = D

/-- A run in which no turn has input, over a body that is left alone. -/
structure Coasts (e : Embodied ℝ β) (turns : Nat → Turn ℝ β) : Prop where
  undisturbed : ∀ n, (e.before turns n).Undisturbed (turns n)
  slows : ∀ n, (turns n).tuning.Slows
  idle : ∀ n, ¬ CountsAsInput (turns n).tuning (e.toldAt turns n).direction

namespace Coasts

variable {turns : Nat → Turn ℝ β} (stores : Body.StoresVelocity β) (coasts : e.Coasts turns)

include stores coasts

/-- What turn `n` takes from the speed. -/
theorem speed_succ (n : Nat) :
    (e.before turns (n + 1)).speed = (e.before turns n).speed -
      min (Steering.drag (turns n).tuning (elapsed (turns n).dt) (e.readingAt turns n).onGround
        (e.before turns n).speed) (e.before turns n).speed := by
  obtain ⟨s, nonneg, -, keeps, loss⟩ :=
    exists_fraction stores (coasts.undisturbed n) (coasts.slows n) (coasts.idle n)
  have fraction : (e.before turns (n + 1)).velocity.flat = (e.before turns n).velocity.flat * s :=
    keeps
  have scaled : (e.before turns (n + 1)).speed = s * (e.before turns n).speed := by
    unfold speed
    rw [fraction, Vec3.length_mul, abs_of_nonneg nonneg, mul_comm]
  exact scaled.trans loss

/-- Before every turn a fraction of the first horizontal velocity is left, and less and less of
it. -/
theorem exists_fractions : ∃ c : Nat → ℝ, c 0 = 1 ∧ Antitone c ∧ (∀ n, 0 ≤ c n) ∧
    ∀ n, (e.before turns n).velocity.flat = e.velocity.flat * c n := by
  choose s nonneg le_one keeps _ using fun n =>
    exists_fraction stores (coasts.undisturbed n) (coasts.slows n) (coasts.idle n)
  let c (n : Nat) : ℝ := ∏ k ∈ Finset.range n, s k
  have next (n : Nat) : c (n + 1) = c n * s n := Finset.prod_range_succ ..
  have c_nonneg (n : Nat) : 0 ≤ c n := Finset.prod_nonneg fun k _ => nonneg k
  refine ⟨c, Finset.prod_range_zero s, antitone_nat_of_succ_le fun n => ?_, c_nonneg, fun n => ?_⟩
  · rw [next]
    exact mul_le_of_le_one_right (c_nonneg n) (le_one n)
  · induction n with
    | zero => exact (Vec3.mul_one _).symm
    | succ n ih =>
        have fraction : (e.before turns (n + 1)).velocity.flat =
            (e.before turns n).velocity.flat * s n := keeps n
        rw [fraction, ih, Vec3.mul_mul, next]

/-- On the ground the speed falls steadily, until it is zero. -/
theorem speed_before_of_grounded {D : ℝ} {n : Nat} (brakes : ∀ k < n, e.BrakesAt turns D k) :
    (e.before turns n).speed = max 0 (e.speed - D * timeBefore turns n) := by
  have loss_nonneg (k : Nat) (less : k < n) : 0 ≤ D * elapsed (turns k).dt := by
    obtain ⟨-, rate⟩ := brakes k less
    rw [← rate]
    exact mul_nonneg (mul_nonneg (coasts.slows k).deceleration (coasts.slows k).groundFriction)
      (elapsed_nonneg _)
  have falls := eq_max_sub_sum (d := fun k => (e.before turns k).speed) e.speed_nonneg loss_nonneg
    fun k less => by
      obtain ⟨grounded, rate⟩ := brakes k less
      rw [speed_succ stores coasts, Steering.drag, if_pos grounded, rate]
  rw [falls, timeBefore, Finset.mul_sum]
  rfl

end Coasts

/-- What braking makes of a velocity, in a run of turns without input over a body that is left
alone. The horizontal velocity is a fraction of the first one, which never grows; so the speed never
grows either, and no component changes its sign. As long as all turns brake on the ground at one
rate, the speed depends on the time alone that has passed, and once it is zero the character stays
at rest, whatever comes. A turn in the air takes away what the square of the speed asks for, or all
there is. -/
theorem braking_is_radial {turns : Nat → Turn ℝ β} (stores : Body.StoresVelocity β)
    (coasts : e.Coasts turns) :
    let v := fun n => (e.before turns n).velocity.flat
    let speed := fun n => (v n).length
    (∀ n, (e.frameAt turns n).controller.velocity.flat = v (n + 1)) ∧
    (∃ c : Nat → ℝ, c 0 = 1 ∧ Antitone c ∧ (∀ n, 0 ≤ c n) ∧ ∀ n, v n = v 0 * c n) ∧
    (∀ m n, m ≤ n → speed n ≤ speed m ∧ 0 ≤ (v m).x * (v n).x ∧ 0 ≤ (v m).z * (v n).z) ∧
    (∀ D n, (∀ k < n, e.BrakesAt turns D k) →
      speed n = max 0 (speed 0 - D * timeBefore turns n) ∧
      (0 < D → speed 0 / D ≤ timeBefore turns n → ∀ m, n ≤ m → v m = 0)) ∧
    ∀ n, (e.readingAt turns n).onGround = false →
      speed (n + 1) = speed n -
        min ((turns n).tuning.airResistance * speed n ^ 2 * elapsed (turns n).dt) (speed n) := by
  intro v speed
  obtain ⟨c, whole, shrinks, nonneg, fraction⟩ := coasts.exists_fractions stores
  have falls (m n : Nat) (le : m ≤ n) : speed n ≤ speed m := by
    have scaled (n : Nat) : speed n = e.speed * c n := by
      change (e.before turns n).velocity.flat.length = _
      rw [fraction, Vec3.length_mul, abs_of_nonneg (nonneg n)]
      rfl
    rw [scaled, scaled]
    exact mul_le_mul_of_nonneg_left (shrinks le) e.speed_nonneg
  refine ⟨fun n => ?_, ⟨c, whole, shrinks, nonneg, fraction⟩, fun m n le => ⟨falls m n le, ?_, ?_⟩,
    fun D n brakes => ?_, fun n airborne => ?_⟩
  · exact congrArg Vec3.flat (velocity_take stores (coasts.undisturbed n)).symm
  · have product : (v m).x * (v n).x = e.velocity.x ^ 2 * (c m * c n) := by
      simp only [v, fraction, Vec3.mul_x, Vec3.flat_x]
      ring
    rw [product]
    exact mul_nonneg (sq_nonneg _) (mul_nonneg (nonneg m) (nonneg n))
  · have product : (v m).z * (v n).z = e.velocity.z ^ 2 * (c m * c n) := by
      simp only [v, fraction, Vec3.mul_z, Vec3.flat_z]
      ring
    rw [product]
    exact mul_nonneg (sq_nonneg _) (mul_nonneg (nonneg m) (nonneg n))
  · have left : speed n = max 0 (speed 0 - D * timeBefore turns n) :=
      coasts.speed_before_of_grounded stores brakes
    refine ⟨left, fun pos enough m le => ?_⟩
    have rest : speed n = 0 := by
      rw [left, max_eq_left]
      rw [div_le_iff₀ pos] at enough
      linarith
    exact Vec3.length_eq_zero_iff.mp <|
      le_antisymm ((falls n m le).trans_eq rest) (Vec3.length_nonneg _)
  · have loss : Steering.drag (turns n).tuning (elapsed (turns n).dt)
        (e.readingAt turns n).onGround (speed n) =
        (turns n).tuning.airResistance * speed n ^ 2 * elapsed (turns n).dt := by
      rw [Steering.drag, airborne]
      simp only [Bool.false_eq_true, if_false]
      ring
    rw [← loss]
    exact coasts.speed_succ stores n

/-- Two halves of a second on the ground, and all further ones in the air, with a wanted direction
that is too short to count. -/
noncomputable def slide (n : Nat) : Turn ℝ (Puppet ℝ) where
  change p := { p with onGround := n < 2 }
  orders := [.direction ⟨0.05, 9, 0⟩]
  dt := 0.5
  tuning := .standard

theorem coasts_slide (e : Embodied ℝ (Puppet ℝ)) : e.Coasts slide where
  undisturbed _ := rfl
  slows _ := ⟨by norm_num [slide, Tuning.standard], by norm_num [slide, Tuning.standard],
    by norm_num [slide, Tuning.standard]⟩
  idle n := by
    have short : (⟨0.05, 9, 0⟩ : Vec3 ℝ).flat.length = 0.05 :=
      Vec3.length_of_sq (by norm_num) (by norm_num)
    rintro ⟨-, long⟩
    change (Tuning.standard : Tuning ℝ).inputThreshold ≤ (⟨0.05, 9, 0⟩ : Vec3 ℝ).flat.length at long
    rw [short] at long
    norm_num [Tuning.standard] at long

theorem brakesAt_slide (e : Embodied ℝ (Puppet ℝ)) {k : Nat} (less : k < 2) :
    e.BrakesAt slide 10.2 k := by
  refine ⟨decide_eq_true less, ?_⟩
  norm_num [slide, Tuning.standard]

theorem timeBefore_slide (n : Nat) : timeBefore slide n = n * 0.5 := by
  have each (k : Nat) : elapsed (slide k).dt = 0.5 :=
    if_pos (isTimestep_real_iff.mpr (by norm_num [slide]))
  simp only [timeBefore, each, Finset.sum_const, Finset.card_range, nsmul_eq_mul]

theorem braking_is_radial_slide :
    let e : Embodied ℝ (Puppet ℝ) := ⟨.fresh, true, some ⟨6, 1, 8⟩, []⟩
    (e.before slide 1).velocity.flat.length = 4.9 ∧
      ∀ m, 2 ≤ m → (e.before slide m).velocity.flat = 0 := by
  intro e
  have start : (e.before slide 0).velocity.flat.length = 10 :=
    Vec3.length_of_sq (by norm_num) (by norm_num [velocity, before, stateAt, e, Body.read,
      Puppet.reading])
  obtain ⟨-, -, -, grounded, -⟩ := braking_is_radial Puppet.storesVelocity (coasts_slide e)
  obtain ⟨half, -⟩ := grounded 10.2 1 fun k less => brakesAt_slide e (less.trans one_lt_two)
  obtain ⟨-, stops⟩ := grounded 10.2 2 fun k less => brakesAt_slide e less
  dsimp only at half stops
  rw [start, timeBefore_slide] at half stops
  refine ⟨?_, stops (by norm_num) (by norm_num)⟩
  rw [half]
  norm_num

end Embodied

end CharacterMotion
