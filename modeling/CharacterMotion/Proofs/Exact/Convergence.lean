import CharacterMotion.Proofs.Exact.Braking

/-!
Convergence, over the real numbers: runs of frames with the same input over a body that is left
alone.

Each frame moves the velocity straight toward the wanted one, and shortens the gap to it by the
least of three: the gap itself, the rate `k`, and `k` times the gap (`gap_succ`). So far away the gap
shrinks steadily and close by in proportion to what is left of it; for a rate of one or more the gap
is closed after finitely many frames. No bound on the rate is needed for the gap to become as small
as one likes: as long as it is not, each frame takes away an amount that stays the same
(`lt_or_le_sub`).
-/

namespace CharacterMotion

/-! ### Gaps that close -/

section

variable {d : Nat → ℝ} {k : ℝ} (pos : 0 < k) (nonneg : ∀ n, 0 ≤ d n)
  (step : ∀ n, d (n + 1) = d n - min (d n) (min k (k * d n)))

include pos step

theorem gap_lt {n : Nat} (apart : 0 < d n) : d (n + 1) < d n := by
  rw [step]
  exact sub_lt_self _ (lt_min apart (lt_min pos (mul_pos pos apart)))

include nonneg

theorem antitone_gap : Antitone d := by
  refine antitone_nat_of_succ_le fun n => ?_
  rw [step]
  exact sub_le_self _ (le_min (nonneg n) (le_min pos.le (mul_nonneg pos.le (nonneg n))))

/-- While a gap is not small, each step takes an amount from it that stays the same. -/
theorem lt_or_le_sub (ε : ℝ) (n : Nat) : d n < ε ∨ d n ≤ d 0 - n * min ε (min k (k * ε)) := by
  induction n with
  | zero => exact .inr (by rw [Nat.cast_zero, zero_mul, sub_zero])
  | succ n ih =>
      have shrinks := antitone_gap pos nonneg step n.le_succ
      rcases lt_or_ge (d n) ε with small | large
      · exact .inl (shrinks.trans_lt small)
      · right
        have before := ih.resolve_left (not_lt.mpr large)
        have taken : min ε (min k (k * ε)) ≤ min (d n) (min k (k * d n)) := by
          gcongr
        rw [step]
        push_cast
        linarith

theorem exists_gap_lt {ε : ℝ} (some : 0 < ε) : ∃ N, ∀ n, N ≤ n → d n < ε := by
  have taken : 0 < min ε (min k (k * ε)) := lt_min some (lt_min pos (mul_pos pos some))
  obtain ⟨N, enough⟩ := exists_nat_gt (d 0 / min ε (min k (k * ε)))
  rw [div_lt_iff₀ taken] at enough
  have small : d N < ε := by
    refine (lt_or_le_sub pos nonneg step ε N).resolve_right fun le => ?_
    have := nonneg N
    linarith
  exact ⟨N, fun n le => (antitone_gap pos nonneg step le).trans_lt small⟩

/-- A gap that loses a whole rate at a time is closed when all of it is used up. -/
theorem gap_eq_max (fast : 1 ≤ k) (n : Nat) : d n = max 0 (d 0 - n * k) := by
  have whole (n : Nat) : d (n + 1) = d n - min k (d n) := by
    have all : d n ≤ k * d n := le_mul_of_one_le_left (nonneg n) fast
    rw [step, ← min_assoc, min_comm (d n) k, min_assoc, min_eq_left all]
  rw [eq_max_sub_sum (nonneg 0) (fun _ _ => pos.le) fun m _ => whole m, Finset.sum_const,
    Finset.card_range, nsmul_eq_mul]

end

theorem Vec3.sub_lerp (a b : Vec3 ℝ) (s : ℝ) : b - a.lerp b s = (b - a) * (1 - s) := by
  ext <;> simp [lerp] <;> ring

theorem Vec3.eq_of_length_sub_eq_zero {a b : Vec3 ℝ} (none : (b - a).length = 0) : a = b := by
  have gap := length_eq_zero_iff.mp none
  ext
  · exact (sub_eq_zero.mp (congrArg Vec3.x gap)).symm
  · exact (sub_eq_zero.mp (congrArg Vec3.y gap)).symm
  · exact (sub_eq_zero.mp (congrArg Vec3.z gap)).symm

/-- The horizontal velocity that a direction asks for. -/
noncomputable def Tuning.wanted (t : Tuning ℝ) (g : Gait) (wish : Vec3 ℝ) : Vec3 ℝ :=
  wish.flat.normalize * t.targetSpeed g

namespace Embodied

variable {β : Type} [Body ℝ β]

/-- A run in which the same direction is wanted of every turn, in one gait and under one tuning,
with the same contact and the rate `k` of steering, over a body that is left alone. -/
structure Pursues (e : Embodied ℝ β) (turns : Nat → Turn ℝ β) (t : Tuning ℝ) (g : Gait)
    (wish : Vec3 ℝ) (contact : Bool) (k : ℝ) : Prop where
  undisturbed : ∀ n, (e.before turns n).Undisturbed (turns n)
  tuning : ∀ n, (turns n).tuning = t
  gait : ∀ n, (e.toldAt turns n).gait = g
  direction : ∀ n, (e.toldAt turns n).direction = wish
  counts : CountsAsInput t wish
  onGround : ∀ n, (e.readingAt turns n).onGround = contact
  rate : ∀ n, t.accelerationOn contact * elapsed (turns n).dt = k
  pos : 0 < k

namespace Pursues

variable {e : Embodied ℝ β} {turns : Nat → Turn ℝ β} {t : Tuning ℝ} {g : Gait} {wish : Vec3 ℝ}
  {contact : Bool} {k : ℝ} (pursues : e.Pursues turns t g wish contact k)

include pursues

/-- Time passes in every turn, and the character speeds up. -/
theorem active (n : Nat) : 0 < elapsed (turns n).dt ∧ 0 < t.accelerationOn contact := by
  have product : 0 < t.accelerationOn contact * elapsed (turns n).dt := by
    rw [pursues.rate]
    exact pursues.pos
  have accelerates := pos_of_mul_pos_left product (elapsed_nonneg _)
  exact ⟨pos_of_mul_pos_right product accelerates.le, accelerates⟩

variable (stores : Body.StoresVelocity β)

include stores

/-- Each turn moves the velocity some way straight toward the wanted one. -/
theorem exists_lerp (n : Nat) :
    let v := fun n => (e.before turns n).velocity.flat
    let gap := fun n => (t.wanted g wish - v n).length
    ∃ s, 0 ≤ s ∧ s ≤ 1 ∧ v (n + 1) = (v n).lerp (t.wanted g wish) s ∧
      gap (n + 1) = gap n - min (gap n) (min k (k * gap n)) := by
  intro v gap
  obtain ⟨passes, accelerates⟩ := pursues.active n
  have steered : v (n + 1) = (Steering.pursue (t.accelerationOn contact) (t.targetSpeed g)
      (elapsed (turns n).dt) wish.flat (e.before turns n).velocity).flat := by
    have taken := flat_velocity_succ stores (pursues.undisturbed n)
    rwa [if_pos passes, pursues.tuning, pursues.direction, pursues.onGround, Controller.input?_eq,
      if_pos pursues.counts, Controller.steered, pursues.gait] at taken
  obtain ⟨s, nonneg, le_one, moves, length⟩ := Steering.flat_pursue accelerates.le passes.le
    pursues.counts.1 rfl (rfl : t.wanted g wish = _) rfl
  rw [pursues.rate] at length
  refine ⟨s, nonneg, le_one, steered.trans moves, ?_⟩
  have closer : gap (n + 1) = gap n - s * gap n := by
    unfold gap
    rw [steered.trans moves, Vec3.sub_lerp, Vec3.length_mul, abs_of_nonneg (sub_nonneg.mpr le_one)]
    ring
  rw [closer, ← min_assoc, mul_comm k]
  exact congrArg _ length

end Pursues

/-- What pursuing makes of a velocity, in a run of turns with the same input over a body that is left
alone. Each turn moves the horizontal velocity straight toward the wanted one, and closes the gap by
the least of the gap, the rate, and their product. So the gap shrinks until there is none, and then
stays closed; it falls below any bound, and for a rate of one or more it is closed after as many
turns as the rate goes into the first gap. -/
theorem pursuit_converges {e : Embodied ℝ β} {turns : Nat → Turn ℝ β} {t : Tuning ℝ} {g : Gait}
    {wish : Vec3 ℝ} {contact : Bool} {k : ℝ} (stores : Body.StoresVelocity β)
    (pursues : e.Pursues turns t g wish contact k) :
    let target := t.wanted g wish
    let v := fun n => (e.before turns n).velocity.flat
    let d := fun n => (target - v n).length
    (∀ n, (e.frameAt turns n).controller.velocity.flat = v (n + 1)) ∧
    (∀ n, d (n + 1) = d n - min (d n) (min k (k * d n)) ∧
      ∃ s, 0 ≤ s ∧ s ≤ 1 ∧ v (n + 1) = (v n).lerp target s) ∧
    (∀ n, 0 < d n → d (n + 1) < d n) ∧
    (∀ m n, m ≤ n → d m = 0 → v n = target) ∧
    (∀ ε, 0 < ε → ∃ N, ∀ n, N ≤ n → d n < ε) ∧
    (1 ≤ k → ∀ n, ⌈d 0 / k⌉₊ ≤ n → v n = target) := by
  intro target v d
  have nonneg (n : Nat) : 0 ≤ d n := Vec3.length_nonneg _
  have step (n : Nat) : d (n + 1) = d n - min (d n) (min k (k * d n)) := by
    obtain ⟨-, -, -, -, closer⟩ := pursues.exists_lerp stores n
    exact closer
  refine ⟨fun n => ?_, fun n => ⟨step n, ?_⟩, fun n => gap_lt pursues.pos step,
    fun m n le closed => ?_, fun ε => exists_gap_lt pursues.pos nonneg step,
    fun fast n enough => ?_⟩
  · exact congrArg Vec3.flat (velocity_take stores (pursues.undisturbed n)).symm
  · obtain ⟨s, s_nonneg, le_one, moves, -⟩ := pursues.exists_lerp stores n
    exact ⟨s, s_nonneg, le_one, moves⟩
  · have still := antitone_gap pursues.pos nonneg step le
    exact Vec3.eq_of_length_sub_eq_zero (le_antisymm (still.trans_eq closed) (nonneg n))
  · refine Vec3.eq_of_length_sub_eq_zero ?_
    have turns_le : d 0 / k ≤ n := (Nat.le_ceil _).trans (by exact_mod_cast enough)
    rw [div_le_iff₀ pursues.pos] at turns_le
    exact (gap_eq_max pursues.pos nonneg step fast n).trans (max_eq_left (sub_nonpos.mpr turns_le))

/-- A sprint forward, by a direction that is neither level nor of length one. -/
noncomputable def chase (_ : Nat) : Turn ℝ (Puppet ℝ) where
  change p := { p with onGround := true }
  orders := [.gait .sprint, .direction ⟨0, 3.5, 2.5⟩, .jump]
  dt := 0.25
  tuning := .standard

theorem pursues_chase (e : Embodied ℝ (Puppet ℝ)) :
    e.Pursues chase .standard .sprint ⟨0, 3.5, 2.5⟩ true 2 where
  undisturbed _ := rfl
  tuning _ := rfl
  gait n := by
    change ((e.before chase n).controller.takeAll _).1.gait = _
    rw [Controller.takeAll_eq_fold]
    rfl
  direction n := rfl
  counts := by
    have length : (⟨0, 3.5, 2.5⟩ : Vec3 ℝ).flat.length = 2.5 :=
      Vec3.length_of_sq (by norm_num) (by norm_num)
    constructor
    · rw [length]
      norm_num
    · rw [length]
      norm_num [Tuning.standard]
  onGround _ := rfl
  rate n := by
    have passes : elapsed (chase n).dt = 0.25 :=
      if_pos (isTimestep_real_iff.mpr (by norm_num [chase]))
    rw [passes]
    norm_num [Tuning.accelerationOn, Tuning.standard]
  pos := two_pos

theorem wanted_chase : (Tuning.standard : Tuning ℝ).wanted .sprint ⟨0, 3.5, 2.5⟩ = ⟨0, 0, 9⟩ := by
  have length : (⟨0, 3.5, 2.5⟩ : Vec3 ℝ).flat.length = 2.5 :=
    Vec3.length_of_sq (by norm_num) (by norm_num)
  unfold Tuning.wanted Vec3.normalize
  rw [length]
  ext <;> norm_num [Tuning.standard, Tuning.targetSpeed, Speeds.of, Speeds.standard]

theorem pursuit_converges_chase :
    let e : Embodied ℝ (Puppet ℝ) := ⟨.fresh, false, none, []⟩
    (e.before chase 1).velocity.flat ≠ ⟨0, 0, 9⟩ ∧
      ∀ n, 5 ≤ n → (e.before chase n).velocity.flat = ⟨0, 0, 9⟩ := by
  intro e
  have start : ((⟨0, 0, 9⟩ : Vec3 ℝ) - (e.before chase 0).velocity.flat).length = 9 :=
    Vec3.length_of_sq (by norm_num) (by norm_num [velocity, before, stateAt, e, Body.read,
      Puppet.reading, Controller.fresh, Controller.resting])
  obtain ⟨-, step, -, -, -, reached⟩ :=
    pursuit_converges Puppet.storesVelocity (pursues_chase e)
  obtain ⟨first, -⟩ := step 0
  rw [wanted_chase] at reached first
  dsimp only at reached first
  rw [start] at reached first
  refine ⟨fun early => ?_, fun n le => reached (by norm_num) n ?_⟩
  · rw [early, Vec3.length_of_sq le_rfl (by norm_num)] at first
    norm_num at first
  · have frames : ⌈(9 / 2 : ℝ)⌉₊ = 5 := by
      rw [Nat.ceil_eq_iff (by norm_num)]
      norm_num
    rwa [frames]

end Embodied

end CharacterMotion
