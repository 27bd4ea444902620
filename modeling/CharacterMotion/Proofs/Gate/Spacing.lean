import CharacterMotion.Proofs.Binary32.Basic
import CharacterMotion.Proofs.Gate.Run
import Mathlib.Algebra.Order.BigOperators.Group.Finset
import Mathlib.Order.Interval.Finset.Nat

/-!
What keeps two launches apart. Between them lies a landing, and nothing else is sure to: a landing
ends the cooldown together with the jump, so that a request in the very step of the landing launches
again. The time between launches is thus bounded by what bounds the time from a launch to its
landing, and by nothing more (`launch_spacing_iff_landing`). In particular the cooldown is no bound
(`launches_within_cooldown`).
-/

namespace CharacterMotion.JumpGate

/-! ### Launches and landings -/

section

variable {α : Type} [Scalar α] {g : JumpGate α} {rounds : Nat → Round α}

/-- Whether step `n` of a run launches a jump if one is requested in it. -/
def readyAt (g : JumpGate α) (rounds : Nat → Round α) (n : Nat) : Bool :=
  ((g.before rounds n).play { rounds n with
    input := { (rounds n).input with requested := true } }).2.launched

theorem readyAt_eq (g : JumpGate α) (rounds : Nat → Round α) (n : Nat) :
    g.readyAt rounds n = ((rounds n).input.onGround &&
      ((g.before rounds n).touchesDown (rounds n).input (rounds n).rule ||
        ((g.before rounds n).cool (rounds n).input.dt (rounds n).cooldown).ready) &&
      !((g.before rounds n).outstanding &&
        !(g.before rounds n).touchesDown (rounds n).input (rounds n).rule)) := by
  unfold readyAt play
  rw [launched_step, Bool.true_and]
  cases (rounds n).rule <;> rfl

theorem readyAt_of_launched {n : Nat} (launched : (g.outcomeAt rounds n).launched = true) :
    g.readyAt rounds n = true := by
  rw [outcomeAt, play, launched_step, Bool.and_eq_true] at launched
  rw [readyAt_eq]
  exact launched.2

theorem onGround_of_touchesDown {h : JumpGate α} {i : Input α} {rule : LandingRule}
    (touches : h.touchesDown i rule = true) : i.onGround = true := by
  cases rule <;> simp_all [touchesDown]

/-- A landing makes way for a launch in the same step, whatever the cooldown. -/
theorem readyAt_of_landed {n : Nat} (landed : (g.outcomeAt rounds n).landed = true) :
    g.readyAt rounds n = true := by
  rw [outcomeAt, play, landed_step, Bool.and_eq_true] at landed
  rw [readyAt_eq]
  simp [landed.1, onGround_of_touchesDown landed.1]

/-- A launch leaves a jump outstanding, which only a landing can end. -/
theorem exists_landing {i j : Nat} (lt : i < j) (launched : (g.outcomeAt rounds i).launched = true)
    (ready : g.readyAt rounds j = true) :
    ∃ k, i < k ∧ k ≤ j ∧ (g.outcomeAt rounds k).landed = true := by
  by_contra absent
  have no_landing (k : Nat) (after : i < k) (upto : k ≤ j) (outstanding :
      (g.before rounds k).outstanding = true) :
      (g.before rounds k).touchesDown (rounds k).input (rounds k).rule = false := by
    refine eq_false_of_ne_true fun touches => absent ⟨k, after, upto, ?_⟩
    rw [outcomeAt, play, landed_step, touches, outstanding]
    rfl
  have waits : (g.before rounds j).outstanding = true := by
    refine stateAt_keeps (fun g : JumpGate α => g.outstanding = true) (m := i + 1) lt ?_ ?_
    · change ((g.before rounds i).play (rounds i)).1.outstanding = true
      rw [play, outstanding_step]
      exact Bool.or_eq_true_iff.mpr (.inl launched)
    · intro k after earlier outstanding
      have untouched := no_landing k after earlier.le outstanding
      unfold before at untouched
      rw [play, outstanding_step, outstanding, untouched]
      simp
  rw [readyAt_eq, no_landing j lt le_rfl waits, waits] at ready
  simp at ready

end

/-! ### Time -/

/-- The exact time that passes from step `i` to step `j`. -/
def timeBetween (rounds : Nat → Round Float32) (i j : Nat) : ℚ :=
  ∑ k ∈ Finset.Ioc i j, Binary32.value (rounds k).input.dt

variable {rounds : Nat → Round Float32}

theorem timeBetween_le (timesteps : ∀ n, isTimestep (rounds n).input.dt = true) {i k j : Nat}
    (le : k ≤ j) : timeBetween rounds i k ≤ timeBetween rounds i j := by
  refine Finset.sum_le_sum_of_subset_of_nonneg (Finset.Ioc_subset_Ioc_right le) ?_
  intro n _ _
  exact Binary32.value_nonneg_of_isTimestep (timesteps n)

/-- Launches are as far apart as landings are from the launches before them. Two launches have a
landing between them or with the second; and a bound on the time from a launch to the next step in
which a request would launch is the same as a bound on the time to its landings. -/
theorem launch_spacing_iff_landing (g : JumpGate Float32) (rounds : Nat → Round Float32)
    (timesteps : ∀ n, isTimestep (rounds n).input.dt = true) (bound : ℚ) :
    (∀ i j, i < j → (g.outcomeAt rounds i).launched → (g.outcomeAt rounds j).launched →
      ∃ k, i < k ∧ k ≤ j ∧ (g.outcomeAt rounds k).landed ∧
        timeBetween rounds i k ≤ timeBetween rounds i j) ∧
    ((∀ i j, i < j → (g.outcomeAt rounds i).launched → g.readyAt rounds j →
        bound ≤ timeBetween rounds i j) ↔
      ∀ i k, i < k → (g.outcomeAt rounds i).launched → (g.outcomeAt rounds k).landed →
        bound ≤ timeBetween rounds i k) := by
  refine ⟨fun i j lt first second => ?_, fun spaced i k lt first landed => ?_,
    fun late i j lt first ready => ?_⟩
  · obtain ⟨k, after, upto, landed⟩ := exists_landing lt first (readyAt_of_launched second)
    exact ⟨k, after, upto, landed, timeBetween_le timesteps upto⟩
  · exact spaced i k lt first (readyAt_of_landed landed)
  · obtain ⟨k, after, upto, landed⟩ := exists_landing lt first ready
    exact (late i k after first landed).trans (timeBetween_le timesteps upto)

/-- Contact that is missing for one frame of a sixteenth of a second, with a cooldown of 0.15
seconds. -/
def flicker : Nat → Round Float32
  | 0 => ⟨⟨0.0625, true, 0, true⟩, 0.15, .contactEdge⟩
  | 1 => ⟨⟨0.0625, false, 1, false⟩, 0.15, .contactEdge⟩
  | _ => ⟨⟨0.0625, true, -1, true⟩, 0.15, .contactEdge⟩

theorem isTimestep_flicker (n : Nat) : isTimestep (flicker n).input.dt = true := by
  have sixteenth : (flicker n).input.dt = 0.0625 := by
    unfold flicker
    split <;> rfl
  rw [sixteenth]
  decide +kernel

theorem launch_spacing_iff_landing_flicker :
    (fresh.outcomeAt flicker 0).launched ∧ (fresh.outcomeAt flicker 2).launched ∧
      ∃ k, 0 < k ∧ k ≤ 2 ∧ (fresh.outcomeAt flicker k).landed ∧
        timeBetween flicker 0 k ≤ timeBetween flicker 0 2 := by
  have first : (fresh.outcomeAt flicker 0).launched := by decide +kernel
  have second : (fresh.outcomeAt flicker 2).launched := by decide +kernel
  exact ⟨first, second, (launch_spacing_iff_landing fresh flicker isTimestep_flicker 0).1 0 2
    (by decide) first second⟩

/-- Two launches an eighth of a second apart, with a cooldown of 0.15 seconds. -/
theorem launches_within_cooldown :
    (fresh.outcomeAt flicker 0).launched ∧ (fresh.outcomeAt flicker 2).launched ∧
      timeBetween flicker 0 2 = 1 / 8 ∧ 1 / 8 < Binary32.value (flicker 2).cooldown := by
  refine ⟨by decide +kernel, by decide +kernel, by decide +kernel, by decide +kernel⟩

end CharacterMotion.JumpGate
