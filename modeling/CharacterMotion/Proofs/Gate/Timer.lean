import CharacterMotion.Binary32.Scalar
import CharacterMotion.Proofs.Gate.Run
import Mathlib.Data.List.Intervals

/-!
What the timer of a gate tells of the run so far. A ready gate has its timer at zero, and only a
launch makes a gate unready. From then on the timer adds up the lengths of the frames, until a step
frees the gate: by a landing, or because the sum reaches the cooldown of that step
(`timer_counts_from_last_launch`).

The readiness and the timer together are a stopwatch that runs or does not run (`stopwatch?`). What
a step does to it is one equation (`stopwatch?_step`), so that it does not matter how often the
three stages of a step set the timer to zero. The history of the run is told from its launches and
from what its steps are given (`HeldSince`), and the stopwatch runs exactly while a launch holds the
gate (`HeldSince.stopwatch?_before`, `exists_heldSince`).
-/

namespace CharacterMotion.JumpGate

variable {α : Type}

/-! ### The stopwatch -/

/-- The time counted since the last launch, as long as it is counted. -/
def stopwatch? (g : JumpGate α) : Option α := if g.ready then none else some g.timer

theorem stopwatch?_eq_some_iff {g : JumpGate α} {time : α} :
    g.stopwatch? = some time ↔ g.ready = false ∧ g.timer = time := by
  unfold stopwatch?
  cases g.ready <;> simp

variable [Scalar α]

theorem stopwatch?_cool (g : JumpGate α) (dt cooldown : α) :
    (g.cool dt cooldown).stopwatch? = g.stopwatch?.bind fun time =>
      if cooldown ≤ time + dt then none else some (time + dt) := by
  unfold cool stopwatch?
  cases state : g.ready with
  | true => simp [state]
  | false =>
      by_cases reached : cooldown ≤ g.timer + dt
      · simp [reached]
      · simp [reached]

/-- A launch starts the stopwatch, a landing without one stops it, and else the cooldown does. -/
theorem stopwatch?_step (g : JumpGate α) (i : Input α) (cooldown : α) (rule : LandingRule) :
    (g.step i cooldown rule).1.stopwatch? =
      if (g.step i cooldown rule).2.launched then some 0
      else if g.touchesDown i rule then none
      else (g.cool i.dt cooldown).stopwatch? := by
  rw [step_eq]
  dsimp only
  by_cases launched : (i.requested && (g.settle i cooldown rule).allows i.onGround) = true
  · rw [if_pos launched, if_pos launched]
    rfl
  · rw [if_neg launched, if_neg launched]
    unfold settle
    split <;> rfl

/-- Nothing launches while the stopwatch runs on without a landing. -/
theorem not_launched_of_stopwatch? {g : JumpGate α} {i : Input α} {cooldown : α}
    {rule : LandingRule} (untouched : g.touchesDown i rule = false) {time : α}
    (runs : (g.cool i.dt cooldown).stopwatch? = some time) :
    (g.step i cooldown rule).2.launched = false := by
  obtain ⟨unready, -⟩ := stopwatch?_eq_some_iff.mp runs
  rw [launched_step, untouched, unready]
  simp

/-! ### The timer of a ready gate -/

/-- A stopwatch that does not run shows zero. -/
def Rested (g : JumpGate α) : Prop := g.ready = true → g.timer = 0

theorem Rested.cool {g : JumpGate α} (rested : g.Rested) (dt cooldown : α) :
    (g.cool dt cooldown).Rested := by
  unfold JumpGate.cool
  split
  · exact rested
  · rename_i unready
    dsimp only
    split
    · exact fun _ => rfl
    · exact fun ready => absurd ready unready

theorem Rested.step {g : JumpGate α} (rested : g.Rested) (i : Input α) (cooldown : α)
    (rule : LandingRule) : (g.step i cooldown rule).1.Rested := by
  have settled : (g.settle i cooldown rule).Rested := by
    unfold settle
    split
    · exact fun _ => rfl
    · exact rested.cool i.dt cooldown
  rw [step_eq]
  dsimp only
  split
  · exact fun ready => nomatch ready
  · exact settled

theorem rested_before (rounds : Nat → Round α) (n : Nat) :
    ((fresh : JumpGate α).before rounds n).Rested := by
  refine stateAt_keeps Rested n.zero_le (fun _ => rfl) ?_
  intro k _ _ rested
  exact rested.step _ _ _

/-! ### The history of a run -/

/-- The lengths of the frames from step `m` up to step `n`, added up from left to right. -/
def timeFrom (rounds : Nat → Round α) (m n : Nat) : α :=
  ((List.Ico m n).map fun k => (rounds k).input.dt).foldl (· + ·) 0

theorem timeFrom_self (rounds : Nat → Round α) (m : Nat) : timeFrom rounds m m = 0 := by
  rw [timeFrom, List.Ico.self_empty]
  rfl

theorem timeFrom_succ (rounds : Nat → Round α) {m n : Nat} (le : m ≤ n) :
    timeFrom rounds m (n + 1) = timeFrom rounds m n + (rounds n).input.dt := by
  rw [timeFrom, List.Ico.succ_top le, List.map_append, List.foldl_append]
  rfl

/-- Contact in the step before step `n`. Before the first step there is none. -/
def contactBefore (rounds : Nat → Round α) : Nat → Bool
  | 0 => false
  | n + 1 => (rounds n).input.onGround

/-- Whether the rule of step `n` sees a landing in it. -/
def landsAt (rounds : Nat → Round α) (n : Nat) : Bool :=
  (rounds n).input.onGround &&
    match (rounds n).rule with
    | .contactEdge => !contactBefore rounds n
    | .groundedDescending => (rounds n).input.verticalSpeed ≤ 0

theorem hadContact_before (rounds : Nat → Round α) (n : Nat) :
    ((fresh : JumpGate α).before rounds n).hadContact = contactBefore rounds n := by
  cases n <;> rfl

theorem touchesDown_before (rounds : Nat → Round α) (n : Nat) :
    ((fresh : JumpGate α).before rounds n).touchesDown (rounds n).input (rounds n).rule =
      landsAt rounds n := by
  unfold touchesDown landsAt
  rw [hadContact_before]
  cases (rounds n).rule <;> rfl

/-- Whether a jump launches in step `n` of the run of a fresh gate. -/
def launchesAt (rounds : Nat → Round α) (n : Nat) : Bool :=
  ((fresh : JumpGate α).outcomeAt rounds n).launched

/-- A landing in step `k`, or as much time since step `i` as the cooldown of step `k` asks for. -/
def Frees (rounds : Nat → Round α) (i k : Nat) : Prop :=
  landsAt rounds k = true ∨ (rounds k).cooldown ≤ timeFrom rounds (i + 1) (k + 1)

/-- Step `i` launches, and no step from there up to step `n` frees the gate. -/
structure HeldSince (rounds : Nat → Round α) (i n : Nat) : Prop where
  lt : i < n
  launches : launchesAt rounds i = true
  held : ∀ k, i < k → k < n → ¬ Frees rounds i k

section

variable {rounds : Nat → Round α} {i k n : Nat}

theorem HeldSince.mono (held : HeldSince rounds i n) (after : i < k) (upto : k ≤ n) :
    HeldSince rounds i k :=
  ⟨after, held.launches, fun l from_i before => held.held l from_i (before.trans_le upto)⟩

/-- The stopwatch in step `n`, told from the history of the run. -/
theorem stopwatch?_before_succ (rounds : Nat → Round α) (n : Nat) :
    ((fresh : JumpGate α).before rounds (n + 1)).stopwatch? =
      if launchesAt rounds n then some 0
      else if landsAt rounds n then none
      else ((fresh : JumpGate α).before rounds n).stopwatch?.bind fun time =>
        if (rounds n).cooldown ≤ time + (rounds n).input.dt then none
        else some (time + (rounds n).input.dt) := by
  rw [← touchesDown_before, ← stopwatch?_cool]
  exact stopwatch?_step ..

/-- A step that does not free the gate launches nothing, and the stopwatch goes on. -/
theorem stopwatch?_succ_of_not_frees (lt : i < n)
    (runs : ((fresh : JumpGate α).before rounds n).stopwatch? = some (timeFrom rounds (i + 1) n))
    (holds : ¬ Frees rounds i n) :
    launchesAt rounds n = false ∧ ((fresh : JumpGate α).before rounds (n + 1)).stopwatch? =
      some (timeFrom rounds (i + 1) (n + 1)) := by
  obtain ⟨unlanded, short⟩ := not_or.mp holds
  rw [Bool.not_eq_true] at unlanded
  rw [timeFrom_succ rounds lt] at short ⊢
  have cooled : (((fresh : JumpGate α).before rounds n).cool (rounds n).input.dt
      (rounds n).cooldown).stopwatch? =
        some (timeFrom rounds (i + 1) n + (rounds n).input.dt) := by
    rw [stopwatch?_cool, runs, Option.bind_some, if_neg short]
  have waits : launchesAt rounds n = false := by
    rw [← touchesDown_before] at unlanded
    exact not_launched_of_stopwatch? unlanded cooled
  refine ⟨waits, ?_⟩
  rw [stopwatch?_before_succ, waits, unlanded, ← stopwatch?_cool]
  exact cooled

/-- While a launch holds the gate, the stopwatch shows the time since then. -/
theorem HeldSince.stopwatch?_before (held : HeldSince rounds i n) :
    ((fresh : JumpGate α).before rounds n).stopwatch? = some (timeFrom rounds (i + 1) n) := by
  induction n, held.lt using Nat.le_induction with
  | base => rw [stopwatch?_before_succ, held.launches, timeFrom_self, if_pos rfl]
  | succ n lt ih =>
      have runs := ih (held.mono lt n.le_succ)
      exact (stopwatch?_succ_of_not_frees lt runs (held.held n lt n.lt_succ_self)).2

/-- While a launch holds the gate, nothing else launches. -/
theorem HeldSince.not_launchesAt (held : HeldSince rounds i n) (after : i < k) (before : k < n) :
    launchesAt rounds k = false :=
  (stopwatch?_succ_of_not_frees after (held.mono after before.le).stopwatch?_before
    (held.held k after before)).1

theorem HeldSince.succ (held : HeldSince rounds i n) (holds : ¬ Frees rounds i n) :
    HeldSince rounds i (n + 1) := by
  refine ⟨held.lt.trans n.lt_succ_self, held.launches, fun k after before => ?_⟩
  rcases Nat.lt_succ_iff_lt_or_eq.mp before with earlier | rfl
  · exact held.held k after earlier
  · exact holds

/-- A stopwatch that goes on without a launch has not been stopped. -/
theorem HeldSince.not_frees (held : HeldSince rounds i n) (waits : launchesAt rounds n = false)
    {time : α} (runs : ((fresh : JumpGate α).before rounds (n + 1)).stopwatch? = some time) :
    ¬ Frees rounds i n := by
  rw [stopwatch?_before_succ, waits, held.stopwatch?_before, Option.bind_some,
    ← timeFrom_succ rounds held.lt] at runs
  rintro (lands | reached)
  · simp [lands] at runs
  · simp [reached] at runs

/-- A stopwatch that runs was started by a launch that still holds the gate. -/
theorem exists_heldSince {time : α}
    (runs : ((fresh : JumpGate α).before rounds n).stopwatch? = some time) :
    ∃ i, HeldSince rounds i n := by
  -- The last step started the stopwatch, or it ran before that step.
  induction n generalizing time with
  | zero => cases runs
  | succ n ih =>
      cases launches : launchesAt rounds n with
      | true =>
          exact ⟨n, n.lt_succ_self, launches, fun k after before =>
            absurd (Nat.lt_succ_iff.mp before) after.not_ge⟩
      | false =>
          cases ran : ((fresh : JumpGate α).before rounds n).stopwatch? with
          | none => simp [stopwatch?_before_succ, launches, ran] at runs
          | some earlier =>
              obtain ⟨i, held⟩ := ih ran
              exact ⟨i, held.succ (held.not_frees launches runs)⟩

/-- What holds a gate that is not ready is the last launch. -/
theorem heldSince_of_last (lt : i < n) (launches : launchesAt rounds i = true)
    (last : ∀ k, i < k → k < n → launchesAt rounds k = false)
    (unready : ((fresh : JumpGate α).before rounds n).ready = false) : HeldSince rounds i n := by
  obtain ⟨j, held⟩ := exists_heldSince (stopwatch?_eq_some_iff.mpr ⟨unready, rfl⟩)
  rcases Nat.lt_trichotomy i j with earlier | rfl | later
  · exact absurd held.launches (ne_true_of_eq_false (last j earlier held.lt))
  · exact held
  · exact absurd launches (ne_true_of_eq_false (held.not_launchesAt later lt))

end

/-- What readiness and timer tell in the run of a fresh gate. The timer of a ready gate is zero. If
the gate is not ready, a jump has launched, and from the last launch on no step has freed the gate
and the timer is the sum of the lengths of the frames since then. So a launch keeps the gate from
being ready exactly until the first step that frees it; in that step another jump may launch, and
holds the gate from then on. -/
theorem timer_counts_from_last_launch (rounds : Nat → Round α) (n : Nat) :
    let g := (fresh : JumpGate α).before rounds n
    (g.ready = true → g.timer = 0) ∧
    (g.ready = false → ∃ i < n, launchesAt rounds i = true ∧
      (∀ k, i < k → k < n → launchesAt rounds k = false ∧ ¬ Frees rounds i k) ∧
      g.timer = timeFrom rounds (i + 1) n) ∧
    ∀ i < n, launchesAt rounds i = true →
      ((g.ready = false ∧ ∀ k, i < k → k < n → launchesAt rounds k = false) ↔
        ∀ k, i < k → k < n → ¬ Frees rounds i k) := by
  intro g
  refine ⟨rested_before rounds n, fun unready => ?_, fun i lt launches => ⟨?_, fun holds => ?_⟩⟩
  · obtain ⟨i, held⟩ := exists_heldSince (stopwatch?_eq_some_iff.mpr ⟨unready, rfl⟩)
    obtain ⟨-, timer⟩ := stopwatch?_eq_some_iff.mp held.stopwatch?_before
    refine ⟨i, held.lt, held.launches, fun k after before => ?_, timer⟩
    exact ⟨held.not_launchesAt after before, held.held k after before⟩
  · rintro ⟨unready, last⟩
    exact (heldSince_of_last lt launches last unready).held
  · have held : HeldSince rounds i n := ⟨lt, launches, holds⟩
    obtain ⟨unready, -⟩ := stopwatch?_eq_some_iff.mp held.stopwatch?_before
    exact ⟨unready, fun k after before => held.not_launchesAt after before⟩

/-- A jump from the ground and then no contact, with a cooldown that is short at first. -/
def climb (n : Nat) : Round Float32 :=
  ⟨⟨0.25, n == 0, 1, n == 0⟩, if n < 2 then 0.3 else 0.6,
    if n % 2 = 0 then .contactEdge else .groundedDescending⟩

theorem timer_counts_from_last_launch_climb :
    (∃ i < 3, launchesAt climb i = true ∧
      (∀ k, i < k → k < 3 → launchesAt climb k = false ∧ ¬ Frees climb i k) ∧
      (fresh.before climb 3).timer = timeFrom climb (i + 1) 3) ∧
    (fresh.before climb 3).timer = 0.5 ∧ (fresh.before climb 4).timer = 0 ∧
    ¬ ∀ k, 0 < k → k < 4 → ¬ Frees climb 0 k := by
  have launches : launchesAt climb 0 = true := by decide +kernel
  have unready : (fresh.before climb 3).ready = false := by decide +kernel
  have ready : (fresh.before climb 4).ready = true := by decide +kernel
  refine ⟨(timer_counts_from_last_launch climb 3).2.1 unready, by decide +kernel,
    (timer_counts_from_last_launch climb 4).1 ready, fun holds => ?_⟩
  obtain ⟨held, -⟩ :=
    ((timer_counts_from_last_launch climb 4).2.2 0 (by decide) launches).mpr holds
  exact Bool.false_ne_true (held.symm.trans ready)

end CharacterMotion.JumpGate
