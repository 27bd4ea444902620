import Mathlib.Order.Basic
import Mathlib.Order.Nat

/-!
Runs of a machine. A run is given by the state it starts in and by the input of each of its steps.
The inputs go on without end, so that a finite run is a beginning of many; what is said of all
steps of these runs is said of all finite ones.

* `stateAt_keeps`: what a state has and every step from it on keeps, all later states have.
* `stateAt_couples`: how two runs stand to each other at first, and after every pair of steps, they
  always do.
* `Latch.exists_release_between`: between two occurrences of an event that a latch guards there is
  an input that releases the latch.
-/

namespace CharacterMotion

variable {σ ι : Type}

/-- The state before step `n` of the run that starts in `s` and takes `inputs n` at step `n`. -/
def stateAt (step : σ → ι → σ) (s : σ) (inputs : Nat → ι) : Nat → σ
  | 0 => s
  | n + 1 => step (stateAt step s inputs n) (inputs n)

/-- A property that some state of a run has, and that the steps from there on keep. -/
theorem stateAt_keeps {step : σ → ι → σ} {s : σ} {inputs : Nat → ι} (holds : σ → Prop)
    {m n : Nat} (le : m ≤ n) (start : holds (stateAt step s inputs m))
    (keeps : ∀ k, m ≤ k → k < n → holds (stateAt step s inputs k) →
      holds (step (stateAt step s inputs k) (inputs k))) :
    holds (stateAt step s inputs n) := by
  induction n, le using Nat.le_induction with
  | base => exact start
  | succ n le ih =>
      have before := ih fun k from_m lt => keeps k from_m (Nat.lt_succ_of_lt lt)
      exact keeps n le (Nat.lt_succ_self n) before

/-- The state after `n` steps, each of which follows a change from outside. -/
def interleave (step : σ → σ) (changes : Nat → σ → σ) (s : σ) (n : Nat) : σ :=
  stateAt (fun s change => step (change s)) s changes n

/-- A relation between two runs that every pair of steps keeps. The inputs need to be matched only
step by step, and the runs may be of different machines. -/
theorem stateAt_couples {σ' ι' : Type} {step : σ → ι → σ} {step' : σ' → ι' → σ'}
    (coupled : σ → σ' → Prop) {s : σ} {s' : σ'} (start : coupled s s') {inputs : Nat → ι}
    {inputs' : Nat → ι'}
    (keeps : ∀ n s s', coupled s s' → coupled (step s (inputs n)) (step' s' (inputs' n)))
    (n : Nat) : coupled (stateAt step s inputs n) (stateAt step' s' inputs' n) := by
  induction n with
  | zero => exact start
  | succ n ih => exact keeps n _ _ ih

/-- A condition on states that guards an event: once the event has happened the condition holds,
and while it holds only a releasing input can end it, not let the event happen. The laws need to
hold for `admitted` inputs only. -/
structure Latch (step : σ → ι → σ) (admitted : ι → Prop) (event : σ → ι → Prop)
    (releases : ι → Prop) (held : σ → Prop) : Prop where
  sets : ∀ s i, admitted i → event s i → held (step s i)
  not_released : ∀ s i, admitted i → event s i → ¬ releases i
  blocks : ∀ s i, admitted i → held s → ¬ releases i → ¬ event s i
  keeps : ∀ s i, admitted i → held s → ¬ releases i → held (step s i)

/-- Between two events there is a release. -/
theorem Latch.exists_release_between {step : σ → ι → σ} {admitted releases : ι → Prop}
    {event : σ → ι → Prop} {held : σ → Prop} (latch : Latch step admitted event releases held)
    {s : σ} {inputs : Nat → ι} (admits : ∀ n, admitted (inputs n)) {i j : Nat} (lt : i < j)
    (first : event (stateAt step s inputs i) (inputs i))
    (second : event (stateAt step s inputs j) (inputs j)) :
    ∃ k, i < k ∧ k < j ∧ releases (inputs k) := by
  by_contra absent
  have closed : ∀ k, i < k → k < j → ¬ releases (inputs k) :=
    fun k after before released => absent ⟨k, after, before, released⟩
  have held_j : held (stateAt step s inputs j) := by
    refine stateAt_keeps held (m := i + 1) lt (latch.sets _ _ (admits i) first) ?_
    intro k after before held
    exact latch.keeps _ _ (admits k) held (closed k after before)
  exact latch.blocks _ _ (admits j) held_j (latch.not_released _ _ (admits j) second) second

end CharacterMotion
