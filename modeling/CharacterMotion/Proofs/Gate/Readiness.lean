import CharacterMotion.Proofs.Gate.Run

/-!
Readiness decides nothing. A fresh gate becomes unready by a launch only, which leaves a jump
outstanding, and the landing that ends the jump makes the gate ready in the same stage. So a gate
that is not ready always has a jump outstanding (`readyOrOutstanding_before`), and the outstanding
jump alone already forbids the launch (`ReadyOrOutstanding.allows_eq`).

Two runs that differ in the lengths of frames and in the cooldowns therefore report the same
landings and launches (`outcomeAt_eq`), however far apart their timers are.
-/

namespace CharacterMotion.JumpGate

variable {α : Type}

/-- Only an outstanding jump keeps the gate from being ready. -/
def ReadyOrOutstanding (g : JumpGate α) : Prop := g.ready = false → g.outstanding = true

theorem ReadyOrOutstanding.allows_eq {g : JumpGate α} (held : g.ReadyOrOutstanding)
    (onGround : Bool) : g.allows onGround = (onGround && !g.outstanding) := by
  unfold allows
  cases ready : g.ready with
  | true => rw [Bool.and_true]
  | false => simp [held ready]

attribute [ext] Outcome

/-- Two rounds that differ at most in the length of the frame and in the cooldown. -/
structure Round.Alike (r r' : Round α) : Prop where
  onGround : r'.input.onGround = r.input.onGround
  verticalSpeed : r'.input.verticalSpeed = r.input.verticalSpeed
  requested : r'.input.requested = r.input.requested
  rule : r'.rule = r.rule

/-- Two gates that differ at most in readiness and timer, and of which neither is held back by its
readiness alone. -/
structure Twin (g g' : JumpGate α) : Prop where
  outstanding : g'.outstanding = g.outstanding
  hadContact : g'.hadContact = g.hadContact
  left : g.ReadyOrOutstanding
  right : g'.ReadyOrOutstanding

theorem Twin.eq {g g' : JumpGate α} (twin : g.Twin g') :
    g' = { g with ready := g'.ready, timer := g'.timer } := by
  rw [← twin.outstanding, ← twin.hadContact]

/-! ### What a step keeps -/

variable [Scalar α]

theorem ready_cool {g : JumpGate α} (ready : g.ready = true) (dt cooldown : α) :
    (g.cool dt cooldown).ready = true := by
  rw [cool, if_pos ready]
  exact ready

namespace ReadyOrOutstanding

variable {g : JumpGate α}

protected theorem settle (held : g.ReadyOrOutstanding) (i : Input α) (cooldown : α)
    (rule : LandingRule) : (g.settle i cooldown rule).ReadyOrOutstanding := by
  intro unready
  rw [ready_settle, Bool.or_eq_false_iff] at unready
  obtain ⟨no_touch, uncooled⟩ := unready
  have waiting : g.ready = false :=
    eq_false_of_ne_true fun ready => by rw [ready_cool ready] at uncooled; cases uncooled
  rw [outstanding_settle, no_touch, held waiting]
  rfl

protected theorem step (held : g.ReadyOrOutstanding) (i : Input α) (cooldown : α)
    (rule : LandingRule) : (g.step i cooldown rule).1.ReadyOrOutstanding := by
  rw [step_eq]
  dsimp only
  split
  · exact fun _ => rfl
  · exact held.settle i cooldown rule

/-- A launch is decided by the request, by contact, and by what the landings have left outstanding. -/
protected theorem launched_step (held : g.ReadyOrOutstanding) (i : Input α) (cooldown : α)
    (rule : LandingRule) : (g.step i cooldown rule).2.launched =
      (i.requested && (i.onGround && !(g.outstanding && !g.touchesDown i rule))) := by
  rw [step_eq]
  dsimp only
  rw [(held.settle i cooldown rule).allows_eq, outstanding_settle]

end ReadyOrOutstanding

theorem readyOrOutstanding_before (rounds : Nat → Round α) (n : Nat) :
    ((fresh : JumpGate α).before rounds n).ReadyOrOutstanding := by
  refine stateAt_keeps ReadyOrOutstanding n.zero_le ?_ ?_
  · intro unready
    cases unready
  · intro k _ _ held
    exact held.step _ _ _

/-! ### Two runs -/

theorem twin_fresh : (fresh : JumpGate α).Twin fresh where
  outstanding := rfl
  hadContact := rfl
  left := fun unready => nomatch unready
  right := fun unready => nomatch unready

theorem Twin.touchesDown_eq {g g' : JumpGate α} (twin : g.Twin g') {r r' : Round α}
    (alike : r.Alike r') : g'.touchesDown r'.input r'.rule = g.touchesDown r.input r.rule := by
  rw [alike.rule]
  cases r.rule <;>
    simp only [touchesDown, alike.onGround, alike.verticalSpeed, twin.hadContact]

theorem Twin.outcome_play {g g' : JumpGate α} (twin : g.Twin g') {r r' : Round α}
    (alike : r.Alike r') : (g'.play r').2 = (g.play r).2 := by
  have landed : (g'.play r').2.landed = (g.play r).2.landed := by
    simp only [play, landed_step, twin.touchesDown_eq alike, twin.outstanding]
  have launched : (g'.play r').2.launched = (g.play r).2.launched := by
    simp only [play, twin.left.launched_step, twin.right.launched_step, twin.touchesDown_eq alike,
      twin.outstanding, alike.requested, alike.onGround]
  exact Outcome.ext landed launched

protected theorem Twin.play {g g' : JumpGate α} (twin : g.Twin g') {r r' : Round α}
    (alike : r.Alike r') : (g.play r).1.Twin (g'.play r').1 where
  outstanding := by
    have launched := congrArg Outcome.launched (twin.outcome_play alike)
    simp only [play] at launched ⊢
    rw [outstanding_step, outstanding_step, launched, twin.touchesDown_eq alike, twin.outstanding]
  hadContact := alike.onGround
  left := twin.left.step _ _ _
  right := twin.right.step _ _ _

theorem twin_before {rounds rounds' : Nat → Round α} (alike : ∀ n, (rounds n).Alike (rounds' n))
    (n : Nat) :
    ((fresh : JumpGate α).before rounds n).Twin ((fresh : JumpGate α).before rounds' n) := by
  refine stateAt_couples Twin twin_fresh ?_ n
  intro k _ _ twin
  exact twin.play (alike k)

theorem outcomeAt_eq {rounds rounds' : Nat → Round α} (alike : ∀ n, (rounds n).Alike (rounds' n))
    (n : Nat) : (fresh : JumpGate α).outcomeAt rounds' n = fresh.outcomeAt rounds n :=
  (twin_before alike n).outcome_play (alike n)

end CharacterMotion.JumpGate
