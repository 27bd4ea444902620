import CharacterMotion.JumpGate
import CharacterMotion.Proofs.Run

/-!
Runs of the jump gate, and what one step does to each part of it.

The equations below say of each part of a step what it is in terms of the gate before the step and
of the frame: a launch needs a request, contact, and either a touchdown of the same frame or a
ready gate with nothing outstanding (`launched_step`); a jump is outstanding after a step if the
step launched it or did not touch down (`outstanding_step`). Of the cooldown they say nothing more
than that it concerns readiness and timer only.
-/

namespace CharacterMotion.JumpGate

/-- What one step of a run is given: a frame, and the cooldown and the rule then in force. -/
structure Round (α : Type) where
  input : Input α
  cooldown : α
  rule : LandingRule
  deriving DecidableEq, Repr

variable {α : Type} [Scalar α]

def play (g : JumpGate α) (r : Round α) : JumpGate α × Outcome := g.step r.input r.cooldown r.rule

/-- The gate before step `n` of a run. -/
def before (g : JumpGate α) (rounds : Nat → Round α) (n : Nat) : JumpGate α :=
  stateAt (fun g r => (g.play r).1) g rounds n

/-- What step `n` of a run made of its frame. -/
def outcomeAt (g : JumpGate α) (rounds : Nat → Round α) (n : Nat) : Outcome :=
  ((g.before rounds n).play (rounds n)).2

/-! ### The parts of a step -/

@[simp] theorem outstanding_cool (g : JumpGate α) (dt cooldown : α) :
    (g.cool dt cooldown).outstanding = g.outstanding := by
  unfold cool
  split
  · rfl
  · dsimp only
    split <;> rfl

@[simp] theorem hadContact_cool (g : JumpGate α) (dt cooldown : α) :
    (g.cool dt cooldown).hadContact = g.hadContact := by
  unfold cool
  split
  · rfl
  · dsimp only
    split <;> rfl

@[simp] theorem touchesDown_cool (g : JumpGate α) (dt cooldown : α) (i : Input α)
    (rule : LandingRule) : (g.cool dt cooldown).touchesDown i rule = g.touchesDown i rule := by
  cases rule <;> simp [touchesDown]

/-- The gate of a step between landing and launch. -/
def settle (g : JumpGate α) (i : Input α) (cooldown : α) (rule : LandingRule) : JumpGate α :=
  if g.touchesDown i rule then (g.cool i.dt cooldown).land else g.cool i.dt cooldown

theorem outstanding_settle (g : JumpGate α) (i : Input α) (cooldown : α) (rule : LandingRule) :
    (g.settle i cooldown rule).outstanding = (g.outstanding && !g.touchesDown i rule) := by
  cases touched : g.touchesDown i rule <;> simp [settle, land, touched]

theorem ready_settle (g : JumpGate α) (i : Input α) (cooldown : α) (rule : LandingRule) :
    (g.settle i cooldown rule).ready =
      (g.touchesDown i rule || (g.cool i.dt cooldown).ready) := by
  cases touched : g.touchesDown i rule <;> simp [settle, land, touched]

/-- A step settles the gate, launches if it can, and remembers the contact. -/
theorem step_eq (g : JumpGate α) (i : Input α) (cooldown : α) (rule : LandingRule) :
    g.step i cooldown rule =
      let settled := g.settle i cooldown rule
      let launched := i.requested && settled.allows i.onGround
      ({ (if launched then settled.launch else settled) with hadContact := i.onGround },
        ⟨g.touchesDown i rule && g.outstanding, launched⟩) := by
  simp [step, settle]

theorem hadContact_step (g : JumpGate α) (i : Input α) (cooldown : α) (rule : LandingRule) :
    (g.step i cooldown rule).1.hadContact = i.onGround := rfl

theorem landed_step (g : JumpGate α) (i : Input α) (cooldown : α) (rule : LandingRule) :
    (g.step i cooldown rule).2.landed = (g.touchesDown i rule && g.outstanding) := by
  rw [step_eq]

theorem launched_step (g : JumpGate α) (i : Input α) (cooldown : α) (rule : LandingRule) :
    (g.step i cooldown rule).2.launched = (i.requested && (i.onGround &&
      (g.touchesDown i rule || (g.cool i.dt cooldown).ready) &&
      !(g.outstanding && !g.touchesDown i rule))) := by
  rw [step_eq]
  simp only [allows, ready_settle, outstanding_settle]

theorem outstanding_step (g : JumpGate α) (i : Input α) (cooldown : α) (rule : LandingRule) :
    (g.step i cooldown rule).1.outstanding =
      ((g.step i cooldown rule).2.launched || (g.outstanding && !g.touchesDown i rule)) := by
  rw [step_eq]
  dsimp only
  split
  · rename_i launched
    simp [launch, launched]
  · rename_i waits
    rw [eq_false_of_ne_true waits, outstanding_settle, Bool.false_or]

end CharacterMotion.JumpGate
