import CharacterMotion.Tuning

/-!
The gate that decides when a jump launches.

A launch needs ground contact, a gate that is ready, and no earlier jump that still waits for its
landing. A frame goes through the gate in three stages: the cooldown runs, then a landing is
noticed, then a requested jump may launch. A landing and the next launch may thus share a frame,
the landing first.
-/

namespace CharacterMotion

structure JumpGate (α : Type) where
  /-- The cooldown of the last launch is over, or a landing has ended it. -/
  ready : Bool
  /-- Time since the last launch, counted while the gate is not ready. -/
  timer : α
  /-- A jump has launched and has not landed yet. -/
  outstanding : Bool
  /-- Ground contact of the frame before. -/
  hadContact : Bool
  deriving DecidableEq, Repr

namespace JumpGate

/-- What one frame brings to the gate. -/
structure Input (α : Type) where
  dt : α
  onGround : Bool
  verticalSpeed : α
  requested : Bool
  deriving DecidableEq, Repr

/-- What one frame made of it. -/
structure Outcome where
  /-- The landing of a jump. -/
  landed : Bool
  launched : Bool
  deriving DecidableEq, Repr

/-- A frame in which nothing happens. -/
def Outcome.quiet : Outcome := ⟨false, false⟩

variable {α : Type} [Scalar α]

/-- Ready, in the air, with nothing outstanding. -/
def fresh : JumpGate α where
  ready := true
  timer := 0
  outstanding := false
  hadContact := false

instance : Inhabited (JumpGate α) := ⟨fresh⟩

def allows (g : JumpGate α) (onGround : Bool) : Bool :=
  onGround && g.ready && !g.outstanding

/-- Runs the cooldown. -/
def cool (g : JumpGate α) (dt cooldown : α) : JumpGate α :=
  if g.ready then g
  else
    let timer := g.timer + dt
    if cooldown ≤ timer then { g with ready := true, timer := 0 } else { g with timer }

/-- Whether the rule sees a landing in the frame. -/
def touchesDown (g : JumpGate α) (i : Input α) : LandingRule → Bool
  | .contactEdge => i.onGround && !g.hadContact
  | .groundedDescending => i.onGround && i.verticalSpeed ≤ 0

/-- A landing ends the jump and the cooldown alike. -/
def land (g : JumpGate α) : JumpGate α :=
  { g with ready := true, timer := 0, outstanding := false }

def launch (g : JumpGate α) : JumpGate α :=
  { g with ready := false, timer := 0, outstanding := true }

/-- One frame. Only a landing that ends a jump is reported. -/
def step (g : JumpGate α) (i : Input α) (cooldown : α) (rule : LandingRule) :
    JumpGate α × Outcome :=
  let cooled := g.cool i.dt cooldown
  let touched := cooled.touchesDown i rule
  let landed := if touched then cooled.land else cooled
  let launched := i.requested && landed.allows i.onGround
  let next := if launched then landed.launch else landed
  ({ next with hadContact := i.onGround }, ⟨touched && cooled.outstanding, launched⟩)

end JumpGate

end CharacterMotion
