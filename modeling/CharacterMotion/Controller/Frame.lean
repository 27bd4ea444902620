import CharacterMotion.Body
import CharacterMotion.Controller.Basic
import CharacterMotion.Controller.Steering

/-!
One frame of a controlled character.

A frame observes the body, moves if time passes, and commits the result: the yaw, the velocity, an
assisting force if there is one, and the clip, in this order and each at most once. What was wanted
of the frame is then forgotten. The commands and notices are returned, and giving them to a body and
to a log is the caller's part.

`advance` accepts any number as the length of the frame and treats a wrong one as zero, with a
warning. `advance?` refuses a wrong one instead.
-/

namespace CharacterMotion

/-- What a frame leaves behind. -/
structure Frame (α : Type) where
  controller : Controller α
  commands : List (Command α)
  notices : List (Notice α)
  deriving DecidableEq, Repr

namespace Controller

variable {α : Type} [Scalar α]

/-- The horizontal part of a wanted direction, if it is long enough to count as input. A direction
of length zero never is, whatever the threshold. -/
def input? (t : Tuning α) (direction : Vec3 α) : Option (Vec3 α) :=
  let length := direction.flat.length
  if 0 < length ∧ t.inputThreshold ≤ length then some direction.flat else none

/-- Takes over what the body reports. -/
def observe (c : Controller α) (r : Reading α) : Controller α :=
  { c with velocity := r.velocity?.getD c.velocity, onGround := r.onGround }

/-- The velocity that enters the jump gate: only a body without a velocity of its own falls here. -/
def fallen (c : Controller α) (dt : α) (t : Tuning α) (r : Reading α) : Vec3 α :=
  if r.velocity?.isNone then Steering.fall t dt r.onGround c.velocity else c.velocity

/-- The velocity after steering. -/
def steered (c : Controller α) (dt : α) (t : Tuning α) (onGround : Bool) (input : Option (Vec3 α))
    (v : Vec3 α) : Vec3 α :=
  match input with
  | some direction =>
      Steering.pursue (t.accelerationOn onGround) (t.targetSpeed c.gait) dt direction v
  | none => Steering.brake t dt onGround v

/-- A frame in which time passes: the vertical velocity and the jump gate, then the horizontal
velocity, then the heading. -/
def move (c : Controller α) (dt : α) (t : Tuning α) (r : Reading α) (input : Option (Vec3 α)) :
    Controller α × JumpGate.Outcome :=
  let before := c.fallen dt t r
  let (gate, outcome) :=
    c.gate.step ⟨dt, r.onGround, before.y, c.jumpRequested⟩ t.jumpCooldown t.landingRule
  let jumped := if outcome.launched then { before with y := t.jumpSpeed } else before
  let velocity := c.steered dt t r.onGround input jumped
  let heading := c.heading.turn velocity dt t.turnRate t.turnModel t.motionThreshold
  ({ c with gate, velocity, heading }, outcome)

/-- The commands of a frame. A body that owns its velocity gets all of it only at a launch. -/
def commands (c : Controller α) (t : Tuning α) (r : Reading α) (launched : Bool)
    (push : Option (Vec3 α)) : List (Command α) :=
  let velocity :=
    if launched || r.velocity?.isNone then .setVelocity c.velocity
    else .setHorizontalVelocity c.velocity.x c.velocity.z
  let assist :=
    match t.assistForce, push with
    | some force, some direction => [.applyForce (direction.normalizeOrZero * force)]
    | _, _ => []
  .setYaw c.heading.yaw :: velocity :: assist ++ [.setClip c.clip]

/-- The notices of a frame in which time may pass. -/
def notices (c : Controller α) (t : Tuning α) (outcome : JumpGate.Outcome)
    (started : Bool) : List (Notice α) :=
  (if outcome.landed then [.landed] else []) ++
  (if outcome.launched then [.launched t.jumpSpeed] else []) ++
  (if started then [.startedMoving c.gait (c.targetSpeed t)] else [])

/-- Forgets what was wanted of the frame. -/
def forget (c : Controller α) : Controller α := { c with direction := 0, jumpRequested := false }

/-- A frame of the length `dt`, which is finite and not negative. -/
def frame (c : Controller α) (dt : α) (t : Tuning α) (r : Reading α) : Frame α :=
  let seen := c.observe r
  let input := input? t c.direction
  let active : Bool := 0 < dt
  let (moved, outcome) := if active then seen.move dt t r input else (seen, .quiet)
  let shown :=
    { moved with clip := Clip.select t r.onGround moved.speed, wasMoving := input.isSome }
  { controller := shown.forget
    commands :=
      shown.commands t r outcome.launched (if active && r.onGround then input else none)
    notices := shown.notices t outcome (input.isSome && !c.wasMoving) }

/-- A frame of any length. -/
def advance (c : Controller α) (dt : α) (t : Tuning α) (r : Reading α) : Frame α :=
  if isTimestep dt then c.frame dt t r
  else
    let empty := c.frame 0 t r
    { empty with notices := .timestepRejected dt :: empty.notices }

/-- A frame of a length that is checked first. -/
def advance? (c : Controller α) (dt : α) (t : Tuning α) (r : Reading α) :
    Except (Fault α) (Frame α) :=
  if !Scalar.isFinite dt || dt < 0 then .error (.timestep dt) else .ok (c.advance dt t r)

end Controller

end CharacterMotion
