import CharacterMotion.Gait

/-!
How a character is tuned: the speeds of its gaits, how it speeds up and slows down, how it jumps and
lands, how it turns, and from which speed on which animation plays. Three tunings come ready made.
-/

namespace CharacterMotion

/-- What counts as a landing. -/
inductive LandingRule where
  /-- Contact that the frame before did not have. -/
  | contactEdge
  /-- Any contact while not moving upward. -/
  | groundedDescending
  deriving DecidableEq, Repr

/-- How the share of a turn that one frame makes depends on the length of the frame. -/
inductive TurnModel where
  /-- The rest of the turn decays exponentially, whatever the frames it is cut into. -/
  | exponential
  /-- The share grows in proportion to the frame, up to the whole turn. -/
  | linear
  deriving DecidableEq, Repr

structure Tuning (α : Type) where
  speeds : Speeds α
  /-- Rate at which the gap to the wanted velocity closes (1/s), and the largest acceleration
  (m/s²). -/
  acceleration : α
  /-- Slowing on the ground without input (m/s²), scaled by `groundFriction`. -/
  deceleration : α
  groundFriction : α
  /-- The share of `acceleration` that is left in the air. -/
  airControl : α
  /-- Slowing in the air without input, per squared speed. -/
  airResistance : α
  gravity : α
  /-- Height of the apex of a jump (m). -/
  jumpHeight : α
  /-- Seconds after a launch until the gate is ready again. -/
  jumpCooldown : α
  landingRule : LandingRule
  turnRate : α
  turnModel : TurnModel
  /-- Force along the wanted direction while walking on the ground (N), if there is to be one. -/
  assistForce : Option α
  /-- Least length of a wanted direction that counts as input. -/
  inputThreshold : α
  /-- Greatest horizontal speed that counts as standing. -/
  motionThreshold : α
  /-- The walking animation plays above this multiple of the walking speed. -/
  walkCycleFactor : α
  /-- The running animation plays above this multiple of the walking speed. -/
  runCycleFactor : α
  deriving DecidableEq, Repr

namespace Tuning

variable {α : Type} [Scalar α]

def standard : Tuning α where
  speeds := .standard
  acceleration := 8.0
  deceleration := 12.0
  groundFriction := 0.85
  airControl := 0.3
  airResistance := 0.02
  gravity := 9.81
  jumpHeight := 0.4
  jumpCooldown := 0.15
  landingRule := .contactEdge
  turnRate := 8.0
  turnModel := .exponential
  assistForce := some 500.0
  inputThreshold := 0.1
  motionThreshold := 0.1
  walkCycleFactor := 0.5
  runCycleFactor := 3.0

instance : Inhabited (Tuning α) := ⟨standard⟩

/-- Answers its player promptly. -/
def responsive : Tuning α :=
  { standard with acceleration := 10.0, airControl := 0.4, turnRate := 10.0 }

/-- Slow to start, to stop and to turn. -/
def heavy : Tuning α :=
  { standard with
    acceleration := 4.0
    deceleration := 8.0
    airControl := 0.1
    jumpHeight := 0.25
    turnRate := 4.0
    assistForce := some 800.0 }

/-- The vertical speed that carries a body to `jumpHeight` under `gravity`. -/
def jumpSpeed (t : Tuning α) : α :=
  Scalar.sqrt (2.0 * Scalar.nonneg t.gravity * Scalar.nonneg t.jumpHeight)

def targetSpeed (t : Tuning α) (g : Gait) : α := t.speeds.of g

/-- The acceleration that the contact of the frame leaves. -/
def accelerationOn (t : Tuning α) (onGround : Bool) : α :=
  if onGround then t.acceleration else t.acceleration * t.airControl

end Tuning

/-- The animation that shows how a character moves. -/
inductive Clip where
  | idle
  | walk
  | run
  deriving DecidableEq, Repr

namespace Clip

instance : Inhabited Clip := ⟨.idle⟩

def index : Clip → Nat
  | .idle => 0
  | .walk => 1
  | .run => 2

def isMoving (c : Clip) : Bool := c != .idle

/-- The clip for a horizontal speed. Without ground contact nothing plays, and the two cycles start
above multiples of the walking speed. -/
def select {α : Type} [Scalar α] (t : Tuning α) (onGround : Bool) (speed : α) : Clip :=
  if !onGround || speed ≤ t.motionThreshold then .idle
  else if t.speeds.walk * t.runCycleFactor < speed then .run
  else if t.speeds.walk * t.walkCycleFactor < speed then .walk
  else .idle

end Clip

end CharacterMotion
