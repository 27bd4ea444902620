import CharacterMotion.Physics.Scene
import CharacterMotion.World.Character

/-!
Characters with a physical body.

All parts of a body are optional, and a command reaches the parts that it concerns: the yaw turns
the orientation, a force goes to the ledger or else straight into the external force, and the
velocity is the body's own.

A body has one external force, which others than the controller write too. The ledger remembers the
controller's share of it. Within a step the controller's forces gather as `pending`; at the end of
the step they are added to the external force, and at the start of the next one the same amount is
taken away again.
-/

namespace CharacterMotion.Physics

/-! ### The forces of a controller -/

/-- The controller's share of the external force of a body. -/
structure Ledger (α : Type) where
  /-- Gathered in the present step. -/
  pending : Vec3 α
  /-- The part of the external force that the last step put there. -/
  applied : Vec3 α
  deriving DecidableEq, Repr

namespace Ledger

variable {α : Type} [Scalar α]

def empty : Ledger α := ⟨0, 0⟩

instance : Inhabited (Ledger α) := ⟨empty⟩

def gather (l : Ledger α) (force : Vec3 α) : Ledger α := { l with pending := l.pending + force }

/-- Takes the share of the last step out of the external force. -/
def withdraw (external : Vec3 α) (l : Ledger α) : Vec3 α × Ledger α :=
  (external - l.applied, { l with applied := 0 })

/-- Puts what has been gathered into the external force. -/
def deposit (external : Vec3 α) (l : Ledger α) : Vec3 α × Ledger α :=
  (external + l.pending, ⟨0, l.pending⟩)

end Ledger

/-! ### The parts of a body -/

structure Quaternion (α : Type) where
  x : α
  y : α
  z : α
  w : α
  deriving DecidableEq, Repr

namespace Quaternion

variable {α : Type} [Scalar α]

def identity : Quaternion α := ⟨0, 0, 0, 1⟩

/-- The rotation about the vertical axis. -/
def aboutUp (angle : α) : Quaternion α :=
  let half := angle * 0.5
  ⟨0, Scalar.sin half, 0, Scalar.cos half⟩

end Quaternion

inductive RigidBody where
  | fixed
  | dynamic
  deriving DecidableEq, Repr

/-- Axes that a body cannot move along or turn about, as bits: three for moving, three for
turning. -/
abbrev LockedAxes := UInt8

def LockedAxes.rotations : LockedAxes := 0b111000

/-- The parts of a body. -/
structure Parts (α : Type) where
  position? : Option (Vec3 α)
  orientation? : Option (Quaternion α)
  velocity? : Option (Vec3 α)
  /-- The external force. -/
  force? : Option (Vec3 α)
  ledger? : Option (Ledger α)
  probe? : Option (Probe α)
  shape? : Option (Shape α)
  rigidBody? : Option RigidBody
  sensor : Bool
  groups? : Option Groups
  mass? : Option α
  lockedAxes? : Option LockedAxes
  deriving DecidableEq, Repr

namespace Parts

variable {α : Type}

def empty : Parts α where
  position? := none
  orientation? := none
  velocity? := none
  force? := none
  ledger? := none
  probe? := none
  shape? := none
  rigidBody? := none
  sensor := false
  groups? := none
  mass? := none
  lockedAxes? := none

instance : Inhabited (Parts α) := ⟨empty⟩

/-- Contact is what the probe found last, and there is none without a probe. -/
def reading (p : Parts α) : Reading α where
  onGround := p.probe?.any (·.onGround)
  velocity? := p.velocity?

variable [Scalar α]

/-- Adds a force for the current step. -/
def push (p : Parts α) (force : Vec3 α) : Parts α :=
  match p.ledger? with
  | some ledger => { p with ledger? := some (ledger.gather force) }
  | none => { p with force? := p.force?.map (· + force) }

def obey (p : Parts α) : Command α → Parts α
  | .setYaw yaw => { p with orientation? := p.orientation?.map fun _ => .aboutUp yaw }
  | .applyForce force => p.push force
  | command => { p with velocity? := command.store p.velocity? }

instance : Body α (Parts α) := ⟨reading, obey⟩

/-- Puts the body in a place, upright. -/
def place (p : Parts α) (position : Vec3 α) : Parts α :=
  { p with position? := some position, orientation? := some .identity }

/-- Applies one of the rules of the ledger to a body that has both an external force and a
ledger. -/
def balance (p : Parts α) (rule : Vec3 α → Ledger α → Vec3 α × Ledger α) : Parts α :=
  match p.force?, p.ledger? with
  | some force, some ledger =>
      let (force, ledger) := rule force ledger
      { p with force? := some force, ledger? := some ledger }
  | _, _ => p

/-- The obstacle that a body is to others, if it has a collider, given the one that it was before. It
stands upright, whatever the orientation of the body. A body that was never placed is at the origin.

Whether a collider is part of a rigid body is settled when it comes into the scene. One that came
without a rigid body and whose owner has one now is moved by neither, and stays where it was. -/
def obstacle? (p : Parts α) (owner : Nat) (before? : Option (Obstacle α)) :
    Option (Obstacle α) :=
  p.shape?.map fun shape =>
    let place := p.position?.getD 0
    { owner
      ofRigidBody := before?.elim p.rigidBody?.isSome (·.ofRigidBody)
      shape
      centre := before?.elim place fun before =>
        if before.ofRigidBody || p.rigidBody?.isNone then place else before.centre
      sensor := p.sensor
      groups := p.groups?.getD .all }

/-- Looks down from the present position. Without a probe or a place nothing is looked for. -/
def sense (p : Parts α) (scene : Scene α) (owner : Nat) : Parts α :=
  match p.probe?, p.position? with
  | some probe, some position =>
      let hit? := scene.castDown? owner p.groups? position (probe.reach p.shape?)
      { p with probe? := some (probe.record hit?) }
  | _, _ => p

/-- The body of a character under control: it moves freely, does not tip over, and weighs 70 kg. -/
def equip (p : Parts α) (probe : Probe α) (mass : α) : Parts α :=
  { p with
    probe? := some probe
    ledger? := some .empty
    rigidBody? := some .dynamic
    velocity? := some 0
    force? := some 0
    lockedAxes? := some .rotations
    mass? := some mass }

def standardMass : α := 70.0

end Parts

end CharacterMotion.Physics

namespace CharacterMotion

/-- Makes a character ready to be controlled: a fresh controller, an idle animation, and a body to
match. What it is and where it is are not touched. -/
def Character.equip {α : Type} [Scalar α] (c : Character α (Physics.Parts α))
    (probe : Physics.Probe α) (mass : α) : Character α (Physics.Parts α) :=
  { c with
    controller? := some .fresh
    animation? := some (.new .idle)
    body := c.body.equip probe mass }

end CharacterMotion
