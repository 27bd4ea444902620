import CharacterMotion.Tuning
import CharacterMotion.Vec3

/-!
The physical side of a character as its controller sees it: a reading taken at the start of a frame
and a list of commands given at its end. Some bodies own a velocity, which physics may change
between frames; the velocity of any other body is the controller's alone.
-/

namespace CharacterMotion

/-- What a body reports at the start of a frame. -/
structure Reading (α : Type) where
  onGround : Bool
  /-- The velocity of a body that owns one. -/
  velocity? : Option (Vec3 α)
  deriving DecidableEq, Repr

/-- The reading of what has no body. -/
def Reading.absent {α : Type} : Reading α := ⟨false, none⟩

inductive Command (α : Type) where
  | setYaw (yaw : α)
  | setVelocity (v : Vec3 α)
  /-- Leaves the vertical velocity to physics. -/
  | setHorizontalVelocity (x z : α)
  /-- For the current step. -/
  | applyForce (f : Vec3 α)
  | setClip (c : Clip)
  deriving DecidableEq, Repr

/-- The velocity that a body owns after a command. A body that owns none keeps it that way. -/
def Command.store {α : Type} [Scalar α] : Command α → Option (Vec3 α) → Option (Vec3 α)
  | .setVelocity v, owned => owned.map fun _ => v
  | .setHorizontalVelocity x z, owned => owned.map (·.withHorizontal x z)
  | _, owned => owned

/-- Bodies: what can be read and takes commands. -/
class Body (α : outParam Type) (β : Type) where
  read : β → Reading α
  obey : β → Command α → β

/-- A body without physics, which does what it is told and remembers it. -/
structure Puppet (α : Type) where
  onGround : Bool
  velocity? : Option (Vec3 α)
  /-- The commands so far. -/
  journal : List (Command α)
  deriving DecidableEq, Repr

namespace Puppet

variable {α : Type} [Scalar α]

def ofReading (r : Reading α) : Puppet α := ⟨r.onGround, r.velocity?, []⟩

def reading (p : Puppet α) : Reading α := ⟨p.onGround, p.velocity?⟩

def obey (p : Puppet α) (c : Command α) : Puppet α :=
  { p with velocity? := c.store p.velocity?, journal := p.journal ++ [c] }

instance : Body α (Puppet α) := ⟨reading, obey⟩

end Puppet

/-- A body that may be missing: a missing one reads as in the air and ignores commands. -/
instance {α β : Type} [Body α β] : Body α (Option β) where
  read b := (b.map Body.read).getD .absent
  obey b c := b.map (Body.obey · c)

end CharacterMotion
