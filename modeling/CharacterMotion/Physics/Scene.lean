import CharacterMotion.Physics.Shape

/-!
The colliders that a ray can meet, the nearest of those that it is allowed to see, and the probe that
looks for it.

A collider stands upright and unscaled, with the origin of its shape at the place of the character
it belongs to: there is one collider to a character, on the character itself, and the orientation of
a body does not turn it.

Bounds are looked at before shapes: first those of the whole scene, then those of each obstacle. The
ray of a probe starts at the centre of the body and ends a tolerance below the bottom of its
collider.
-/

namespace CharacterMotion.Physics

/-- Which colliders a collider has to do with: the groups it belongs to and the groups it looks for,
one bit each. -/
structure Groups where
  memberships : UInt32
  filters : UInt32
  deriving DecidableEq, Repr

namespace Groups

/-- In all groups, looking for all groups. -/
def all : Groups := ⟨0xffffffff, 0xffffffff⟩

instance : Inhabited Groups := ⟨all⟩

/-- Each belongs to a group that the other looks for. -/
def meets (a b : Groups) : Bool :=
  a.memberships &&& b.filters != 0 && b.memberships &&& a.filters != 0

end Groups

/-- A collider in its place: upright, unscaled, and with the origin of its shape at `centre`. -/
structure Obstacle (α : Type) where
  /-- The number of the character it belongs to. -/
  owner : Nat
  /-- Whether it is part of a rigid body of its owner. -/
  ofRigidBody : Bool
  shape : Shape α
  centre : Vec3 α
  /-- Sensors notice others and stop nothing. -/
  sensor : Bool
  groups : Groups
  deriving DecidableEq, Repr

namespace Obstacle

variable {α : Type} [Scalar α]

/-- Whether a ray of the character `prober` sees the obstacle: not if it is a sensor, nor if it is
part of the prober's own body, nor if the prober is in groups that do not meet it. -/
def seenBy (o : Obstacle α) (prober : Nat) (groups? : Option Groups) : Bool :=
  !o.sensor && !(o.ofRigidBody && o.owner == prober) && groups?.all (·.meets o.groups)

def bounds? (o : Obstacle α) : Option (Bounds α) := o.shape.bounds? o.centre

/-- How far below a point the obstacle is met. -/
def below? (o : Obstacle α) (origin : Vec3 α) (reach : α) : Option α :=
  if o.bounds?.all (·.loosen.metBelow origin reach) then
    (o.shape.below? (origin - o.centre) reach).filter Scalar.belowGreatest
  else none

end Obstacle

/-- The obstacles as they stood when the scene was last brought up to date. -/
structure Scene (α : Type) where
  obstacles : List (Obstacle α)
  deriving DecidableEq, Repr

namespace Scene

variable {α : Type} [Scalar α]

def empty : Scene α := ⟨[]⟩

/-- The bounds of all obstacles together, seen or not. There are none if one of them has none. -/
def bounds? (s : Scene α) : Option (Bounds α) :=
  match s.obstacles.map (·.bounds?) with
  | [] => none
  | b? :: bs => bs.foldl Bounds.join? b?

/-- The smaller of two distances, if there is any. -/
def nearer? : Option α → Option α → Option α
  | some a, some b => some (Scalar.smaller a b)
  | some a, none => some a
  | none, other => other

/-- The distance down to the nearest obstacle that the prober sees. -/
def castDown? (s : Scene α) (prober : Nat) (groups? : Option Groups) (origin : Vec3 α) (reach : α) :
    Option α :=
  if s.bounds?.all (·.metBelow origin reach) then
    ((s.obstacles.filter (·.seenBy prober groups?)).map (·.below? origin reach)).foldl nearer? none
  else none

/-- The obstacle of an owner, if it has one. -/
def of? (s : Scene α) (owner : Nat) : Option (Obstacle α) :=
  s.obstacles.find? (·.owner == owner)

end Scene

/-- The downward probe that tells a character whether it stands on something. -/
structure Probe (α : Type) where
  /-- How far below the bottom ground still counts. -/
  tolerance : α
  onGround : Bool
  /-- The distance from the centre to what the ray met last. -/
  hit? : Option α
  deriving DecidableEq, Repr

namespace Probe

variable {α : Type} [Scalar α]

def new (tolerance : α) : Probe α := ⟨tolerance, false, none⟩

def standard : Probe α := new 0.1

instance : Inhabited (Probe α) := ⟨standard⟩

/-- The length of the ray. A negative tolerance counts as none. -/
def reach (p : Probe α) (shape? : Option (Shape α)) : α :=
  (shape?.elim 0 Shape.bottomOffset) + Scalar.nonneg p.tolerance

/-- Takes down what the ray met. -/
def record (p : Probe α) (hit? : Option α) : Probe α :=
  { p with hit?, onGround := hit?.isSome }

end Probe

end CharacterMotion.Physics
