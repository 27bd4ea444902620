import CharacterMotion.Physics.Character
import CharacterMotion.World.Step

/-!
A world of physical characters, with the scene that their probes look at.

The step of the world is framed by the physical phases: the forces of the last step are withdrawn
and the probes look down before intents are passed on, and the forces of this step are deposited
after the controllers have run. Probes see the scene as it was when it was last brought up to date;
the character itself is always where it is.
-/

namespace CharacterMotion.Physics

structure Space (α : Type) where
  world : World α (Parts α)
  /-- The scene, if probes have one to look at. -/
  scene? : Option (Scene α)

namespace Space

variable {α : Type} [Scalar α]

/-- Changes one character. -/
def modify (s : Space α) (id : Nat)
    (f : Character α (Parts α) → Character α (Parts α)) : Space α :=
  { s with world := s.world.modify id f }

/-- Changes all bodies, by a rule that may look at the number of the character. -/
def mapBodies (s : Space α) (f : Nat → Parts α → Parts α) : Space α :=
  { s with
    world := { s.world with
      roster := s.world.roster.mapIdx fun id c => { c with body := f id c.body } } }

/-- A phase of the world. -/
def inWorld (phase : Phase (World α (Parts α)) (Notice α)) : Phase (Space α) (Notice α) := fun s =>
  let (world, notices) := phase s.world
  ({ s with world }, notices)

/-- Brings the scene, if there is one, up to date with all colliders. -/
def sync (s : Space α) : Space α :=
  { s with
    scene? := s.scene?.map fun before =>
      ⟨s.world.roster.entries.filterMap fun (id, c) => c.body.obstacle? id (before.of? id)⟩ }

/-! ### The physical phases -/

def withdrawForces : Phase (Space α) (Notice α) :=
  Phase.silent fun s => s.mapBodies fun _ body => body.balance Ledger.withdraw

/-- Without a scene the probes stay as they are. -/
def senseGround : Phase (Space α) (Notice α) :=
  Phase.silent fun s =>
    match s.scene? with
    | some scene => s.mapBodies fun id body => body.sense scene id
    | none => s

def depositForces : Phase (Space α) (Notice α) :=
  Phase.silent fun s => s.mapBodies fun _ body => body.balance Ledger.deposit

/-- One step of the space. -/
def tick : Phase (Space α) (Notice α) :=
  Phase.sequence [withdrawForces, senseGround, inWorld World.tick, depositForces]

end Space

end CharacterMotion.Physics
