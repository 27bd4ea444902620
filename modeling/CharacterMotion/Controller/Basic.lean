import CharacterMotion.Heading
import CharacterMotion.JumpGate
import CharacterMotion.Tuning
import CharacterMotion.Notice

/-!
The state of a controlled character, and the orders that it takes between two frames. A direction
and a jump are wanted for the next frame only; a gait stays until it is changed.
-/

namespace CharacterMotion

structure Controller (α : Type) where
  gait : Gait
  velocity : Vec3 α
  /-- The direction wanted for the next frame, of any length. -/
  direction : Vec3 α
  heading : Heading α
  gate : JumpGate α
  jumpRequested : Bool
  /-- Ground contact as of the last frame. -/
  onGround : Bool
  /-- The clip as of the last frame. -/
  clip : Clip
  /-- Whether the last frame had input. -/
  wasMoving : Bool
  deriving DecidableEq, Repr

/-- What a character can be told. -/
inductive Order (α : Type) where
  | gait (g : Gait)
  | gaitIndex (i : UInt8)
  | direction (v : Vec3 α)
  | jump
  deriving DecidableEq, Repr

namespace Controller

variable {α : Type} [Scalar α]

/-- At rest, with the given heading and gait. -/
def resting (heading : Heading α) (gait : Gait) : Controller α where
  gait
  velocity := 0
  direction := 0
  heading
  gate := .fresh
  jumpRequested := false
  onGround := false
  clip := .idle
  wasMoving := false

/-- At rest, facing forward, in the default gait. -/
def fresh : Controller α := resting .initial default

instance : Inhabited (Controller α) := ⟨fresh⟩

/-- Horizontal speed. -/
def speed (c : Controller α) : α := c.velocity.flat.length

def targetSpeed (c : Controller α) (t : Tuning α) : α := t.targetSpeed c.gait

/-- Changes the gait. A change to the present gait goes unnoticed. -/
def changeGait (c : Controller α) (g : Gait) : Controller α × List (Notice α) :=
  if c.gait = g then (c, []) else ({ c with gait := g }, [.gaitChanged c.gait g])

/-- Takes one order. An index that no gait has stands for the default gait, with a warning. -/
def take (c : Controller α) : Order α → Controller α × List (Notice α)
  | .gait g => c.changeGait g
  | .gaitIndex i =>
      match Gait.ofIndex? i with
      | some g => c.changeGait g
      | none =>
          let (c, notices) := c.changeGait default
          (c, .gaitIndexRejected i :: notices)
  | .direction v => ({ c with direction := v }, [])
  | .jump => ({ c with jumpRequested := true }, [])

/-- Takes orders one after another. -/
def takeAll (c : Controller α) : List (Order α) → Controller α × List (Notice α)
  | [] => (c, [])
  | o :: os =>
      let (c, first) := c.take o
      let (c, rest) := c.takeAll os
      (c, first ++ rest)

end Controller

end CharacterMotion
