import CharacterMotion.Gait
import CharacterMotion.Vec3

/-!
What an input source wants of a character. The direction is held until it is written again; a jump
and a change of gait are wanted once and are gone when they are taken.
-/

namespace CharacterMotion

structure Intent (α : Type) where
  direction : Vec3 α
  jump : Bool
  gait? : Option Gait
  deriving DecidableEq, Repr

namespace Intent

/-- What an input source may write. -/
inductive Write (α : Type) where
  | clear
  | setDirection (v : Vec3 α)
  | addDirection (v : Vec3 α)
  | clearDirection
  | jump
  | gait (g : Gait)
  deriving DecidableEq, Repr

variable {α : Type} [Scalar α]

/-- Nothing is wanted. -/
def empty : Intent α := ⟨0, false, none⟩

instance : Inhabited (Intent α) := ⟨empty⟩

def write (i : Intent α) : Write α → Intent α
  | .clear => empty
  | .setDirection v => { i with direction := v }
  | .addDirection v => { i with direction := i.direction + v }
  | .clearDirection => { i with direction := 0 }
  | .jump => { i with jump := true }
  | .gait g => { i with gait? := some g }

def writeAll (i : Intent α) (ws : List (Write α)) : Intent α := ws.foldl write i

/-- Whether the horizontal direction is at least `threshold` long. -/
def isMoving (i : Intent α) (threshold : α) : Bool := threshold ≤ i.direction.flat.length

/-- Takes the wanted jump out. -/
def takeJump (i : Intent α) : Bool × Intent α := (i.jump, { i with jump := false })

/-- Takes the wanted gait out. -/
def takeGait (i : Intent α) : Option Gait × Intent α := (i.gait?, { i with gait? := none })

end Intent

end CharacterMotion
