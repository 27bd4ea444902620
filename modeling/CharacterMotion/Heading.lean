import CharacterMotion.Tuning
import CharacterMotion.Vec3

/-!
Which way a character faces, and how it turns toward the direction it moves in.

A heading holds two horizontal vectors of length one, the one it faces along and the one to its
right. A turn moves the first toward the direction of travel along the chord and brings it back to
length one. Where the chord passes too close to the middle, as it does halfway through a turn to
the opposite direction, the turn goes by the right-hand side.
-/

namespace CharacterMotion

namespace TurnModel

variable {α : Type} [Scalar α]

/-- The share of the turn that a frame of length `dt` makes. -/
def share (m : TurnModel) (rate dt : α) : α :=
  let rate := Scalar.nonneg rate
  match m with
  | .exponential => 1 - Scalar.exp (-rate * dt)
  | .linear => Scalar.clampUnit (rate * dt)

end TurnModel

structure Heading (α : Type) where
  facing : Vec3 α
  right : Vec3 α
  deriving DecidableEq, Repr

namespace Heading

variable {α : Type} [Scalar α]

/-- Squared length below which a vector gives no direction. -/
def negligible : α := 0.000001

def initial : Heading α := ⟨.forward, .right⟩

instance : Inhabited (Heading α) := ⟨initial⟩

/-- The heading along a vector, which has a direction. -/
def along (v : Vec3 α) : Heading α :=
  let facing := v.normalize
  ⟨facing, (Vec3.up.cross facing).normalize⟩

/-- The heading along the horizontal part of a vector, or the initial one if that part gives no
direction. -/
def ofDirection (v : Vec3 α) : Heading α :=
  if v.flat.lengthSq < negligible then initial else along v.flat

/-- The angle from the forward direction, about the vertical axis. -/
def yaw (h : Heading α) : α := Scalar.atan2 h.facing.x h.facing.z

/-- The point on the chord to `target`, or the right-hand side where that gives no direction. -/
def blend (h : Heading α) (target : Vec3 α) (share : α) : Vec3 α :=
  let point := h.facing.lerp target share
  if point.lengthSq < negligible then h.right else point

/-- Turns toward the horizontal direction of a velocity; `none` if the frame does not turn, be it
that the speed is not above the threshold, that there is no direction, or that no time passes. -/
def turn? (h : Heading α) (velocity : Vec3 α) (dt rate : α) (model : TurnModel) (threshold : α) :
    Option (Heading α) :=
  let horizontal := velocity.flat
  let speed := horizontal.length
  if speed ≤ threshold || Scalar.agrees speed 0 || dt ≤ 0 then none
  else
    let share := model.share rate dt
    if share ≤ 0 then none else some (along (h.blend (horizontal / speed) share))

/-- The heading after a frame. -/
def turn (h : Heading α) (velocity : Vec3 α) (dt rate : α) (model : TurnModel) (threshold : α) :
    Heading α :=
  (h.turn? velocity dt rate model threshold).getD h

end Heading

end CharacterMotion
