import CharacterMotion.Tuning
import CharacterMotion.Vec3

/-!
How a velocity changes within a frame. Falling and launching concern its vertical component alone,
pursuing and braking its horizontal part alone; each leaves the rest as it is.
-/

namespace CharacterMotion.Steering

variable {α : Type} [Scalar α]

/-- Free fall, for a velocity that nothing but the controller changes. On the ground a downward
speed is lost. -/
def fall (t : Tuning α) (dt : α) (onGround : Bool) (v : Vec3 α) : Vec3 α :=
  if onGround then
    if v.y < 0 then { v with y := 0 } else v
  else { v with y := v.y - t.gravity * dt }

/-- Adds to the horizontal part. -/
def push (v d : Vec3 α) : Vec3 α := { v with x := v.x + d.x, z := v.z + d.z }

/-- The change of velocity on the way to a target. It is proportional to the remaining difference,
and longer neither than that difference nor than the acceleration allows, so that the target is
never passed. -/
def approach (acceleration dt : α) (difference : Vec3 α) : Vec3 α :=
  let change := difference * acceleration * dt
  let longest := Scalar.smaller difference.length (acceleration * dt)
  let length := change.length
  if longest < length then change * (longest / length) else change

/-- Moves toward `speed` in the wanted direction. -/
def pursue (acceleration speed dt : α) (direction v : Vec3 α) : Vec3 α :=
  push v (approach acceleration dt (direction.normalizeOrZero * speed - v.flat))

/-- The speed that a frame without input takes away: steady friction on the ground, resistance with
the square of the speed in the air. -/
def drag (t : Tuning α) (dt : α) (onGround : Bool) (speed : α) : α :=
  if onGround then t.deceleration * t.groundFriction * dt
  else t.airResistance * speed * speed * dt

/-- Slows down and never turns back: what would be more than the speed stops the motion. -/
def brake (t : Tuning α) (dt : α) (onGround : Bool) (v : Vec3 α) : Vec3 α :=
  let speed := v.flat.length
  if speed ≤ 0 then v
  else
    let loss := drag t dt onGround speed
    if speed ≤ loss then v.withHorizontal 0 0
    else push v (-(v.flat / speed) * Scalar.smaller loss speed)

end CharacterMotion.Steering
