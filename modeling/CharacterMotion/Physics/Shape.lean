import CharacterMotion.Physics.Bounds

/-!
Shapes of colliders, upright and centred at the origin unless their data say otherwise.

`contains` says which points belong to a shape. A ray that looks straight down asks how far below a
point the shape is met: the line of the ray has a column in common with the shape, and the shape is
met where the ray enters the column. Balls and the half-space answer by formulas of their own, which
round differently.
-/

namespace CharacterMotion.Physics

inductive Shape (α : Type) where
  | ball (radius : α)
  /-- A box, by the halves of its edges. -/
  | box (half : Vec3 α)
  /-- All points within `radius` of the segment from `a` to `b`. -/
  | capsule (a b : Vec3 α) (radius : α)
  | cylinder (halfHeight radius : α)
  /-- The base of a cone is below, its apex above. -/
  | cone (halfHeight radius : α)
  /-- All points within `rounding` of a box. -/
  | roundBox (half : Vec3 α) (rounding : α)
  /-- Everything that is not above the origin. -/
  | halfSpace
  deriving DecidableEq, Repr

namespace Shape

variable {α : Type} [Scalar α]

/-- The capsule around a segment along an axis, half of it on each side of the origin. -/
def capsuleAlong (axis : Vec3 α) (halfLength radius : α) : Shape α :=
  let tip := axis * halfLength
  .capsule (-tip) tip radius

/-- How far below its centre the body counts as ending. Shapes of which nothing better is known end
at the centre. -/
def bottomOffset : Shape α → α
  | .capsule a b radius => Scalar.abs (a.y - b.y) / 2.0 + radius
  | .ball radius => radius
  | .box half => half.y
  | _ => 0

/-! ### Points inside -/

def within (half x : α) : Bool := -half ≤ x && x ≤ half

/-- The part of a coordinate that sticks out of `[-half, half]`. -/
def overhang (half x : α) : α := Scalar.nonneg (Scalar.abs x - half)

/-- The point of the segment from `a` to `b` that is nearest to `p`. -/
def nearestOnSegment (a b p : Vec3 α) : Vec3 α :=
  let along := b - a
  let square := along.lengthSq
  if square ≤ 0 then a else a + along * Scalar.clampUnit ((p - a).dot along / square)

/-- Whether a point belongs to the shape. -/
def contains (p : Vec3 α) : Shape α → Bool
  | .ball radius => p.lengthSq ≤ radius * radius
  | .box half => within half.x p.x && within half.y p.y && within half.z p.z
  | .capsule a b radius => (p - nearestOnSegment a b p).lengthSq ≤ radius * radius
  | .cylinder halfHeight radius => within halfHeight p.y && p.flat.lengthSq ≤ radius * radius
  | .cone halfHeight radius =>
      within halfHeight p.y &&
        p.flat.length * (2.0 * halfHeight) ≤ radius * (halfHeight - p.y)
  | .roundBox half rounding =>
      (⟨overhang half.x p.x, overhang half.y p.y, overhang half.z p.z⟩ : Vec3 α).lengthSq ≤
        rounding * rounding
  | .halfSpace => p.y ≤ 0

/-! ### Bounds -/

/-- How far the bounds of a box reach to both sides of its centre. Every half of an edge goes into
all three components, so that none of them is a number unless all are finite. -/
def boxExtent (half : Vec3 α) : Vec3 α where
  x := half.x + 0 * half.y + 0 * half.z
  y := 0 * half.x + half.y + 0 * half.z
  z := 0 * half.x + 0 * half.y + half.z

/-- The bounds of the shape with its origin at `centre`, if it has any. -/
def bounds? (s : Shape α) (centre : Vec3 α) : Option (Bounds α) :=
  match s with
  | .ball radius => some (.around centre ⟨radius, radius, radius⟩)
  | .box half => some (.around centre (boxExtent half))
  | .capsule a b radius => some ((Bounds.ofPoints (centre + a) (centre + b)).grow radius)
  | .cylinder halfHeight radius => some (.around centre ⟨radius, halfHeight, radius⟩)
  | .cone halfHeight radius => some (.around centre ⟨radius, halfHeight, radius⟩)
  | .roundBox half rounding => some ((Bounds.around centre (boxExtent half)).grow rounding)
  | .halfSpace => Bounds.widest?

/-! ### Columns -/

/-- Boxes have the same column everywhere inside their ground plan. -/
def boxColumn? (half p : Vec3 α) : Option (Column α) :=
  if p.x < -half.x || half.x < p.x || p.z < -half.z || half.z < p.z then none
  else some ⟨-half.y, half.y⟩

def cylinderColumn? (halfHeight radius : α) (p : Vec3 α) : Option (Column α) :=
  if p.flat.lengthSq ≤ radius * radius then some ⟨-halfHeight, halfHeight⟩ else none

/-- The mantle of a cone falls evenly from the apex to the rim of the base. -/
def coneColumn? (halfHeight radius : α) (p : Vec3 α) : Option (Column α) :=
  let distance := p.flat.length
  if distance ≤ radius then
    let drop := if 0 < distance then 2.0 * halfHeight * distance / radius else 0
    some ⟨-halfHeight, halfHeight - drop⟩
  else none

/-- Outside the ground plan of its box a round box bends down like a ball. -/
def roundBoxColumn? (half : Vec3 α) (rounding : α) (p : Vec3 α) : Option (Column α) :=
  let x := overhang half.x p.x
  let z := overhang half.z p.z
  let rest := rounding * rounding - (x * x + z * z)
  if 0 ≤ rest then
    let height := half.y + Scalar.sqrt rest
    some ⟨-height, height⟩
  else none

/-- The heights at which the vertical line through `p` passes the surface of a ball. -/
def ballHeights (centre : Vec3 α) (radius : α) (p : Vec3 α) : List α :=
  let rest := radius * radius - (p - centre).flat.lengthSq
  if 0 ≤ rest then [centre.y - Scalar.sqrt rest, centre.y + Scalar.sqrt rest] else []

/-- The heights at which the vertical line through `p` passes the side of a capsule: points at a
distance of `radius` from the line through `a` and `b` that lie between the two. They are the roots
of a quadratic equation for the height above `a`. A line along an upright capsule never passes its
side. -/
def sideHeights (a b : Vec3 α) (radius : α) (p : Vec3 α) : List α :=
  let along := b - a
  let across := (p - a).flat
  let square := along.flat.lengthSq
  let whole := along.lengthSq
  let start := across.dot along
  let half := start * along.y
  let rest := whole * (across.lengthSq - radius * radius) - start * start
  let discriminant := half * half - square * rest
  if 0 < square ∧ 0 ≤ discriminant then
    let root := Scalar.sqrt discriminant
    let between (height : α) : Bool :=
      0 ≤ start + height * along.y && start + height * along.y ≤ whole
    ([(half - root) / square, (half + root) / square].filter between).map (a.y + ·)
  else []

/-- The surface of a capsule is part of the balls at its ends and of its side, and all of these
belong to it, so the column ends at the outermost heights. -/
def capsuleColumn? (a b : Vec3 α) (radius : α) (p : Vec3 α) : Option (Column α) :=
  Column.spanning? (ballHeights a radius p ++ ballHeights b radius p ++ sideHeights a b radius p)

/-! ### The ray straight down -/

/-- A ball is met at the smaller root of a quadratic equation. -/
def ballBelow? (radius : α) (p : Vec3 α) (reach : α) : Option α :=
  let excess := p.lengthSq - radius * radius
  if 0 < excess ∧ p.y < 0 then none
  else
    let discriminant := p.y * p.y - excess
    if discriminant < 0 then none
    else
      let distance := p.y - Scalar.sqrt discriminant
      if distance ≤ 0 then some 0 else if distance ≤ reach then some distance else none

def halfSpaceBelow? (p : Vec3 α) (reach : α) : Option α :=
  if p.y ≤ 0 then some 0 else if p.y ≤ reach then some p.y else none

/-- How far below the point `p` the shape is met within `reach`; zero for a point inside. -/
def below? (s : Shape α) (p : Vec3 α) (reach : α) : Option α :=
  let enter (column? : Option (Column α)) : Option α := column? >>= (·.below? p.y reach)
  match s with
  | .ball radius => ballBelow? radius p reach
  | .box half => enter (boxColumn? half p)
  | .capsule a b radius => enter (capsuleColumn? a b radius p)
  | .cylinder halfHeight radius => enter (cylinderColumn? halfHeight radius p)
  | .cone halfHeight radius => enter (coneColumn? halfHeight radius p)
  | .roundBox half rounding => enter (roundBoxColumn? half rounding p)
  | .halfSpace => halfSpaceBelow? p reach

end Shape

end CharacterMotion.Physics
