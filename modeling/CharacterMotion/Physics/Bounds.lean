import CharacterMotion.Vec3

/-!
Columns and bounds, which is all that a ray straight down has to do with.

A vertical line has a column in common with a convex body: the heights between two ends. The ray
meets the body where it enters the column, which is at once if it starts inside.

Bounds are boxes with faces along the axes, in which bodies are known to lie. A ray that misses the
bounds misses the body, so bounds are looked at first. Bounds that compare with nothing, because a
NaN or an infinite size went into them, are met by no ray, and neither is what lies in them. A body
without bounds may be anywhere.
-/

namespace CharacterMotion.Physics

/-- The heights between two ends. Which of them is called the bottom makes no difference to a
ray. -/
structure Column (α : Type) where
  bottom : α
  top : α
  deriving DecidableEq, Repr

namespace Column

variable {α : Type} [Scalar α]

/-- The column from the lowest to the highest of some heights. -/
def spanning? : List α → Option (Column α)
  | [] => none
  | h :: hs => some ⟨hs.foldl Scalar.lower h, hs.foldl Scalar.upper h⟩

/-- How far below the height `y` the column is met within `reach`; zero for a height inside. -/
def below? (c : Column α) (y reach : α) : Option α :=
  let toBottom := -(c.bottom - y)
  let toTop := -(c.top - y)
  let enter := Scalar.upper 0 (Scalar.lower toTop toBottom)
  let leave := Scalar.lower reach (Scalar.upper toBottom toTop)
  if enter ≤ leave then some enter else none

end Column

/-- A box by its least and its greatest corner. -/
structure Bounds (α : Type) where
  low : Vec3 α
  high : Vec3 α
  deriving DecidableEq, Repr

namespace Bounds

variable {α : Type} [Scalar α]

/-- The bounds that reach `extent` to both sides of a centre. -/
def around (centre extent : Vec3 α) : Bounds α := ⟨centre - extent, centre + extent⟩

/-- The bounds of two points. -/
def ofPoints (a b : Vec3 α) : Bounds α where
  low := ⟨Scalar.lower a.x b.x, Scalar.lower a.y b.y, Scalar.lower a.z b.z⟩
  high := ⟨Scalar.upper a.x b.x, Scalar.upper a.y b.y, Scalar.upper a.z b.z⟩

/-- Moves every face outwards. -/
def grow (b : Bounds α) (margin : α) : Bounds α :=
  let step : Vec3 α := ⟨margin, margin, margin⟩
  ⟨b.low - step, b.high + step⟩

/-- The bounds of what has no end: half of all numbers, to both sides of the origin. -/
def widest? : Option (Bounds α) :=
  Scalar.greatest?.map fun most => around 0 ⟨most / 2.0, most / 2.0, most / 2.0⟩

/-- The bounds of two bodies together. -/
def join (a b : Bounds α) : Bounds α where
  low := ⟨Scalar.lower a.low.x b.low.x, Scalar.lower a.low.y b.low.y, Scalar.lower a.low.z b.low.z⟩
  high := ⟨Scalar.upper a.high.x b.high.x, Scalar.upper a.high.y b.high.y,
    Scalar.upper a.high.z b.high.z⟩

/-- The bounds of two bodies together, if both have any. -/
def join? (a? b? : Option (Bounds α)) : Option (Bounds α) := do
  return (← a?).join (← b?)

/-- Moves every face outwards by a hundredth of the size, so that rounding loses nothing. -/
def loosen (b : Bounds α) : Bounds α :=
  if b.low.x ≤ b.high.x then
    let slack := b.high * (0.01 : α) - b.low * (0.01 : α)
    ⟨b.low - slack, b.high + slack⟩
  else b

/-- Whether a ray straight down from `origin` meets the bounds within `reach`. Nothing is met beyond
the greatest number. -/
def metBelow (b : Bounds α) (origin : Vec3 α) (reach : α) : Bool :=
  b.low.x ≤ origin.x && origin.x ≤ b.high.x && b.low.z ≤ origin.z && origin.z ≤ b.high.z &&
    ((Column.mk b.low.y b.high.y).below? origin.y (Scalar.capped reach)).any Scalar.belowGreatest

end Bounds

end CharacterMotion.Physics
