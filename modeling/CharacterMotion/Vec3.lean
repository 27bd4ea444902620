import CharacterMotion.Scalar

/-!
Vectors of space. The second component points up; a vector is horizontal when that component is
zero, and `flat` is the horizontal part.

The order of the operations is part of each definition: rounding makes `v * (1 / v.length)` and
`v / v.length` two different things, and both are used.
-/

namespace CharacterMotion

structure Vec3 (α : Type) where
  x : α
  y : α
  z : α
  deriving DecidableEq, Repr

namespace Vec3

variable {α : Type} [Scalar α]

instance : Zero (Vec3 α) := ⟨⟨0, 0, 0⟩⟩
instance : Add (Vec3 α) := ⟨fun a b => ⟨a.x + b.x, a.y + b.y, a.z + b.z⟩⟩
instance : Sub (Vec3 α) := ⟨fun a b => ⟨a.x - b.x, a.y - b.y, a.z - b.z⟩⟩
instance : Neg (Vec3 α) := ⟨fun a => ⟨-a.x, -a.y, -a.z⟩⟩
instance : HMul (Vec3 α) α (Vec3 α) := ⟨fun v k => ⟨v.x * k, v.y * k, v.z * k⟩⟩
instance : HDiv (Vec3 α) α (Vec3 α) := ⟨fun v k => ⟨v.x / k, v.y / k, v.z / k⟩⟩
instance : Inhabited (Vec3 α) := ⟨0⟩

def right : Vec3 α := ⟨1, 0, 0⟩
def up : Vec3 α := ⟨0, 1, 0⟩
def forward : Vec3 α := ⟨0, 0, 1⟩

/-- The horizontal part. -/
def flat (v : Vec3 α) : Vec3 α := ⟨v.x, 0, v.z⟩

def dot (a b : Vec3 α) : α := a.x * b.x + a.y * b.y + a.z * b.z

def cross (a b : Vec3 α) : Vec3 α :=
  ⟨a.y * b.z - b.y * a.z, a.z * b.x - b.z * a.x, a.x * b.y - b.x * a.y⟩

def lengthSq (v : Vec3 α) : α := v.dot v

def length (v : Vec3 α) : α := Scalar.sqrt v.lengthSq

/-- The vector of length one in the same direction. It is the caller's part that there is one. -/
def normalize (v : Vec3 α) : Vec3 α := v * (1 / v.length)

/-- The vector of length one in the same direction, or zero where the length has no finite positive
reciprocal. -/
def normalizeOrZero (v : Vec3 α) : Vec3 α :=
  let r := 1 / v.length
  if Scalar.isFinite r ∧ 0 < r then v * r else 0

/-- The point that lies the fraction `t` of the way from `a` to `b`. -/
def lerp (a b : Vec3 α) (t : α) : Vec3 α := a * (1 - t) + b * t

/-- Whether all components are numerically zero. -/
def isZero (v : Vec3 α) : Bool :=
  Scalar.agrees v.x 0 && Scalar.agrees v.y 0 && Scalar.agrees v.z 0

/-- The same vector with its horizontal components replaced. -/
def withHorizontal (v : Vec3 α) (x z : α) : Vec3 α := { v with x, z }

end Vec3

end CharacterMotion
