import CharacterMotion.Scalar

/-!
Gaits and the speed that belongs to each. A gait has a fixed index from zero to three; reading an
index back is `ofIndex?`, and `ofIndex?_index` says that it finds every gait again.
-/

namespace CharacterMotion

inductive Gait where
  | walk
  | jog
  | run
  | sprint
  deriving DecidableEq, Repr

namespace Gait

/-- A character runs unless told otherwise. -/
instance : Inhabited Gait := ⟨.run⟩

/-- All gaits, in the order of their indices. -/
def all : List Gait := [.walk, .jog, .run, .sprint]

def index : Gait → UInt8
  | .walk => 0
  | .jog => 1
  | .run => 2
  | .sprint => 3

def ofIndex? (i : UInt8) : Option Gait := all[i.toNat]?

/-- The gait with an index, or the one that a character starts with when there is none. -/
def ofIndex (i : UInt8) : Gait := (ofIndex? i).getD default

def name : Gait → String
  | .walk => "Walk"
  | .jog => "Jog"
  | .run => "Run"
  | .sprint => "Sprint"

@[simp] theorem ofIndex?_index (g : Gait) : ofIndex? g.index = some g := by
  cases g <;> rfl

end Gait

/-- The horizontal speed that each gait aims at, in metres per second. -/
structure Speeds (α : Type) where
  walk : α
  jog : α
  run : α
  sprint : α
  deriving DecidableEq, Repr

namespace Speeds

variable {α : Type} [Scalar α]

/-- Speeds of a grown person: a comfortable walk, a light jog, a run and a sprint. -/
def standard : Speeds α where
  walk := 1.4
  jog := 3.0
  run := 5.5
  sprint := 9.0

instance : Inhabited (Speeds α) := ⟨standard⟩

def of (s : Speeds α) : Gait → α
  | .walk => s.walk
  | .jog => s.jog
  | .run => s.run
  | .sprint => s.sprint

/-- Gives one gait another speed, which is never negative. -/
def set (s : Speeds α) (g : Gait) (speed : α) : Speeds α :=
  let speed := Scalar.nonneg speed
  match g with
  | .walk => { s with walk := speed }
  | .jog => { s with jog := speed }
  | .run => { s with run := speed }
  | .sprint => { s with sprint := speed }

end Speeds

end CharacterMotion
