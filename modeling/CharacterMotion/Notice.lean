import CharacterMotion.Gait
import CharacterMotion.Decimal.Shortest

/-!
What a caller is told and what the log is told.

A caller can get wrong the index of a gait and the length of a time step. An update of a character
never fails; the faults come from the checked entry points only, and where an unchecked one meets
them the log has a notice of it. Faults and notices are values, so that laws can speak of them;
their wording is chosen here and nowhere else.
-/

namespace CharacterMotion

/-- What a caller can get wrong. -/
inductive Fault (α : Type) where
  /-- No gait has the index. -/
  | gaitIndex (index : UInt8)
  /-- Time cannot pass by this amount. -/
  | timestep (dt : α)
  deriving DecidableEq, Repr

def Fault.message : Fault Float32 → String
  | .gaitIndex index =>
      "invalid movement mode index " ++ Nat.repr index.toNat ++ ", expected 0..=3"
  | .timestep dt =>
      "invalid timestep " ++ Decimal.shortest dt ++ "s, expected a finite value >= 0"

variable {α : Type}

/-- The gait with an index, or the fault that there is none. -/
def Gait.checkIndex (i : UInt8) : Except (Fault α) Gait :=
  match Gait.ofIndex? i with
  | some g => .ok g
  | none => .error (.gaitIndex i)

/-- Whether time can pass by this amount: it is finite and not negative. -/
def isTimestep [Scalar α] (dt : α) : Bool := Scalar.isFinite dt && 0 ≤ dt

inductive Severity where
  | debug
  | info
  | warn
  deriving DecidableEq, Repr

def Severity.name : Severity → String
  | .debug => "DEBUG"
  | .info => "INFO"
  | .warn => "WARN"

/-- What the log is told. -/
inductive Notice (α : Type) where
  | gaitChanged (before after : Gait)
  /-- No gait has the index; the default gait takes its place. -/
  | gaitIndexRejected (index : UInt8)
  /-- Time cannot pass by this amount; the frame counts as empty. -/
  | timestepRejected (dt : α)
  | landed
  | launched (speed : α)
  | startedMoving (gait : Gait) (targetSpeed : α)
  deriving DecidableEq, Repr

namespace Notice

def severity : Notice α → Severity
  | .gaitChanged .. => .info
  | .gaitIndexRejected .. | .timestepRejected .. => .warn
  | .landed | .launched .. | .startedMoving .. => .debug

def text : Notice Float32 → String
  | .gaitChanged before after => "Movement mode: " ++ before.name ++ " -> " ++ after.name
  | .gaitIndexRejected index =>
      (Fault.gaitIndex index).message ++ ", using " ++ (default : Gait).name
  | .timestepRejected dt => (Fault.timestep dt).message ++ ", treating as an empty frame"
  | .landed => "Landed"
  | .launched speed => "Jump launched at " ++ Decimal.fixed 2 speed ++ " m/s"
  | .startedMoving gait speed =>
      "Movement started: mode " ++ gait.name ++ " target speed " ++ Decimal.fixed 1 speed ++ " m/s"

/-- The line of the log. -/
def line (n : Notice Float32) : String := n.severity.name ++ " " ++ n.text

end Notice

end CharacterMotion
