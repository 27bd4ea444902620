import CharacterMotion.World.Character
import CharacterMotion.World.Roster

/-!
A world of characters, and the step that moves all of them.

A step has three phases, each of which changes the world and reports what happened. Intents are
passed on to the controllers; every controller runs one frame against its body; the markers follow
the contact that the frames saw. The second phase first takes down who is due, with the controller
and the tuning of the moment, and then works through that list, reading and writing the world as it
is by then. The third one decides on all changes before it makes any.

The length of the step comes from a clock, and where there is no clock, or the clock has not been
set to a positive step, a sixtieth of a second takes its place.
-/

namespace CharacterMotion

/-! ### Phases -/

/-- What one phase does to a state `σ`, with reports of type `ν`. -/
abbrev Phase (σ ν : Type) := σ → σ × List ν

namespace Phase

variable {σ ν : Type}

/-- A phase that has nothing to report. -/
def silent (f : σ → σ) : Phase σ ν := fun s => (f s, [])

/-- One phase after another. -/
def andThen (f g : Phase σ ν) : Phase σ ν := fun s =>
  let (middle, first) := f s
  let (last, rest) := g middle
  (last, first ++ rest)

/-- Phases in the order of a list. -/
def sequence (fs : List (Phase σ ν)) : Phase σ ν := fs.foldr andThen (silent id)

end Phase

/-! ### The clock -/

/-- A span of time, to the nanosecond. Its whole seconds fit a word, so that its length is finite in
single precision too. -/
structure Span where
  seconds : UInt64
  nanoseconds : Nat
  lt_second : nanoseconds < 1000000000

namespace Span

def ofNanoseconds (n : UInt64) : Span where
  seconds := n / 1000000000
  nanoseconds := n.toNat % 1000000000
  lt_second := Nat.mod_lt _ (by decide)

/-- The span in seconds, whole seconds and fraction rounded apart. -/
def inSeconds {α : Type} [Scalar α] (s : Span) : α :=
  Scalar.ofNat s.seconds.toNat + Scalar.ofNat s.nanoseconds / Scalar.ofNat 1000000000

end Span

/-- A clock, if there is one, with the step it is set to. -/
structure Clock where
  step? : Option Span

namespace Clock

/-- A clock that has not been set yet. -/
def unset : Clock := ⟨some (.ofNanoseconds 0)⟩

def absent : Clock := ⟨none⟩

/-- Sets the step. Without a clock this does nothing. -/
def set (c : Clock) (s : Span) : Clock := ⟨c.step?.map fun _ => s⟩

def stepLength {α : Type} [Scalar α] (c : Clock) : α :=
  match c.step? with
  | some s => if 0 < (s.inSeconds : α) then s.inSeconds else 1 / 60.0
  | none => 1 / 60.0

end Clock

/-! ### The world -/

/-- The characters and the clock that they share. -/
structure World (α β : Type) where
  roster : Roster (Character α β)
  clock : Clock

namespace World

variable {α β : Type} [Scalar α] [Body α β]

def get? (w : World α β) (id : Nat) : Option (Character α β) := w.roster.get? id

def modify (w : World α β) (id : Nat) (f : Character α β → Character α β) : World α β :=
  { w with roster := w.roster.modify id f }

def despawn (w : World α β) (id : Nat) : World α β := { w with roster := w.roster.erase id }

/-- What the body of a character reports; whoever is not there has none. -/
def reading (w : World α β) (id : Nat) : Reading α :=
  ((w.get? id).map Character.reading).getD .absent

/-- Carries out commands on one character. -/
def obeyAll (w : World α β) (id : Nat) (commands : List (Command α)) : World α β :=
  commands.foldl (fun w command => w.modify id (·.obey command)) w

/-- Runs a controller for one frame on the body of a character, whose own controller, if it has one,
takes no part. -/
def runOn (w : World α β) (id : Nat) (controller : Controller α) (dt : α) (tuning : Tuning α) :
    World α β × Frame α :=
  let frame := controller.advance dt tuning (w.reading id)
  (w.obeyAll id frame.commands, frame)

/-! ### The phases of a step -/

/-- Passes all intents on. -/
def forwardIntents : Phase (World α β) (Notice α) := fun w =>
  let (roster, notices) := w.roster.visit Character.forward
  ({ w with roster }, notices)

/-- A character whose controller is to run, as it was when the list was made. -/
structure Due (α : Type) where
  id : Nat
  tuning : Tuning α
  controller : Controller α
  deriving DecidableEq, Repr

def due (w : World α β) : List (Due α) :=
  w.roster.entries.filterMap fun (id, c) =>
    c.controller?.map fun controller => ⟨id, c.tuning?.getD .standard, controller⟩

/-- Runs one controller against the world as it is, and stores it. -/
def updateOne (dt : α) (d : Due α) : Phase (World α β) (Notice α) := fun w =>
  let (moved, frame) := w.runOn d.id d.controller dt d.tuning
  (moved.modify d.id (·.store frame.controller), frame.notices)

/-- Runs all controllers. -/
def updateControllers : Phase (World α β) (Notice α) := fun w =>
  Phase.sequence (w.due.map (updateOne w.clock.stepLength)) w

def markerChanges (w : World α β) : List (Nat × Character.MarkerChange) :=
  w.roster.entries.filterMap fun (id, c) => c.markerChange?.map fun change => (id, change)

/-- Brings the markers in line with the contact that each controller saw last. -/
def syncMarkers : Phase (World α β) (Notice α) :=
  Phase.silent fun w => w.markerChanges.foldl (fun w (id, change) => w.modify id (·.mark change)) w

/-- One step of the world. -/
def tick : Phase (World α β) (Notice α) :=
  Phase.sequence [forwardIntents, updateControllers, syncMarkers]

end World

end CharacterMotion
