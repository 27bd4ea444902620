import CharacterMotion.Controller.Frame
import CharacterMotion.Intent

/-!
A character of a world. Everything about it is optional: it may have a controller, a tuning of its
own, an intent that feeds the controller, an animation that shows the clip, and markers that tell
other systems whether it stands on the ground. Its body is of any kind that can be read and takes
commands.
-/

namespace CharacterMotion

/-- The animation that is shown, and whether it has been written lately. -/
structure Animation where
  clip : Clip
  written : Bool
  deriving DecidableEq, Repr

namespace Animation

/-- A new animation counts as written. -/
def new (clip : Clip) : Animation := ⟨clip, true⟩

/-- Shows a clip. Showing the present one is no writing. -/
def display (a : Animation) (clip : Clip) : Animation :=
  if a.clip = clip then a else new clip

end Animation

structure Character (α β : Type) where
  controller? : Option (Controller α)
  tuning? : Option (Tuning α)
  intent? : Option (Intent α)
  animation? : Option Animation
  grounded : Bool
  airborne : Bool
  body : β
  deriving DecidableEq, Repr

namespace Character

variable {α β : Type}

/-- Nothing but a body. -/
def ofBody (body : β) : Character α β := ⟨none, none, none, none, false, false, body⟩

variable [Body α β]

def reading (c : Character α β) : Reading α := Body.read c.body

/-- Carries out a command. The clip goes to the animation, everything else to the body. -/
def obey (c : Character α β) : Command α → Character α β
  | .setClip clip => { c with animation? := c.animation?.map (·.display clip) }
  | command => { c with body := Body.obey c.body command }

/-- Replaces the controller of a character that has one. -/
def store (c : Character α β) (controller : Controller α) : Character α β :=
  { c with controller? := c.controller?.map fun _ => controller }

variable [Scalar α]

/-- What an intent tells the controller, in order. A direction of zero is not passed on, so that one
given to the controller directly stays in force. -/
def ordersOf (intent : Intent α) : List (Order α) :=
  (intent.gait?.toList.map .gait) ++
  (if intent.direction.isZero then [] else [.direction intent.direction]) ++
  (if intent.jump then [.jump] else [])

/-- Passes the intent on to the controller. Requests are used up, the direction is held. -/
def forward (c : Character α β) : Character α β × List (Notice α) :=
  match c.intent?, c.controller? with
  | some intent, some controller =>
      let (told, notices) := controller.takeAll (ordersOf intent)
      ({ c with controller? := some told, intent? := some intent.takeGait.2.takeJump.2 }, notices)
  | _, _ => (c, [])

/-- A change of the markers: the character has come to the ground, or has left it. -/
inductive MarkerChange where
  | touchDown
  | takeOff
  deriving DecidableEq, Repr

/-- The change of markers that the last contact calls for: none while the right marker is there. -/
def markerChange? (c : Character α β) : Option MarkerChange :=
  match c.controller? with
  | none => none
  | some controller =>
      if controller.onGround then
        if c.grounded then none else some .touchDown
      else
        if c.airborne then none else some .takeOff

/-- Sets one marker and removes the other. -/
def mark (c : Character α β) : MarkerChange → Character α β
  | .touchDown => { c with grounded := true, airborne := false }
  | .takeOff => { c with grounded := false, airborne := true }

end Character

end CharacterMotion
