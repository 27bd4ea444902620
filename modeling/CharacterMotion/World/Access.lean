import CharacterMotion.World.Step

/-!
What happens to a world between its steps: input sources write to intents, controllers are given
orders directly, the clock is set, and the record of what was written starts anew.
-/

namespace CharacterMotion

/-- The same animation, not written yet. -/
def Animation.settled (a : Animation) : Animation := { a with written := false }

/-- The same puppet, with no commands remembered. -/
def Puppet.settled {α : Type} (p : Puppet α) : Puppet α := { p with journal := [] }

namespace World

variable {α β : Type} [Scalar α]

/-- Writes to the intent of a character, if it has one. -/
def write (w : World α β) (id : Nat) (writes : List (Intent.Write α)) : World α β :=
  w.modify id fun c => { c with intent? := c.intent?.map (·.writeAll writes) }

/-- Gives orders to the controller of a character, if it has one. -/
def tell (id : Nat) (orders : List (Order α)) : Phase (World α β) (Notice α) := fun w =>
  match w.get? id >>= Character.controller? with
  | some controller =>
      let (told, notices) := controller.takeAll orders
      (w.modify id (·.store told), notices)
  | none => (w, [])

def setStep (w : World α β) (step : Span) : World α β := { w with clock := w.clock.set step }

/-- Starts the record of what is written anew: no animation counts as written, and every body is
settled by the given rule. -/
def settle (w : World α β) (rule : β → β) : World α β :=
  { w with
    roster := w.roster.map fun c =>
      { c with animation? := c.animation?.map Animation.settled, body := rule c.body } }

end World

end CharacterMotion
