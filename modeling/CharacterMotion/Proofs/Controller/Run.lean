import CharacterMotion.Proofs.Controller.Frame

/-!
Runs of a controller. Before each frame the controller is given orders; the frame then has its own
length, tuning and reading of the body. The readings of a run are arbitrary, so that a run stands
for what may happen with any body whatever.

A run may also be over one body. It takes the commands of every frame, and what the next frame reads
of it may depend on them; between two frames it may also change by itself, in any way.
-/

namespace CharacterMotion

/-- What a controller is given for one frame of a run. -/
structure Cue (α : Type) where
  orders : List (Order α)
  dt : α
  tuning : Tuning α
  reading : Reading α
  deriving DecidableEq, Repr

namespace Controller

variable {α : Type} [Scalar α]

/-- Takes the orders and runs the frame; the notices are those of both. -/
def perform (c : Controller α) (q : Cue α) : Frame α :=
  let (told, notices) := c.takeAll q.orders
  let frame := told.advance q.dt q.tuning q.reading
  { frame with notices := notices ++ frame.notices }

/-- The controller before frame `n` of a run, and before the orders for that frame. -/
def before (c : Controller α) (cues : Nat → Cue α) (n : Nat) : Controller α :=
  stateAt (fun c q => (c.perform q).controller) c cues n

/-- The controller that frame `n` of a run starts with: the orders for it are taken. -/
def toldAt (c : Controller α) (cues : Nat → Cue α) (n : Nat) : Controller α :=
  ((c.before cues n).takeAll (cues n).orders).1

/-- Frame `n` of a run. -/
def frameAt (c : Controller α) (cues : Nat → Cue α) (n : Nat) : Frame α :=
  (c.before cues n).perform (cues n)

/-- A frame with its orders is a frame of the told controller, up to the notices. -/
theorem perform_eq (c : Controller α) (q : Cue α) : ∃ notices,
    c.perform q =
      { (c.takeAll q.orders).1.frame (elapsed q.dt) q.tuning q.reading with notices } := by
  by_cases right : isTimestep q.dt
  · simp only [perform, advance, elapsed, right, if_true]
    exact ⟨_, rfl⟩
  · simp only [perform, advance, elapsed, right]
    exact ⟨_, rfl⟩

theorem controller_perform (c : Controller α) (q : Cue α) :
    (c.perform q).controller =
      ((c.takeAll q.orders).1.frame (elapsed q.dt) q.tuning q.reading).controller :=
  controller_advance ..

theorem gait_perform (c : Controller α) (q : Cue α) :
    (c.perform q).controller.gait = (c.takeAll q.orders).1.gait := by
  rw [controller_perform, gait_frame]

/-- What a frame in which time passes gives to the jump gate. -/
def roundOf (c : Controller α) (q : Cue α) : JumpGate.Round α where
  input := (c.takeAll q.orders).1.gateInput (elapsed q.dt) q.tuning q.reading
  cooldown := q.tuning.jumpCooldown
  rule := q.tuning.landingRule

/-- The step that the gate takes in a frame in which time passes. -/
theorem gateStep_told (c : Controller α) (q : Cue α) :
    (c.takeAll q.orders).1.gateStep (elapsed q.dt) q.tuning q.reading =
      c.gate.play (c.roundOf q) := by
  unfold gateStep
  rw [gate_takeAll]
  rfl

theorem gate_perform (c : Controller α) (q : Cue α) :
    (c.perform q).controller.gate =
      if 0 < elapsed q.dt then (c.gate.play (c.roundOf q)).1 else c.gate := by
  rw [controller_perform, gate_frame, gateStep_told, gate_takeAll]

theorem launches_told (c : Controller α) (q : Cue α) :
    (c.perform q).launches =
      ((c.takeAll q.orders).1.frame (elapsed q.dt) q.tuning q.reading).launches := by
  have frame : (c.perform q).launches =
      ((c.takeAll q.orders).1.advance q.dt q.tuning q.reading).launches := by
    simp only [perform, Frame.launches, List.any_append, any_isLaunch_takeAll, Bool.false_or]
  rw [frame, launches_advance]

theorem launches_perform (c : Controller α) (q : Cue α) :
    (c.perform q).launches =
      (decide (0 < elapsed q.dt) && (c.gate.play (c.roundOf q)).2.launched) := by
  rw [launches_told, launches_frame, gateStep_told]

end Controller

/-! ### Runs over one body -/

/-- A controller together with the body that it moves. -/
structure Embodied (α β : Type) where
  controller : Controller α
  body : β

/-- What comes upon the two before a frame and with it. -/
structure Turn (α β : Type) where
  /-- What becomes of the body by itself. -/
  change : β → β
  orders : List (Order α)
  dt : α
  tuning : Tuning α

namespace Embodied

variable {α β : Type} [Scalar α] [Body α β]

/-- What the controller is given in a turn. -/
def cue (e : Embodied α β) (t : Turn α β) : Cue α :=
  ⟨t.orders, t.dt, t.tuning, Body.read (t.change e.body)⟩

/-- The frame of a turn. -/
def perform (e : Embodied α β) (t : Turn α β) : Frame α := e.controller.perform (e.cue t)

/-- A turn: the controller keeps its part of the frame, and the body obeys the commands. -/
def take (e : Embodied α β) (t : Turn α β) : Embodied α β where
  controller := (e.perform t).controller
  body := (e.perform t).commands.foldl Body.obey (t.change e.body)

/-- The controller and the body before turn `n` of a run. -/
def before (e : Embodied α β) (turns : Nat → Turn α β) (n : Nat) : Embodied α β :=
  stateAt take e turns n

/-- The frame of turn `n` of a run. -/
def frameAt (e : Embodied α β) (turns : Nat → Turn α β) (n : Nat) : Frame α :=
  (e.before turns n).perform (turns n)

end Embodied

end CharacterMotion
