import CharacterMotion.Proofs.Binary32.Basic
import CharacterMotion.Proofs.Controller.Run

/-!
Frames whose length is checked first. The check asks for what makes a length wrong, and the warning
of an unchecked frame is given unless a length is right. The two are written apart, and where a NaN
compares with nothing neither is plainly the opposite of the other (`isTimestep_eq_not_wrong`).

So a checked frame is refused exactly when the unchecked one would warn, and otherwise is that
frame (`Controller.advance?_eq`). A refused frame leaves everything to the frame after it: the
orders that wait, the body and the log (`Session.update?_eq`). Hence a session goes on as if the
refused frames had never been tried, whatever is ordered between them (`Session.play_accepted`).
-/

namespace CharacterMotion

variable {α β : Type}

/-! ### The check and the warning -/

/-- A length is wrong, as the check asks, exactly when it is not right, as the warning does. -/
theorem isTimestep_eq_not_wrong (dt : Float32) :
    isTimestep dt = !(!Scalar.isFinite dt || decide (dt < 0)) := by
  unfold isTimestep
  cases finite : Scalar.isFinite dt with
  | false => rfl
  | true =>
      rw [Bool.true_and, Bool.not_true, Bool.false_or, ← decide_not]
      exact decide_eq_decide.mpr (Binary32.not_neg_iff_of_isFinite finite).symm

/-- Negative zero is right, and nothing below it. -/
example : isTimestep (-0.0 : Float32) = true ∧ isTimestep (-1e-45 : Float32) = false := by
  decide +kernel

namespace Controller

theorem advance?_eq (c : Controller Float32) (dt : Float32) (t : Tuning Float32)
    (r : Reading Float32) :
    c.advance? dt t r =
      if isTimestep dt then .ok (c.advance dt t r) else .error (.timestep dt) := by
  rw [isTimestep_eq_not_wrong, advance?]
  cases !Scalar.isFinite dt || decide (dt < 0) <;> rfl

variable [Scalar α]

theorem timestepRejected_notMem_notices (c : Controller α) (t : Tuning α)
    (outcome : JumpGate.Outcome) (started : Bool) (dt : α) :
    .timestepRejected dt ∉ c.notices t outcome started := by
  obtain ⟨landed, launched⟩ := outcome
  cases landed <;> cases launched <;> cases started <;> simp [notices]

/-- A frame of any length warns of a wrong one, and of its own. -/
theorem timestepRejected_mem_advance {c : Controller α} {dt dt' : α} {t : Tuning α}
    {r : Reading α} :
    .timestepRejected dt' ∈ (c.advance dt t r).notices ↔ dt' = dt ∧ isTimestep dt = false := by
  have silent (length : α) : .timestepRejected dt' ∉ (c.frame length t r).notices := by
    rw [notices_frame]
    exact timestepRejected_notMem_notices _ _ _ _ _
  unfold advance
  by_cases right : isTimestep dt = true
  · simp [right, silent]
  · simp [right, silent]

end Controller

/-! ### Sessions -/

/-- A controller with its body, and the notices so far. -/
structure Session (α β : Type) extends Embodied α β where
  log : List (Notice α)

namespace Session

/-- What happens in a session. -/
inductive Event (α β : Type) where
  | order (o : Order α)
  /-- What becomes of the body by itself. -/
  | change (f : β → β)
  | update (dt : α) (t : Tuning α)
  /-- A frame whose length is checked first. -/
  | update? (dt : α) (t : Tuning α)

/-- What is left of an event where no length is checked and no refused frame is tried. -/
def Event.accepted? [Scalar α] : Event α β → Option (Event α β)
  | .update? dt t => if isTimestep dt then some (.update dt t) else none
  | event => some event

section

variable [Scalar α] [Body α β]

/-- The controller keeps its part of a frame, the body obeys, and the log takes the notices. -/
def keep (s : Session α β) (f : Frame α) : Session α β where
  controller := f.controller
  body := f.commands.foldl Body.obey s.body
  log := s.log ++ f.notices

def update (s : Session α β) (dt : α) (t : Tuning α) : Session α β :=
  s.keep (s.controller.advance dt t (Body.read s.body))

/-- The answer to a checked frame, and the session after it. A refused frame is none, so that there
is nothing to keep. -/
def update? (s : Session α β) (dt : α) (t : Tuning α) : Except (Fault α) Unit × Session α β :=
  match s.controller.advance? dt t (Body.read s.body) with
  | .ok f => (.ok (), s.keep f)
  | .error fault => (.error fault, s)

/-- The session after an event. -/
def after (s : Session α β) : Event α β → Session α β
  | .order o =>
      let (controller, notices) := s.controller.take o
      { s with controller, log := s.log ++ notices }
  | .change f => { s with body := f s.body }
  | .update dt t => s.update dt t
  | .update? dt t => (s.update? dt t).2

/-- The session after all of the events. -/
def play (s : Session α β) (events : List (Event α β)) : Session α β := events.foldl after s

end

section

variable [Body Float32 β]

theorem update?_eq (s : Session Float32 β) (dt : Float32) (t : Tuning Float32) :
    s.update? dt t =
      if isTimestep dt then (.ok (), s.update dt t) else (.error (.timestep dt), s) := by
  rw [update?, Controller.advance?_eq]
  cases isTimestep dt <;> rfl

theorem after_accepted (s : Session Float32 β) (event : Event Float32 β) :
    s.after event = event.accepted?.elim s s.after := by
  cases event with
  | update? dt t =>
      rw [after, update?_eq, Event.accepted?]
      split <;> rfl
  | _ => rfl

theorem play_accepted (s : Session Float32 β) (events : List (Event Float32 β)) :
    s.play events = s.play (events.filterMap Event.accepted?) := by
  induction events generalizing s with
  | nil => rfl
  | cons event events ih =>
      change (s.after event).play events = _
      rw [ih, after_accepted, List.filterMap_cons]
      cases event.accepted? <;> rfl

end

end Session

/-- Checked frames and unchecked ones agree. A checked frame is refused exactly when the unchecked
one would warn of its length, which is when the length is wrong; otherwise it is the unchecked
frame. A refused frame leaves the controller, the body and the log as they were. So a session goes
on as if the refused frames had never been tried and the others had not been checked. -/
theorem checked_frames_agree [Body Float32 β] :
    (∀ (c : Controller Float32) (dt : Float32) (t : Tuning Float32) (r : Reading Float32),
      (c.advance? dt t r = .error (.timestep dt) ↔
        .timestepRejected dt ∈ (c.advance dt t r).notices) ∧
      c.advance? dt t r =
        if isTimestep dt then .ok (c.advance dt t r) else .error (.timestep dt)) ∧
    (∀ (s : Session Float32 β) (dt : Float32) (t : Tuning Float32),
      s.update? dt t =
        if isTimestep dt then (.ok (), s.update dt t) else (.error (.timestep dt), s)) ∧
    ∀ (s : Session Float32 β) (events : List (Session.Event Float32 β)),
      s.play events = s.play (events.filterMap Session.Event.accepted?) := by
  refine ⟨fun c dt t r => ⟨?_, c.advance?_eq dt t r⟩, Session.update?_eq, Session.play_accepted⟩
  rw [Controller.timestepRejected_mem_advance, c.advance?_eq]
  cases isTimestep dt <;> simp

end CharacterMotion
