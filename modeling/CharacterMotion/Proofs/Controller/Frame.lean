import CharacterMotion.Controller.Frame
import CharacterMotion.Proofs.Gate.Run

/-!
What orders and frames do to each part of a controller.

Orders touch what is wanted of the next frame and the gait, and nothing else (`takeAll_eq`). A frame
of any length is the frame of the length `elapsed`, with one more notice if the length was wrong.
Of a frame in which time passes, the gate takes the step `gateStep`, and the velocity is the
steered `lifted` one, which differs from the observed velocity in height only; a frame in which no
time passes leaves the gate and the heading alone and the velocity as observed.
-/

namespace CharacterMotion

variable {α : Type}

/-- Whether a notice tells of a launch. -/
def Notice.isLaunch : Notice α → Bool
  | .launched _ => true
  | _ => false

/-- Whether a jump launched in the frame, as its notices tell. -/
def Frame.launches (f : Frame α) : Bool := f.notices.any Notice.isLaunch

/-- The force that a command applies. -/
def Command.force? : Command α → Option (Vec3 α)
  | .applyForce f => some f
  | _ => none

/-- The length that a frame really has: a wrong length counts as zero. -/
def elapsed [Scalar α] (dt : α) : α := if isTimestep dt then dt else 0

namespace Controller

/-! ### Orders -/

theorem changeGait_eq (c : Controller α) (g : Gait) : ∃ gait,
    (c.changeGait g).1 = { c with gait } := by
  unfold changeGait
  split
  · exact ⟨c.gait, rfl⟩
  · exact ⟨g, rfl⟩

theorem take_gaitIndex (c : Controller α) (i : UInt8) :
    (c.take (.gaitIndex i)).1 = (c.changeGait (Gait.ofIndex i)).1 := by
  simp only [take, Gait.ofIndex]
  cases Gait.ofIndex? i <;> rfl

theorem any_isLaunch_changeGait (c : Controller α) (g : Gait) :
    (c.changeGait g).2.any Notice.isLaunch = false := by
  unfold changeGait
  split <;> rfl

theorem take_eq (c : Controller α) (o : Order α) : ∃ gait direction jumpRequested,
    (c.take o).1 = { c with gait, direction, jumpRequested } := by
  cases o with
  | gait g =>
      obtain ⟨gait, changed⟩ := c.changeGait_eq g
      exact ⟨gait, c.direction, c.jumpRequested, changed⟩
  | gaitIndex i =>
      obtain ⟨gait, changed⟩ := c.changeGait_eq (Gait.ofIndex i)
      exact ⟨gait, c.direction, c.jumpRequested, (c.take_gaitIndex i).trans changed⟩
  | direction v => exact ⟨c.gait, v, c.jumpRequested, rfl⟩
  | jump => exact ⟨c.gait, c.direction, true, rfl⟩

/-- Orders change the gait and what is wanted of the next frame. -/
theorem takeAll_eq (c : Controller α) (os : List (Order α)) : ∃ gait direction jumpRequested,
    (c.takeAll os).1 = { c with gait, direction, jumpRequested } := by
  induction os generalizing c with
  | nil => exact ⟨c.gait, c.direction, c.jumpRequested, rfl⟩
  | cons o os ih =>
      obtain ⟨g, d, j, first⟩ := c.take_eq o
      obtain ⟨gait, direction, jumpRequested, rest⟩ := ih (c.take o).1
      refine ⟨gait, direction, jumpRequested, ?_⟩
      change ((c.take o).1.takeAll os).1 = _
      rw [rest, first]

@[simp] theorem gate_takeAll (c : Controller α) (os : List (Order α)) :
    (c.takeAll os).1.gate = c.gate := by
  obtain ⟨_, _, _, told⟩ := c.takeAll_eq os
  rw [told]

@[simp] theorem velocity_takeAll (c : Controller α) (os : List (Order α)) :
    (c.takeAll os).1.velocity = c.velocity := by
  obtain ⟨_, _, _, told⟩ := c.takeAll_eq os
  rw [told]

@[simp] theorem heading_takeAll (c : Controller α) (os : List (Order α)) :
    (c.takeAll os).1.heading = c.heading := by
  obtain ⟨_, _, _, told⟩ := c.takeAll_eq os
  rw [told]

theorem any_isLaunch_take (c : Controller α) (o : Order α) :
    (c.take o).2.any Notice.isLaunch = false := by
  cases o with
  | gait g => exact c.any_isLaunch_changeGait g
  | gaitIndex i =>
      simp only [take]
      cases Gait.ofIndex? i with
      | none => exact c.any_isLaunch_changeGait default
      | some g => exact c.any_isLaunch_changeGait g
  | direction v => rfl
  | jump => rfl

/-- Orders launch nothing. -/
theorem any_isLaunch_takeAll (c : Controller α) (os : List (Order α)) :
    (c.takeAll os).2.any Notice.isLaunch = false := by
  induction os generalizing c with
  | nil => rfl
  | cons o os ih =>
      change ((c.take o).2 ++ ((c.take o).1.takeAll os).2).any Notice.isLaunch = false
      rw [List.any_append, any_isLaunch_take, ih, Bool.or_false]

/-! ### Readings -/

theorem velocity_observe {r : Reading α} (unowned : r.velocity? = none) (c : Controller α) :
    (c.observe r).velocity = c.velocity := by
  rw [observe, unowned]
  rfl

variable [Scalar α]

/-! ### The length of a frame -/

theorem controller_advance (c : Controller α) (dt : α) (t : Tuning α) (r : Reading α) :
    (c.advance dt t r).controller = (c.frame (elapsed dt) t r).controller := by
  unfold advance elapsed
  split <;> rfl

theorem launches_advance (c : Controller α) (dt : α) (t : Tuning α) (r : Reading α) :
    (c.advance dt t r).launches = (c.frame (elapsed dt) t r).launches := by
  unfold advance elapsed
  split
  · rfl
  · simp [Frame.launches, Notice.isLaunch]

/-! ### The parts of a frame -/

theorem input?_eq_some {t : Tuning α} {v direction : Vec3 α} (wanted : input? t v = some direction) :
    direction = v.flat ∧ 0 < v.flat.length ∧ t.inputThreshold ≤ v.flat.length := by
  unfold input? at wanted
  dsimp only at wanted
  split at wanted
  · rename_i long
    exact ⟨(Option.some.inj wanted).symm, long⟩
  · cases wanted

/-- The frame as the jump gate sees it. -/
def gateInput (c : Controller α) (dt : α) (t : Tuning α) (r : Reading α) : JumpGate.Input α :=
  ⟨dt, r.onGround, ((c.observe r).fallen dt t r).y, c.jumpRequested⟩

/-- The step that the jump gate takes if time passes. -/
def gateStep (c : Controller α) (dt : α) (t : Tuning α) (r : Reading α) :
    JumpGate α × JumpGate.Outcome :=
  c.gate.step (c.gateInput dt t r) t.jumpCooldown t.landingRule

/-- The velocity between the jump gate and steering. -/
def lifted (c : Controller α) (dt : α) (t : Tuning α) (r : Reading α) : Vec3 α :=
  let before := (c.observe r).fallen dt t r
  if (c.gateStep dt t r).2.launched then { before with y := t.jumpSpeed } else before

theorem flat_lifted (c : Controller α) (dt : α) (t : Tuning α) (r : Reading α) :
    (c.lifted dt t r).flat = (c.observe r).velocity.flat := by
  have fallen : ((c.observe r).fallen dt t r).flat = (c.observe r).velocity.flat := by
    unfold fallen Steering.fall
    split
    · split
      · split <;> rfl
      · rfl
    · rfl
  unfold lifted
  dsimp only
  split <;> exact fallen

/-- The controller in the middle of a frame, after what time has changed, and what the jump gate
made of the frame. -/
def moved (c : Controller α) (dt : α) (t : Tuning α) (r : Reading α) :
    Controller α × JumpGate.Outcome :=
  if 0 < dt then (c.observe r).move dt t r (input? t c.direction) else (c.observe r, .quiet)

theorem moved_of_pos {dt : α} (passes : 0 < dt) (c : Controller α) (t : Tuning α) (r : Reading α) :
    c.moved dt t r =
      let velocity :=
        (c.observe r).steered dt t r.onGround (input? t c.direction) (c.lifted dt t r)
      let heading := c.heading.turn velocity dt t.turnRate t.turnModel t.motionThreshold
      ({ c.observe r with gate := (c.gateStep dt t r).1, velocity, heading },
        (c.gateStep dt t r).2) := by
  rw [moved, if_pos passes]
  rfl

/-- A frame moves the controller, picks the clip, and gives its commands and notices. -/
theorem frame_eq (c : Controller α) (dt : α) (t : Tuning α) (r : Reading α) :
    c.frame dt t r =
      let moved := c.moved dt t r
      let input := input? t c.direction
      let shown :=
        { moved.1 with
          clip := Clip.select t r.onGround moved.1.speed, wasMoving := input.isSome }
      { controller := shown.forget
        commands :=
          shown.commands t r moved.2.launched (if 0 < dt ∧ r.onGround then input else none)
        notices := shown.notices t moved.2 (input.isSome && !c.wasMoving) } := by
  simp only [frame, moved, Bool.and_eq_true, decide_eq_true_eq]

theorem controller_frame (c : Controller α) (dt : α) (t : Tuning α) (r : Reading α) :
    (c.frame dt t r).controller =
      { (c.moved dt t r).1.forget with
        clip := Clip.select t r.onGround (c.moved dt t r).1.speed
        wasMoving := (input? t c.direction).isSome } := by
  simp only [frame, moved, decide_eq_true_eq]
  rfl

theorem notices_frame (c : Controller α) (dt : α) (t : Tuning α) (r : Reading α) :
    (c.frame dt t r).notices =
      (c.moved dt t r).1.notices t (c.moved dt t r).2
        ((input? t c.direction).isSome && !c.wasMoving) := by
  simp only [frame, moved, decide_eq_true_eq]
  rfl

theorem gait_frame (c : Controller α) (dt : α) (t : Tuning α) (r : Reading α) :
    (c.frame dt t r).controller.gait = c.gait := by
  rw [controller_frame]
  unfold moved
  split <;> rfl

theorem gate_frame (c : Controller α) (dt : α) (t : Tuning α) (r : Reading α) :
    (c.frame dt t r).controller.gate = if 0 < dt then (c.gateStep dt t r).1 else c.gate := by
  rw [controller_frame]
  unfold moved
  split <;> rfl

theorem velocity_frame (c : Controller α) (dt : α) (t : Tuning α) (r : Reading α) :
    (c.frame dt t r).controller.velocity =
      if 0 < dt then
        (c.observe r).steered dt t r.onGround (input? t c.direction) (c.lifted dt t r)
      else (c.observe r).velocity := by
  rw [controller_frame]
  unfold moved
  split <;> rfl

/-- The heading turns by the velocity that the frame ends with. -/
theorem heading_frame (c : Controller α) (dt : α) (t : Tuning α) (r : Reading α) :
    (c.frame dt t r).controller.heading =
      if 0 < dt then
        c.heading.turn (c.frame dt t r).controller.velocity dt t.turnRate t.turnModel
          t.motionThreshold
      else c.heading := by
  rw [controller_frame]
  unfold moved
  split <;> rfl

theorem forces_commands (c : Controller α) (t : Tuning α) (r : Reading α) (launched : Bool)
    (push : Option (Vec3 α)) :
    (c.commands t r launched push).filterMap Command.force? = push.elim [] fun direction =>
      t.assistForce.toList.map fun force => direction.normalizeOrZero * force := by
  unfold commands
  dsimp only
  cases push <;> cases t.assistForce <;> split <;> rfl

/-- A frame applies one force at most: the assisting one, on the ground and along the input. -/
theorem forces_frame (c : Controller α) (dt : α) (t : Tuning α) (r : Reading α) :
    (c.frame dt t r).commands.filterMap Command.force? =
      (if 0 < dt ∧ r.onGround then input? t c.direction else none).elim [] fun direction =>
        t.assistForce.toList.map fun force => direction.normalizeOrZero * force := by
  rw [frame_eq]
  exact forces_commands ..

theorem any_isLaunch_notices (c : Controller α) (t : Tuning α) (outcome : JumpGate.Outcome)
    (started : Bool) :
    (c.notices t outcome started).any Notice.isLaunch = outcome.launched := by
  obtain ⟨landed, launched⟩ := outcome
  cases landed <;> cases launched <;> cases started <;> rfl

theorem launches_frame (c : Controller α) (dt : α) (t : Tuning α) (r : Reading α) :
    (c.frame dt t r).launches = (decide (0 < dt) && (c.gateStep dt t r).2.launched) := by
  unfold Frame.launches
  rw [notices_frame, any_isLaunch_notices]
  unfold moved
  split <;> rename_i passes
  · rw [decide_eq_true passes, Bool.true_and]
    rfl
  · rw [decide_eq_false passes, Bool.false_and]
    rfl

end Controller

end CharacterMotion
