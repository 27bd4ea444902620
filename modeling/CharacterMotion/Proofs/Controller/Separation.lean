import CharacterMotion.Binary32.Scalar
import CharacterMotion.Proofs.Controller.Components

/-!
Where a character goes and how it jumps are two separate matters. Two runs with the same lengths of
frames and the same contact, over bodies that own a velocity in the same frames, that agree in all
that concerns the course agree in the course, whatever their jumps are; and the other way round
(`course_and_leap_separate`).

The course is the gait, the direction, the level part of the velocity, the heading and the clip; the
leap is the state of the gate, the vertical velocity and the request for a jump. A relation for each
of the two says of readings, tunings, orders, controllers and frames that they agree in it, and each
stage of a frame keeps both relations. The one thing that both have a part in is the command that
sets the velocity: a launch of the one decides whether the height is told along with the course of
the other.
-/

namespace CharacterMotion

variable {α : Type}

/-! ### What belongs to which -/

/-- The same command without the height of a velocity. -/
def Command.level : Command α → Command α
  | .setVelocity v => .setHorizontalVelocity v.x v.z
  | command => command

/-- The height that a command sets. -/
def Command.height? : Command α → Option α
  | .setVelocity v => some v.y
  | _ => none

/-- Tunings that differ at most in how characters jump and land. -/
def Tuning.SameCourse (t t' : Tuning α) : Prop :=
  ∃ gravity jumpHeight jumpCooldown landingRule,
    t' = { t with gravity, jumpHeight, jumpCooldown, landingRule }

/-- Tunings under which characters jump and land alike. -/
structure Tuning.SameLeap (t t' : Tuning α) : Prop where
  gravity : t'.gravity = t.gravity
  jumpHeight : t'.jumpHeight = t.jumpHeight
  jumpCooldown : t'.jumpCooldown = t.jumpCooldown
  landingRule : t'.landingRule = t.landingRule

structure Reading.SameCourse [Scalar α] (r r' : Reading α) : Prop where
  onGround : r'.onGround = r.onGround
  velocity? : r'.velocity?.map Vec3.flat = r.velocity?.map Vec3.flat

structure Reading.SameLeap (r r' : Reading α) : Prop where
  onGround : r'.onGround = r.onGround
  velocity? : r'.velocity?.map Vec3.y = r.velocity?.map Vec3.y

structure Cue.SameCourse [Scalar α] (q q' : Cue α) : Prop where
  /-- The same orders but for jumps. -/
  orders : q'.orders.filter (!·.isJump) = q.orders.filter (!·.isJump)
  dt : q'.dt = q.dt
  tuning : q.tuning.SameCourse q'.tuning
  reading : q.reading.SameCourse q'.reading

structure Cue.SameLeap (q q' : Cue α) : Prop where
  /-- A jump is asked for in both or in neither. -/
  orders : q'.orders.any Order.isJump = q.orders.any Order.isJump
  dt : q'.dt = q.dt
  tuning : q.tuning.SameLeap q'.tuning
  reading : q.reading.SameLeap q'.reading

namespace Controller

structure SameCourse [Scalar α] (c c' : Controller α) : Prop where
  gait : c'.gait = c.gait
  direction : c'.direction = c.direction
  velocity : c'.velocity.flat = c.velocity.flat
  heading : c'.heading = c.heading

structure SameLeap (c c' : Controller α) : Prop where
  gate : c'.gate = c.gate
  velocity : c'.velocity.y = c.velocity.y
  jumpRequested : c'.jumpRequested = c.jumpRequested

theorem y_observe (c : Controller α) (r : Reading α) :
    (c.observe r).velocity.y = (r.velocity?.map Vec3.y).getD c.velocity.y := by
  unfold observe
  cases r.velocity? <;> rfl

namespace SameLeap

variable {c c' : Controller α} {r r' : Reading α}

theorem told (same : c.SameLeap c') {os os' : List (Order α)}
    (orders : os'.any Order.isJump = os.any Order.isJump) :
    (c.takeAll os).1.SameLeap (c'.takeAll os').1 := by
  rw [takeAll_eq_fold, takeAll_eq_fold]
  refine ⟨same.gate, same.velocity, ?_⟩
  dsimp only
  rw [same.jumpRequested, orders]

theorem observe (same : c.SameLeap c') (reading : r.SameLeap r') :
    (c'.observe r').velocity.y = (c.observe r).velocity.y := by
  rw [y_observe, y_observe, reading.velocity?, same.velocity]

theorem isNone (reading : r.SameLeap r') : r'.velocity?.isNone = r.velocity?.isNone := by
  have owned := congrArg Option.isNone reading.velocity?
  rwa [Option.isNone_map, Option.isNone_map] at owned

end SameLeap

variable [Scalar α]

/-! ### The course through a frame -/

theorem map_level_commands (c : Controller α) (t : Tuning α) (r : Reading α) (launched : Bool)
    (push : Option (Vec3 α)) :
    (c.commands t r launched push).map Command.level =
      [.setYaw c.heading.yaw, .setHorizontalVelocity c.velocity.flat.x c.velocity.flat.z] ++
      (push.elim [] fun direction =>
        t.assistForce.toList.map fun force => .applyForce (direction.normalizeOrZero * force)) ++
      [.setClip c.clip] := by
  unfold commands
  dsimp only
  cases push <;> cases t.assistForce <;> split <;> rfl

theorem flat_observe (c : Controller α) (r : Reading α) :
    (c.observe r).velocity.flat = (r.velocity?.map Vec3.flat).getD c.velocity.flat := by
  unfold observe
  cases r.velocity? <;> rfl

namespace SameCourse

variable {c c' : Controller α} {t t' : Tuning α} {r r' : Reading α}

theorem told (same : c.SameCourse c') {os os' : List (Order α)}
    (orders : os'.filter (!·.isJump) = os.filter (!·.isJump)) :
    (c.takeAll os).1.SameCourse (c'.takeAll os').1 := by
  rw [takeAll_eq_fold, takeAll_eq_fold]
  constructor
  · change Order.lastGait os' c'.gait = Order.lastGait os c.gait
    rw [← Order.lastGait_filter os', orders, Order.lastGait_filter, same.gait]
  · change Order.lastDirection os' c'.direction = Order.lastDirection os c.direction
    rw [← Order.lastDirection_filter os', orders, Order.lastDirection_filter, same.direction]
  · exact same.velocity
  · exact same.heading

theorem observe (same : c.SameCourse c') (reading : r.SameCourse r') :
    (c'.observe r').velocity.flat = (c.observe r).velocity.flat := by
  rw [flat_observe, flat_observe, reading.velocity?, same.velocity]

/-- Steering and turning go by the course alone. -/
theorem moved (same : c.SameCourse c') (tuning : t.SameCourse t') (reading : r.SameCourse r')
    (dt : α) : (c.moved dt t r).1.SameCourse (c'.moved dt t' r').1 := by
  by_cases passes : 0 < dt
  · have lifted : (c'.lifted dt t' r').flat = (c.lifted dt t r).flat := by
      rw [flat_lifted, flat_lifted, same.observe reading]
    have steered :
        ((c'.observe r').steered dt t' r'.onGround (input? t' c'.direction)
          (c'.lifted dt t' r')).flat =
        ((c.observe r).steered dt t r.onGround (input? t c.direction) (c.lifted dt t r)).flat := by
      rw [flat_steered_congr lifted, reading.onGround, same.direction]
      obtain ⟨_, _, _, _, rfl⟩ := tuning
      unfold Controller.steered
      rw [show (c'.observe r').gait = (c.observe r).gait from same.gait]
      rfl
    rw [moved_of_pos passes, moved_of_pos passes]
    refine ⟨same.gait, same.direction, steered, ?_⟩
    dsimp only
    rw [Heading.turn_congr steered, same.heading]
    obtain ⟨_, _, _, _, rfl⟩ := tuning
    rfl
  · rw [Controller.moved, Controller.moved, if_neg passes, if_neg passes]
    exact ⟨same.gait, same.direction, same.observe reading, same.heading⟩

theorem select (level : c'.velocity.flat = c.velocity.flat) (tuning : t.SameCourse t')
    (contact : r'.onGround = r.onGround) :
    Clip.select t' r'.onGround c'.speed = Clip.select t r.onGround c.speed := by
  obtain ⟨_, _, _, _, rfl⟩ := tuning
  unfold speed
  rw [level, contact]
  rfl

end SameCourse

end Controller

/-- Frames that agree in the course and in its commands. -/
structure Frame.SameCourse [Scalar α] (f f' : Frame α) : Prop where
  controller : f.controller.SameCourse f'.controller
  clip : f'.controller.clip = f.controller.clip
  commands : f'.commands.map Command.level = f.commands.map Command.level

/-- Frames that agree in the leap and in its commands. -/
structure Frame.SameLeap (f f' : Frame α) : Prop where
  controller : f.controller.SameLeap f'.controller
  launches : f'.launches = f.launches
  commands : f'.commands.filterMap Command.height? = f.commands.filterMap Command.height?

namespace Controller

variable [Scalar α] {c c' : Controller α} {q q' : Cue α}

theorem SameCourse.frame {t t' : Tuning α} {r r' : Reading α} (same : c.SameCourse c')
    (tuning : t.SameCourse t') (reading : r.SameCourse r') (dt : α) :
    (c.frame dt t r).SameCourse (c'.frame dt t' r') := by
  have moved := same.moved tuning reading dt
  have clip := select moved.velocity tuning reading.onGround
  have input : input? t' c'.direction = input? t c.direction := by
    obtain ⟨_, _, _, _, rfl⟩ := tuning
    rw [same.direction]
    rfl
  rw [frame_eq, frame_eq]
  dsimp only
  rw [input, clip]
  constructor
  · exact ⟨moved.gait, rfl, moved.velocity, moved.heading⟩
  · rfl
  · rw [map_level_commands, map_level_commands]
    dsimp only
    rw [moved.heading, moved.velocity, reading.onGround]
    obtain ⟨_, _, _, _, rfl⟩ := tuning
    rfl

theorem SameCourse.perform (same : c.SameCourse c') (cue : q.SameCourse q') :
    (c.perform q).SameCourse (c'.perform q') := by
  obtain ⟨_, frame⟩ := c.perform_eq q
  obtain ⟨_, frame'⟩ := c'.perform_eq q'
  have alike := (same.told cue.orders).frame cue.tuning cue.reading (elapsed q.dt)
  rw [frame, frame', cue.dt]
  exact ⟨alike.controller, alike.clip, alike.commands⟩

/-! ### The leap through a frame -/

theorem heights_commands (c : Controller α) (t : Tuning α) (r : Reading α) (launched : Bool)
    (push : Option (Vec3 α)) :
    (c.commands t r launched push).filterMap Command.height? =
      if launched || r.velocity?.isNone then [c.velocity.y] else [] := by
  unfold commands
  dsimp only
  cases push <;> cases t.assistForce <;> split <;> rfl

theorem heights_frame (c : Controller α) (dt : α) (t : Tuning α) (r : Reading α) :
    (c.frame dt t r).commands.filterMap Command.height? =
      if (c.frame dt t r).launches || r.velocity?.isNone then
        [(c.frame dt t r).controller.velocity.y]
      else [] := by
  have launches : (c.frame dt t r).launches = (c.moved dt t r).2.launched := by
    unfold Frame.launches
    rw [notices_frame, any_isLaunch_notices]
  rw [launches, controller_frame, frame_eq]
  exact heights_commands ..

namespace SameLeap

variable {t t' : Tuning α} {r r' : Reading α}

theorem fallen (same : c.SameLeap c') (tuning : t.SameLeap t') (reading : r.SameLeap r') (dt : α) :
    ((c'.observe r').fallen dt t' r').y = ((c.observe r).fallen dt t r).y := by
  unfold Controller.fallen
  rw [isNone reading]
  split
  · rw [Steering.y_fall, Steering.y_fall, same.observe reading, tuning.gravity, reading.onGround]
  · exact same.observe reading

/-- The gate takes the very same step. -/
theorem gateStep (same : c.SameLeap c') (tuning : t.SameLeap t') (reading : r.SameLeap r')
    (dt : α) : c'.gateStep dt t' r' = c.gateStep dt t r := by
  unfold Controller.gateStep gateInput
  rw [same.gate, same.fallen tuning reading, same.jumpRequested, reading.onGround,
    tuning.jumpCooldown, tuning.landingRule]

theorem lifted (same : c.SameLeap c') (tuning : t.SameLeap t') (reading : r.SameLeap r') (dt : α) :
    (c'.lifted dt t' r').y = (c.lifted dt t r).y := by
  have jumpSpeed : t'.jumpSpeed = t.jumpSpeed := by
    unfold Tuning.jumpSpeed
    rw [tuning.gravity, tuning.jumpHeight]
  rw [y_lifted, y_lifted, same.gateStep tuning reading, same.fallen tuning reading, jumpSpeed]

theorem frame (same : c.SameLeap c') (tuning : t.SameLeap t') (reading : r.SameLeap r') (dt : α) :
    (c.frame dt t r).SameLeap (c'.frame dt t' r') := by
  have height : (c'.frame dt t' r').controller.velocity.y =
      (c.frame dt t r).controller.velocity.y := by
    rw [y_frame, y_frame, same.lifted tuning reading, same.observe reading]
  have launches : (c'.frame dt t' r').launches = (c.frame dt t r).launches := by
    rw [launches_frame, launches_frame, same.gateStep tuning reading]
  refine ⟨⟨?_, height, ?_⟩, launches, ?_⟩
  · rw [gate_frame, gate_frame, same.gateStep tuning reading, same.gate]
  · rw [controller_frame, controller_frame]
    rfl
  · rw [heights_frame, heights_frame, height, launches, isNone reading]

theorem perform (same : c.SameLeap c') (cue : q.SameLeap q') :
    (c.perform q).SameLeap (c'.perform q') := by
  obtain ⟨_, frame⟩ := c.perform_eq q
  obtain ⟨_, frame'⟩ := c'.perform_eq q'
  have alike := (same.told cue.orders).frame cue.tuning cue.reading (elapsed q.dt)
  have launches : (c'.perform q').launches = (c.perform q).launches := by
    rw [launches_told, launches_told, cue.dt, alike.launches]
  rw [cue.dt] at frame'
  refine ⟨?_, launches, ?_⟩
  · rw [frame, frame']
    exact alike.controller
  · rw [frame, frame']
    exact alike.commands

end SameLeap

variable {cues cues' : Nat → Cue α}

theorem SameCourse.before (same : c.SameCourse c') (alike : ∀ n, (cues n).SameCourse (cues' n))
    (n : Nat) : (c.before cues n).SameCourse (c'.before cues' n) :=
  stateAt_couples SameCourse same (fun n _ _ same => (same.perform (alike n)).controller) n

theorem SameLeap.before (same : c.SameLeap c') (alike : ∀ n, (cues n).SameLeap (cues' n))
    (n : Nat) : (c.before cues n).SameLeap (c'.before cues' n) :=
  stateAt_couples SameLeap same (fun n _ _ same => (same.perform (alike n)).controller) n

end Controller

/-- Two runs that agree in all that concerns the course agree in the course after every frame and in
the commands for it, whatever there is to their jumps; and two runs that agree in all that concerns
the leap agree in that, wherever the characters go. -/
theorem course_and_leap_separate [Scalar α] (c c' : Controller α) (cues cues' : Nat → Cue α) :
    (c.SameCourse c' → (∀ n, (cues n).SameCourse (cues' n)) →
      ∀ n, (c.frameAt cues n).SameCourse (c'.frameAt cues' n)) ∧
    (c.SameLeap c' → (∀ n, (cues n).SameLeap (cues' n)) →
      ∀ n, (c.frameAt cues n).SameLeap (c'.frameAt cues' n)) := by
  constructor
  · intro same alike n
    exact (same.before alike n).perform (alike n)
  · intro same alike n
    exact (same.before alike n).perform (alike n)

/-- A way in one direction, with a jump for the asking in every frame or without one, and with the
gravity to go with it; contact ends after the first frame. -/
def outing (direction : Vec3 Float32) (jumps : Bool) (n : Nat) : Cue Float32 where
  orders := if jumps then [.jump, .direction direction] else [.direction direction]
  dt := 0.25
  tuning := { Tuning.standard with gravity := if jumps then 4.0 else 9.81 }
  reading := ⟨n == 0, none⟩

theorem course_and_leap_separate_outing :
    (∀ n, (Controller.fresh.frameAt (outing ⟨0, 0, 1⟩ true) n).SameCourse
      (Controller.fresh.frameAt (outing ⟨0, 0, 1⟩ false) n)) ∧
    (∀ n, (Controller.fresh.frameAt (outing ⟨0, 0, 1⟩ true) n).SameLeap
      (Controller.fresh.frameAt (outing ⟨1, 0, 0⟩ true) n)) ∧
    (Controller.fresh.frameAt (outing ⟨0, 0, 1⟩ true) 0).launches = true ∧
    (Controller.fresh.frameAt (outing ⟨0, 0, 1⟩ false) 0).launches = false := by
  have course (n : Nat) : (outing ⟨0, 0, 1⟩ true n).SameCourse (outing ⟨0, 0, 1⟩ false n) :=
    ⟨rfl, rfl, ⟨9.81, _, _, _, rfl⟩, ⟨rfl, rfl⟩⟩
  have leap (n : Nat) : (outing ⟨0, 0, 1⟩ true n).SameLeap (outing ⟨1, 0, 0⟩ true n) :=
    ⟨rfl, rfl, ⟨rfl, rfl, rfl, rfl⟩, ⟨rfl, rfl⟩⟩
  exact ⟨(course_and_leap_separate .fresh .fresh _ _).1 ⟨rfl, rfl, rfl, rfl⟩ course,
    (course_and_leap_separate .fresh .fresh _ _).2 ⟨rfl, rfl, rfl⟩ leap,
    by decide +kernel, by decide +kernel⟩

end CharacterMotion
