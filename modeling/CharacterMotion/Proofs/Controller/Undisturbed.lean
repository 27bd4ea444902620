import CharacterMotion.Proofs.Controller.Commit

/-!
Runs over a body that is left alone: between two frames nothing gives it another velocity, and in a
frame nothing but the commands does. Such a body either owns no velocity, or it has the one that the
frame before left in the controller; so there is one velocity to speak of before every frame, and
the frame steers from there (`flat_velocity_take`). Ground contact may change as it likes.
-/

namespace CharacterMotion

variable {α β : Type} [Scalar α]

/-- No command gives a velocity to a body that owns none. -/
theorem Command.foldl_store_none (commands : List (Command α)) :
    commands.foldl (fun owned command => command.store owned) none = none := by
  induction commands with
  | nil => rfl
  | cons command commands ih =>
      have none : command.store none = none := by
        cases command <;> rfl
      rw [List.foldl_cons, none, ih]

namespace Embodied

variable [Body α β]

/-- The velocity that the next frame starts with: of the body, if it owns one. -/
def velocity (e : Embodied α β) : Vec3 α :=
  (Body.read e.body).velocity?.getD e.controller.velocity

/-- Horizontal speed. -/
def speed (e : Embodied α β) : α := e.velocity.flat.length

/-- The controller that turn `n` of a run starts with: the orders for it are taken. -/
def toldAt (e : Embodied α β) (turns : Nat → Turn α β) (n : Nat) : Controller α :=
  ((e.before turns n).controller.takeAll (turns n).orders).1

/-- What is read of the body in turn `n` of a run. -/
def readingAt (e : Embodied α β) (turns : Nat → Turn α β) (n : Nat) : Reading α :=
  Body.read ((turns n).change (e.before turns n).body)

/-- What becomes of the body before a turn leaves its velocity alone. -/
def Undisturbed (e : Embodied α β) (t : Turn α β) : Prop :=
  (Body.read (t.change e.body)).velocity? = (Body.read e.body).velocity?

variable {e : Embodied α β} {t : Turn α β} (stores : Body.StoresVelocity β)
  (undisturbed : e.Undisturbed t)

include stores undisturbed

/-- After a turn the velocity is that of the controller, whether the body owns it or not. -/
theorem velocity_take : (e.take t).velocity = (e.perform t).controller.velocity := by
  cases owned : (Body.read e.body).velocity? with
  | none =>
      have unowned : (Body.read (e.take t).body).velocity? = none := by
        rw [take, stores.foldl_obey, undisturbed, owned, Command.foldl_store_none]
      unfold velocity
      rw [unowned]
      rfl
  | some v =>
      obtain ⟨agrees, -, -⟩ := agrees_take stores t (undisturbed.trans owned)
      unfold velocity
      rw [agrees]
      rfl

/-- A turn in which time passes steers the horizontal velocity, and any other one keeps it. -/
theorem flat_velocity_take :
    let told := (e.controller.takeAll t.orders).1
    (e.take t).velocity.flat =
      if 0 < elapsed t.dt then
        (told.steered (elapsed t.dt) t.tuning (Body.read (t.change e.body)).onGround
          (Controller.input? t.tuning told.direction) e.velocity).flat
      else e.velocity.flat := by
  intro told
  obtain ⟨-, controller, -⟩ := e.perform_eq_frame t
  have observed : (told.observe (Body.read (t.change e.body))).velocity = e.velocity := by
    change (Body.read (t.change e.body)).velocity?.getD told.velocity = _
    rw [undisturbed, Controller.velocity_takeAll]
    rfl
  rw [velocity_take stores undisturbed, controller, Controller.velocity_frame]
  split
  · refine Controller.flat_steered_congr ?_ ..
    rw [Controller.flat_lifted, observed]
  · rw [observed]

omit undisturbed in
/-- The same for turn `n` of a run. -/
theorem flat_velocity_succ {turns : Nat → Turn α β} {n : Nat}
    (undisturbed : (e.before turns n).Undisturbed (turns n)) :
    (e.before turns (n + 1)).velocity.flat =
      if 0 < elapsed (turns n).dt then
        ((e.toldAt turns n).steered (elapsed (turns n).dt) (turns n).tuning
          (e.readingAt turns n).onGround
          (Controller.input? (turns n).tuning (e.toldAt turns n).direction)
          (e.before turns n).velocity).flat
      else (e.before turns n).velocity.flat :=
  flat_velocity_take stores undisturbed

end Embodied

end CharacterMotion
