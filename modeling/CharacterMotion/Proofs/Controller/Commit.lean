import CharacterMotion.Physics.Character
import CharacterMotion.Proofs.Binary32.Basic
import CharacterMotion.Proofs.Controller.Components

/-!
What a frame commits to its body. Every frame gives the yaw, one command for the velocity, a force
at most, and the clip, in this order (`commands_advance_eq`).

A body that owns its velocity and stores what it is told agrees with its controller after every
frame, although a frame without a launch does not tell it the height of the velocity: only a launch
changes that (`y_advance`). So both halves are needed, that a launch is committed in full and that
nothing else touches the height (`commits`).
-/

namespace CharacterMotion

variable {α β : Type}

/-- Whether a command sets a velocity in full. -/
def Command.setsVelocity : Command α → Bool
  | .setVelocity _ => true
  | _ => false

/-- A body whose velocity is changed by commands as they are meant: set in full, or but for its
height, or not at all. -/
structure Body.StoresVelocity (β : Type) [Scalar α] [Body α β] : Prop where
  velocity? : ∀ (b : β) (command : Command α),
    (Body.read (Body.obey b command)).velocity? = command.store (Body.read b).velocity?

theorem Puppet.storesVelocity [Scalar α] : Body.StoresVelocity (Puppet α) where
  velocity? _ _ := rfl

theorem Physics.Parts.storesVelocity [Scalar α] : Body.StoresVelocity (Physics.Parts α) where
  velocity? p command := by
    cases command with
    | applyForce f =>
        change (p.push f).velocity? = p.velocity?
        unfold push
        split <;> rfl
    | _ => rfl

theorem Body.StoresVelocity.foldl_obey [Scalar α] [Body α β] (stores : Body.StoresVelocity β)
    (commands : List (Command α)) (b : β) :
    (Body.read (commands.foldl Body.obey b)).velocity? =
      commands.foldl (fun owned command => command.store owned) (Body.read b).velocity? := by
  induction commands generalizing b with
  | nil => rfl
  | cons command commands ih => rw [List.foldl_cons, ih, stores.velocity?, List.foldl_cons]

/-- Whether a direction counts as input: it has a horizontal part, and one that is not shorter than
the threshold. -/
def CountsAsInput [Scalar α] (t : Tuning α) (direction : Vec3 α) : Prop :=
  0 < direction.flat.length ∧ t.inputThreshold ≤ direction.flat.length

instance [Scalar α] (t : Tuning α) (direction : Vec3 α) : Decidable (CountsAsInput t direction) :=
  inferInstanceAs (Decidable (_ ∧ _))

/-- Time passes in a frame that has a right length above zero. -/
theorem pos_elapsed_iff {dt : Float32} : 0 < elapsed dt ↔ isTimestep dt ∧ 0 < dt := by
  unfold elapsed
  split
  · rename_i right
    exact (and_iff_right right).symm
  · rename_i wrong
    constructor
    · intro passes
      exact absurd passes Binary32.not_pos_zero
    · rintro ⟨right, -⟩
      exact absurd right wrong

namespace Controller

variable [Scalar α]

theorem input?_eq (t : Tuning α) (direction : Vec3 α) :
    input? t direction = if CountsAsInput t direction then some direction.flat else none := rfl

/-! ### The commands of a frame -/

theorem launched_moved (c : Controller α) (dt : α) (t : Tuning α) (r : Reading α) :
    (c.moved dt t r).2.launched = (c.frame dt t r).launches := by
  rw [Frame.launches, notices_frame, any_isLaunch_notices]

theorem commands_eq (c : Controller α) (t : Tuning α) (r : Reading α) (launched : Bool)
    (push : Option (Vec3 α)) :
    c.commands t r launched push =
      .setYaw c.heading.yaw ::
      (if launched = true ∨ r.velocity? = none then .setVelocity c.velocity
        else .setHorizontalVelocity c.velocity.x c.velocity.z) ::
      (push.elim [] fun direction =>
        t.assistForce.toList.map fun force => .applyForce (direction.normalizeOrZero * force)) ++
      [.setClip c.clip] := by
  unfold commands
  dsimp only
  cases push <;> cases t.assistForce <;> simp

/-- A frame pushes along its input, if time passes and there is ground to push against. -/
theorem elim_push_eq {γ : Type} (c : Controller α) (dt : α) (t : Tuning α) (r : Reading α)
    (pushes : Vec3 α → List γ) :
    (if 0 < dt ∧ r.onGround = true then input? t c.direction else none).elim [] pushes =
      if 0 < dt ∧ r.onGround = true ∧ CountsAsInput t c.direction then pushes c.direction.flat
      else [] := by
  rw [input?_eq]
  by_cases grounded : 0 < dt ∧ r.onGround = true
  · rw [if_pos grounded]
    by_cases counts : CountsAsInput t c.direction
    · rw [if_pos counts, if_pos ⟨grounded.1, grounded.2, counts⟩, Option.elim_some]
    · rw [if_neg counts, if_neg fun all => counts all.2.2, Option.elim_none]
  · rw [if_neg grounded, if_neg fun all => grounded ⟨all.1, all.2.1⟩, Option.elim_none]

theorem commands_frame_eq (c : Controller α) (dt : α) (t : Tuning α) (r : Reading α) :
    let f := c.frame dt t r
    f.commands =
      .setYaw f.controller.heading.yaw ::
      (if f.launches = true ∨ r.velocity? = none then .setVelocity f.controller.velocity
        else .setHorizontalVelocity f.controller.velocity.x f.controller.velocity.z) ::
      (if 0 < dt ∧ r.onGround = true ∧ CountsAsInput t c.direction then
        t.assistForce.toList.map fun force =>
          .applyForce (c.direction.flat.normalizeOrZero * force)
        else []) ++
      [.setClip f.controller.clip] := by
  intro f
  have shown := congrArg Frame.controller (c.frame_eq dt t r)
  refine (congrArg Frame.commands (c.frame_eq dt t r)).trans ?_
  dsimp only at shown ⊢
  rw [commands_eq, launched_moved, elim_push_eq, show f.controller = _ from shown]
  rfl

theorem commands_advance_elapsed (c : Controller α) (dt : α) (t : Tuning α) (r : Reading α) :
    (c.advance dt t r).commands = (c.frame (elapsed dt) t r).commands := by
  unfold advance elapsed
  split <;> rfl

/-- What a frame of any length commits. -/
theorem commands_advance_eq (c : Controller Float32) (dt : Float32) (t : Tuning Float32)
    (r : Reading Float32) :
    let f := c.advance dt t r
    f.commands =
      .setYaw f.controller.heading.yaw ::
      (if f.launches = true ∨ r.velocity? = none then .setVelocity f.controller.velocity
        else .setHorizontalVelocity f.controller.velocity.x f.controller.velocity.z) ::
      (if (isTimestep dt = true ∧ 0 < dt) ∧ r.onGround = true ∧ CountsAsInput t c.direction then
        t.assistForce.toList.map fun force =>
          .applyForce (c.direction.flat.normalizeOrZero * force)
        else []) ++
      [.setClip f.controller.clip] := by
  intro f
  have commands : f.commands = (c.frame (elapsed dt) t r).commands :=
    c.commands_advance_elapsed dt t r
  have controller : f.controller = (c.frame (elapsed dt) t r).controller :=
    c.controller_advance dt t r
  have launches : f.launches = (c.frame (elapsed dt) t r).launches := c.launches_advance dt t r
  rw [commands, controller, launches, commands_frame_eq]
  simp only [pos_elapsed_iff]

/-! ### A velocity that the body owns -/

section

variable {r : Reading α} {v : Vec3 α} (owned : r.velocity? = some v) (c : Controller α) (dt : α)
  (t : Tuning α)

include owned

/-- The height of a velocity that the body owns stays what it is, unless a jump launches. -/
theorem y_frame_of_owned :
    (c.frame dt t r).controller.velocity.y =
      if (c.frame dt t r).launches then t.jumpSpeed else v.y := by
  have observed : (c.observe r).velocity = v := by
    rw [observe, owned]
    rfl
  have fallen : (c.observe r).fallen dt t r = v := by
    rw [Controller.fallen, owned, observed]
    rfl
  rw [y_frame, launches_frame, y_lifted, fallen, observed]
  by_cases passes : 0 < dt
  · rw [if_pos passes, decide_eq_true passes, Bool.true_and]
  · rw [if_neg passes, decide_eq_false passes, Bool.false_and]
    rfl

/-- The one command for the velocity makes it the controller's, in full or in its level part. -/
theorem store_velocity_frame :
    let f := c.frame dt t r
    (if f.launches = true ∨ r.velocity? = none then .setVelocity f.controller.velocity
      else .setHorizontalVelocity f.controller.velocity.x f.controller.velocity.z :
        Command α).store (some v) = some f.controller.velocity := by
  intro f
  have height : f.controller.velocity.y = if f.launches then t.jumpSpeed else v.y :=
    y_frame_of_owned owned c dt t
  by_cases launched : f.launches = true
  · rw [if_pos (.inl launched)]
    rfl
  · have steady : ¬ (f.launches = true ∨ r.velocity? = none) := by
      rintro (launches | unowned)
      · exact launched launches
      · rw [owned] at unowned
        cases unowned
    rw [if_neg launched] at height
    rw [if_neg steady]
    change some (Vec3.mk f.controller.velocity.x v.y f.controller.velocity.z) = _
    rw [← height]

/-- What a frame commits leaves the body with the velocity of the controller. -/
theorem store_frame :
    (c.frame dt t r).commands.foldl (fun stored command => command.store stored) (some v) =
      some (c.frame dt t r).controller.velocity := by
  have velocity := store_velocity_frame owned c dt t
  have yaw : (Command.setYaw (c.frame dt t r).controller.heading.yaw).store (some v) = some v := rfl
  dsimp only at velocity
  rw [commands_frame_eq]
  simp only [List.foldl_append, List.foldl_cons, List.foldl_nil]
  rw [yaw, velocity]
  split
  · cases t.assistForce <;> rfl
  · rfl

theorem countP_setsVelocity_frame :
    (c.frame dt t r).commands.countP Command.setsVelocity =
      (c.frame dt t r).launches.toNat := by
  have assist : (if 0 < dt ∧ r.onGround = true ∧ CountsAsInput t c.direction then
      t.assistForce.toList.map fun force =>
        Command.applyForce (c.direction.flat.normalizeOrZero * force)
      else []).countP Command.setsVelocity = 0 := by
    split
    · cases t.assistForce <;> rfl
    · rfl
  rw [commands_frame_eq, List.countP_append, List.countP_cons, List.countP_cons, assist, owned]
  cases (c.frame dt t r).launches <;> rfl

end

end Controller

/-! ### Runs -/

namespace Embodied

section

variable [Scalar α] [Body α β] {e : Embodied α β}

theorem perform_eq_frame (e : Embodied α β) (t : Turn α β) :
    (e.perform t).commands = ((e.controller.takeAll t.orders).1.frame (elapsed t.dt) t.tuning
      (Body.read (t.change e.body))).commands ∧
    (e.perform t).controller = ((e.controller.takeAll t.orders).1.frame (elapsed t.dt) t.tuning
      (Body.read (t.change e.body))).controller ∧
    (e.perform t).launches = ((e.controller.takeAll t.orders).1.frame (elapsed t.dt) t.tuning
      (Body.read (t.change e.body))).launches :=
  ⟨Controller.commands_advance_elapsed .., Controller.controller_perform ..,
    Controller.launches_told ..⟩

/-- A turn of a controller with a body that owns the velocity `v` when the frame begins. -/
theorem agrees_take (stores : Body.StoresVelocity β) (t : Turn α β) {v : Vec3 α}
    (owned : (Body.read (t.change e.body)).velocity? = some v) :
    (Body.read (e.take t).body).velocity? = some (e.take t).controller.velocity ∧
    (e.take t).controller.velocity.y =
      (if (e.perform t).launches then t.tuning.jumpSpeed else v.y) ∧
    (e.perform t).commands.countP Command.setsVelocity = (e.perform t).launches.toNat := by
  obtain ⟨commands, controller, launches⟩ := e.perform_eq_frame t
  refine ⟨?_, ?_, ?_⟩
  · rw [take, stores.foldl_obey, owned, commands, controller]
    exact Controller.store_frame owned ..
  · rw [take, launches, controller]
    exact Controller.y_frame_of_owned owned ..
  · rw [commands, launches]
    exact Controller.countP_setsVelocity_frame owned ..

end

/-- What a frame commits, and what comes of it in a run with a body that owns a velocity and stores
what it is told. However the velocity changes between the frames, after each of them the body has
the velocity of the controller; its height is the one that the frame found, or the speed of a jump
if one launched; and so far the velocity has been set in full as often as a jump launched. -/
theorem commits [Body Float32 β] :
    (∀ (c : Controller Float32) (dt : Float32) (t : Tuning Float32) (r : Reading Float32),
      let f := c.advance dt t r
      f.commands =
        .setYaw f.controller.heading.yaw ::
        (if f.launches = true ∨ r.velocity? = none then .setVelocity f.controller.velocity
          else .setHorizontalVelocity f.controller.velocity.x f.controller.velocity.z) ::
        (if (isTimestep dt = true ∧ 0 < dt) ∧ r.onGround = true ∧ CountsAsInput t c.direction then
          t.assistForce.toList.map fun force =>
            .applyForce (c.direction.flat.normalizeOrZero * force)
          else []) ++
        [.setClip f.controller.clip]) ∧
    ∀ (e : Embodied Float32 β) (turns : Nat → Turn Float32 β), Body.StoresVelocity β →
      (∀ n, (Body.read ((turns n).change (e.before turns n).body)).velocity?.isSome) →
      ∀ n, (∃ v, (Body.read ((turns n).change (e.before turns n).body)).velocity? = some v ∧
          (Body.read (e.before turns (n + 1)).body).velocity? =
            some (e.before turns (n + 1)).controller.velocity ∧
          (e.before turns (n + 1)).controller.velocity.y =
            if (e.frameAt turns n).launches then (turns n).tuning.jumpSpeed else v.y) ∧
        ((List.range n).flatMap fun k => (e.frameAt turns k).commands).countP
            Command.setsVelocity =
          (List.range n).countP fun k => (e.frameAt turns k).launches := by
  refine ⟨Controller.commands_advance_eq, fun e turns stores owns n => ⟨?_, ?_⟩⟩
  · obtain ⟨v, owned⟩ := Option.isSome_iff_exists.mp (owns n)
    obtain ⟨agrees, height, -⟩ := agrees_take stores (turns n) owned
    exact ⟨v, owned, agrees, height⟩
  · induction n with
    | zero => rfl
    | succ n ih =>
        obtain ⟨v, owned⟩ := Option.isSome_iff_exists.mp (owns n)
        obtain ⟨-, -, once⟩ := agrees_take stores (turns n) owned
        have sets : (e.frameAt turns n).commands.countP Command.setsVelocity =
            (e.frameAt turns n).launches.toNat := once
        rw [List.range_succ, List.flatMap_append, List.countP_append, ih, List.countP_append,
          List.countP_singleton, List.flatMap_singleton, sets]
        cases (e.frameAt turns n).launches <;> rfl

/-- A body on the ground, at rest. -/
def standing : Puppet Float32 := ⟨true, some 0, []⟩

/-- Before each frame the body is thrown upward, and a jump is asked for. -/
def throw (_ : Nat) : Turn Float32 (Puppet Float32) where
  change p := { p with velocity? := some ⟨1, 7, 0⟩ }
  orders := [.direction .forward, .jump]
  dt := 1 / 60.0
  tuning := .standard

theorem commits_throw :
    let e : Embodied Float32 (Puppet Float32) := ⟨.fresh, standing⟩
    (e.frameAt throw 0).launches = true ∧
    (e.before throw 1).controller.velocity.y = Tuning.jumpSpeed .standard ∧
    (e.before throw 2).controller.velocity.y = 7 ∧
    (e.before throw 2).body.velocity? = some (e.before throw 2).controller.velocity := by
  intro e
  have owns : ∀ n, (Body.read ((throw n).change (e.before throw n).body)).velocity?.isSome :=
    fun _ => rfl
  have launched : (e.frameAt throw 0).launches = true := by decide +kernel
  have waits : (e.frameAt throw 1).launches = false := by decide +kernel
  obtain ⟨⟨v, -, -, leaps⟩, -⟩ := commits.2 e throw Puppet.storesVelocity owns 0
  obtain ⟨⟨v', thrown, agrees, keeps⟩, -⟩ := commits.2 e throw Puppet.storesVelocity owns 1
  rw [launched] at leaps
  rw [waits] at keeps
  obtain rfl : ⟨1, 7, 0⟩ = v' := Option.some.inj thrown
  exact ⟨launched, leaps, keeps, agrees⟩

end Embodied

end CharacterMotion
