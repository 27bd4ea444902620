import CharacterMotion.Proofs.Binary32.Basic
import CharacterMotion.Proofs.Controller.Components
import CharacterMotion.Proofs.Controller.SingleJump

/-!
One jump for each contact, under any landing rule, for a character that nothing but its controller
moves (`exists_airborne_between_launches_of_unowned`). The gate alone does not keep this law: where
a landing needs no more than contact without upward motion, it launches in every such frame that
asks for a jump.

What carries the law is that a launch leaves two things behind: the gate lingers, and the character
rises. On the ground a positive vertical velocity is neither pulled down nor cut off, and steering
does not touch it. So neither rule sees a landing while contact lasts: the one for want of an edge,
the other because the character still rises.
-/

namespace CharacterMotion

namespace JumpGate

/-- No rule sees a landing of a lingering gate in a frame that rises. -/
theorem Lingers.not_touchesDown {g : JumpGate Float32} (lingers : g.Lingers) {i : Input Float32}
    (rises : 0 < i.verticalSpeed) (rule : LandingRule) : g.touchesDown i rule = false := by
  cases rule with
  | contactEdge => exact lingers.not_contactEdge i
  | groundedDescending => simp [touchesDown, Binary32.not_nonpos_of_pos rises]

/-- Where contact without upward motion is a landing, such a frame launches whenever it is asked to,
whatever went before. -/
theorem launched_of_descending {α : Type} [Scalar α] (g : JumpGate α) {i : Input α}
    (grounded : i.onGround = true) (descends : i.verticalSpeed ≤ 0) (requested : i.requested = true)
    (cooldown : α) : (g.step i cooldown .groundedDescending).2.launched = true := by
  have touches : g.touchesDown i .groundedDescending = true := by
    simp [touchesDown, grounded, descends]
  rw [launched_step, touches, grounded, requested]
  simp

end JumpGate

/-- A frame of a body that owns no velocity, with a tuning under which jumps go upward. -/
structure Cue.Lone (q : Cue Float32) : Prop where
  unowned : q.reading.velocity? = none
  leaps : 0 < q.tuning.jumpSpeed

/-- There is contact in a frame in which time passes and contact is not missing. -/
theorem Cue.onGround_of_unbroken {q : Cue Float32}
    (unbroken : ¬ (0 < elapsed q.dt ∧ q.reading.onGround = false)) (passes : 0 < elapsed q.dt) :
    q.reading.onGround = true :=
  eq_true_of_ne_false fun broken => unbroken ⟨passes, broken⟩

namespace Controller

/-- A jump lingers in the gate, and the character rises. -/
structure Rises (c : Controller Float32) : Prop where
  lingers : c.gate.Lingers
  upward : 0 < c.velocity.y

variable {c : Controller Float32} {q : Cue Float32}

/-- On the ground nothing is taken from a positive vertical velocity. -/
theorem y_fallen_of_pos (unowned : q.reading.velocity? = none)
    (grounded : q.reading.onGround = true) (pos : 0 < c.velocity.y) (dt : Float32) :
    ((c.observe q.reading).fallen dt q.tuning q.reading).y = c.velocity.y := by
  unfold fallen
  rw [if_pos (by rw [unowned]; rfl), velocity_observe unowned, Steering.fall, if_pos grounded,
    if_neg (Binary32.not_neg_of_pos pos)]

theorem y_perform_of_launches (launches : (c.perform q).launches) :
    (c.perform q).controller.velocity.y = q.tuning.jumpSpeed := by
  obtain ⟨passes, launched⟩ := launched_of_launches launches
  rw [controller_perform, y_frame, if_pos passes, y_lifted, gateStep_told, if_pos launched]

namespace Rises

/-- In a frame with contact the gate sees the character rise, so that it launches nothing and goes
on lingering. -/
theorem play (rises : c.Rises) (lone : q.Lone) (grounded : q.reading.onGround = true) :
    (c.gate.play (c.roundOf q)).2.launched = false ∧ (c.gate.play (c.roundOf q)).1.Lingers := by
  have upward : 0 < (c.roundOf q).input.verticalSpeed := by
    have told : 0 < (c.takeAll q.orders).1.velocity.y := by
      rw [velocity_takeAll]
      exact rises.upward
    have kept := y_fallen_of_pos lone.unowned grounded told (elapsed q.dt)
    change 0 < (((c.takeAll q.orders).1.observe q.reading).fallen _ q.tuning q.reading).y
    rwa [kept]
  exact rises.lingers.step_of_not_touchesDown grounded
    (rises.lingers.not_touchesDown upward _) _

theorem y_perform (rises : c.Rises) (lone : q.Lone)
    (unbroken : ¬ (0 < elapsed q.dt ∧ q.reading.onGround = false)) :
    (c.perform q).controller.velocity.y = c.velocity.y := by
  rw [controller_perform, y_frame]
  by_cases passes : 0 < elapsed q.dt
  · have grounded := Cue.onGround_of_unbroken unbroken passes
    have told : 0 < (c.takeAll q.orders).1.velocity.y := by
      rw [velocity_takeAll]
      exact rises.upward
    rw [if_pos passes, y_lifted, gateStep_told, (rises.play lone grounded).1,
      y_fallen_of_pos lone.unowned grounded told, velocity_takeAll]
    simp
  · rw [if_neg passes, velocity_observe lone.unowned, velocity_takeAll]

end Rises

theorem latch_rises : Latch (fun (c : Controller Float32) q => (c.perform q).controller)
    (fun q : Cue Float32 => q.Lone) (fun c q => (c.perform q).launches)
    (fun q => 0 < elapsed q.dt ∧ q.reading.onGround = false) Rises where
  sets c q lone launches := by
    obtain ⟨passes, launched⟩ := launched_of_launches launches
    constructor
    · rw [gate_perform, if_pos passes]
      exact JumpGate.lingers_of_launched launched
    · rw [y_perform_of_launches launches]
      exact lone.leaps
  not_released c q _ launches broken := by
    obtain ⟨-, launched⟩ := launched_of_launches launches
    have grounded : q.reading.onGround = true := JumpGate.onGround_of_launched launched
    rw [broken.2] at grounded
    cases grounded
  blocks c q lone rises unbroken launches := by
    obtain ⟨passes, launched⟩ := launched_of_launches launches
    have grounded := Cue.onGround_of_unbroken unbroken passes
    rw [(rises.play lone grounded).1] at launched
    cases launched
  keeps c q lone rises unbroken := by
    constructor
    · rw [gate_perform]
      split
      · rename_i passes
        exact (rises.play lone (Cue.onGround_of_unbroken unbroken passes)).2
      · exact rises.lingers
    · rw [rises.y_perform lone unbroken]
      exact rises.upward

end Controller

/-- Whatever the landing rules, tunings and lengths of the frames, a character over a body that owns
no velocity does not launch twice without a frame between in which time passes without contact, as
long as its jumps go upward. It is the velocity that sees to this: of the gate alone, under the rule
that takes contact without upward motion for a landing, every such frame can launch. -/
theorem exists_airborne_between_launches_of_unowned :
    (∀ (c : Controller Float32) (cues : Nat → Cue Float32),
      (∀ n, (cues n).reading.velocity? = none) → (∀ n, 0 < (cues n).tuning.jumpSpeed) →
      ∀ i j, i < j → (c.frameAt cues i).launches → (c.frameAt cues j).launches →
        ∃ k, i < k ∧ k < j ∧ 0 < elapsed (cues k).dt ∧ (cues k).reading.onGround = false) ∧
    ∀ (g : JumpGate Float32) (i : JumpGate.Input Float32) (cooldown : Float32),
      i.onGround → i.verticalSpeed ≤ 0 → i.requested →
        (g.step i cooldown .groundedDescending).2.launched := by
  constructor
  · intro c cues unowned leaps i j lt first second
    have lone (n : Nat) : (cues n).Lone := ⟨unowned n, leaps n⟩
    exact Controller.latch_rises.exists_release_between lone lt first second
  · intro g i cooldown grounded descends requested
    exact g.launched_of_descending grounded descends requested cooldown

/-- A jump is requested all the time, with contact in all frames but one, under either rule in turn;
every other frame has a wrong length. -/
def stamp (n : Nat) : Cue Float32 :=
  ⟨[.jump], if n % 2 = 0 then 0.25 else 0.0 / 0.0,
    { Tuning.standard with
      landingRule := if n % 4 = 0 then .contactEdge else .groundedDescending }, ⟨n != 6, none⟩⟩

theorem exists_airborne_between_launches_of_unowned_stamp :
    (Controller.fresh.frameAt stamp 0).launches ∧ (Controller.fresh.frameAt stamp 8).launches ∧
      (∃ k, 0 < k ∧ k < 8 ∧ 0 < elapsed (stamp k).dt ∧ (stamp k).reading.onGround = false) ∧
    ((JumpGate.fresh : JumpGate Float32).launch.step ⟨0.25, true, 0, true⟩ 1
      .groundedDescending).2.launched := by
  have leaps (n : Nat) : 0 < (stamp n).tuning.jumpSpeed := by
    change 0 < (Tuning.standard : Tuning Float32).jumpSpeed
    decide +kernel
  have first : (Controller.fresh.frameAt stamp 0).launches := by decide +kernel
  have second : (Controller.fresh.frameAt stamp 8).launches := by decide +kernel
  have law := exists_airborne_between_launches_of_unowned
  exact ⟨first, second, law.1 .fresh stamp (fun _ => rfl) leaps 0 8 (by decide) first second,
    law.2 JumpGate.fresh.launch ⟨0.25, true, 0, true⟩ 1 rfl (by decide +kernel) rfl⟩

end CharacterMotion
