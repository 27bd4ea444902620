import CharacterMotion.Proofs.Binary32.Orientation
import CharacterMotion.Proofs.Controller.FiniteMotion

/-!
Headings that can be used as directions, in single precision, of a heading on its own and of a
controller (`usable_heading_iff`).

A controller turns its heading by the velocity that each frame ends with, so that its heading goes
the way of the legs that its frames make (`heading_before`). With finite velocities the heading is
usable throughout if the direction given at first is not so long that its squared length is
infinite, and otherwise it is not even usable at first: it faces nowhere, and what is on its right
is NaN (`heading_along_too_long`).
-/

namespace CharacterMotion

theorem isFinite_elapsed (dt : Float32) : Scalar.isFinite (elapsed dt) := by
  unfold elapsed
  split
  · rename_i right
    rw [isTimestep, Bool.and_eq_true] at right
    exact right.1
  · exact Binary32.isFinite_zero

namespace Controller

/-- The leg that a frame makes for the heading. -/
def leg (c : Controller Float32) (q : Cue Float32) : Leg Float32 where
  velocity := (c.perform q).controller.velocity
  dt := elapsed q.dt
  rate := q.tuning.turnRate
  model := q.tuning.turnModel
  threshold := q.tuning.motionThreshold

theorem heading_perform (c : Controller Float32) (q : Cue Float32) :
    (c.perform q).controller.heading = c.heading.follow (c.leg q) := by
  rw [controller_perform, heading_frame, heading_takeAll]
  split <;> rename_i passes
  · rw [Heading.follow, leg, controller_perform]
  · have still : (c.leg q).Still :=
      .inl (.inr (.inr ((Binary32.not_pos_iff_of_isFinite (isFinite_elapsed q.dt)).mp passes)))
    have stays : c.heading.follow? (c.leg q) = none := by rw [Heading.follow?_eq, if_pos still]
    rw [Heading.follow_of_none stays]

/-- The heading of a controller in a run, as one that turns on its own. -/
theorem heading_before (c : Controller Float32) (cues : Nat → Cue Float32) (n : Nat) :
    (c.before cues n).heading =
      c.heading.after (fun k => (c.before cues k).leg (cues k)) n := by
  induction n with
  | zero => rfl
  | succ n ih =>
      change ((c.before cues n).perform (cues n)).controller.heading =
        (c.heading.after (fun k => (c.before cues k).leg (cues k)) n).follow _
      rw [heading_perform, ih]

end Controller

/-- A heading is given a direction of finite numbers and then turns with finite horizontal
velocities in frames of finite lengths, on its own or as that of a controller. It stays usable if
the squared length of the horizontal part of that direction is finite, and only then. The rates,
models and thresholds are arbitrary, numbers or not. -/
theorem usable_heading_iff {d : Vec3 Float32} (finite_x : Scalar.isFinite d.x)
    (finite_z : Scalar.isFinite d.z) :
    (∀ legs : Nat → Leg Float32, (∀ k, (legs k).Finite) →
      ((∀ n, ((Heading.ofDirection d).after legs n).Usable) ↔
        Scalar.isFinite d.flat.lengthSq)) ∧
    ∀ (gait : Gait) (cues : Nat → Cue Float32),
      let c := Controller.resting (.ofDirection d) gait
      (∀ k, Scalar.isFinite (c.frameAt cues k).controller.velocity.x ∧
        Scalar.isFinite (c.frameAt cues k).controller.velocity.z) →
      ((∀ n, (c.before cues n).heading.Usable) ↔ Scalar.isFinite d.flat.lengthSq) := by
  refine ⟨fun legs finite => Heading.usable_after_iff finite_x finite_z finite, ?_⟩
  intro gait cues c finite
  have legs (k : Nat) : ((c.before cues k).leg (cues k)).Finite :=
    ⟨(finite k).1, (finite k).2, isFinite_elapsed _⟩
  simp only [Controller.heading_before]
  exact Heading.usable_after_iff finite_x finite_z legs

/-- Turns with velocities too large to have a finite length, or too small to have a squared one. -/
def swerve (k : Nat) : Leg Float32 where
  velocity := if k % 2 = 0 then ⟨3e38, 5, -3e38⟩ else ⟨-1e-21, 0, -1e-21⟩
  dt := 0.125
  rate := 6
  model := if k % 3 = 0 then .exponential else .linear
  threshold := -1

/-- A run to one side and back again. -/
def weave (k : Nat) : Cue Float32 where
  orders := [.direction (if k % 2 = 0 then ⟨1, 0, 0⟩ else ⟨-1, 0, 1⟩)]
  dt := 0.015625
  tuning := .standard
  reading := ⟨true, none⟩

theorem usable_heading_iff_swerve :
    let far : Vec3 Float32 := ⟨1e18, -3, 1e18⟩
    let tooFar : Vec3 Float32 := ⟨1e30, 0, 0⟩
    let c := Controller.resting (.ofDirection far) default
    (∀ n, ((Heading.ofDirection far).after swerve n).Usable) ∧
      (Heading.ofDirection far).after swerve 2 ≠ Heading.ofDirection far ∧
      (∀ n, (c.before weave n).heading.Usable) ∧
      ¬ ∀ n, ((Heading.ofDirection tooFar).after swerve n).Usable := by
  intro far tooFar c
  have swerves (k : Nat) : (swerve k).Finite := by
    have brief : Scalar.isFinite (0.125 : Float32) := by decide
    unfold swerve
    refine ⟨?_, ?_, brief⟩ <;> dsimp only <;> split <;> decide +kernel
  have finite (k : Nat) : Scalar.isFinite (c.frameAt weave k).controller.velocity.x ∧
      Scalar.isFinite (c.frameAt weave k).controller.velocity.z := by
    have unowned (k : Nat) : (weave k).reading.velocity? = none := rfl
    have moderate (k : Nat) : (weave k).tuning.Moderate 4 4 := Tuning.Moderate.standard
    have brief (k : Nat) : Binary32.Below 0 (elapsed (weave k).dt) :=
      (by decide : Binary32.Below 0 (elapsed (0.015625 : Float32)))
    have rest : Binary32.Within (4 + 4) c.velocity := .of_zero rfl rfl
    have within := Controller.within_before (by decide) (by decide) unowned moderate brief rest
      (k + 1)
    exact ⟨within.finite_x, within.finite_z⟩
  have fits : Scalar.isFinite far.flat.lengthSq := by decide +kernel
  have long : ¬ Scalar.isFinite tooFar.flat.lengthSq := by decide +kernel
  obtain ⟨alone, controlled⟩ := usable_heading_iff (d := far) (by decide +kernel) (by decide +kernel)
  refine ⟨(alone swerve swerves).mpr fits, by decide +kernel,
    (controlled default weave finite).mpr fits, fun usable => long ?_⟩
  exact ((usable_heading_iff (d := tooFar) (by decide +kernel) (by decide +kernel)).1 swerve swerves).mp usable

/-- A direction of finite numbers, along which a new heading faces nowhere. -/
theorem heading_along_too_long :
    let d : Vec3 Float32 := ⟨1e30, 0, 0⟩
    let h := (Heading.ofDirection d).after swerve 0
    let c := Controller.resting (.ofDirection d) default
    (Scalar.isFinite d.x && Scalar.isFinite d.y && Scalar.isFinite d.z) = true ∧
      h.facing.isZero = true ∧ Scalar.isNaN h.right.x = true ∧ Scalar.isNaN h.right.z = true ∧
      (c.before weave 0).heading = h := by
  decide +kernel

end CharacterMotion
