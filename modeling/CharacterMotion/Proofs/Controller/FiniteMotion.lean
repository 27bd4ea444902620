import CharacterMotion.Proofs.Binary32.Steering
import CharacterMotion.Proofs.Controller.Commit

/-!
Single precision motion without infinities and NaNs, for a body that leaves the velocity to its
controller (`horizontal_velocity_finite`).

A run keeps the horizontal velocity finite, whatever directions are wanted in it, as long as speeds,
accelerations and lengths of frames leave room for one product of them (`Tuning.Moderate`). Without
that room the law fails: a step that is infinite is cut to a share of zero, and comes out as NaN
(`immoderate_velocity_nan`).

The bound on the velocity is what one frame hands to the next. It is not the target speed, since a
step can overshoot by rounding, but a fixed multiple of it.
-/

namespace CharacterMotion

open Binary32 (Below Within Drags Drives)

/-- The horizontal part of a velocity that a command sets. -/
def Command.horizontal? {α : Type} : Command α → Option (α × α)
  | .setVelocity v => some (v.x, v.z)
  | .setHorizontalVelocity x z => some (x, z)
  | _ => none

/-- Target speeds below `2 ^ s` and accelerations below `2 ^ b`, and nothing that speeds up where it
is to slow down. -/
structure Tuning.Moderate (s b : Nat) (t : Tuning Float32) : Prop where
  drags : Drags t
  targetSpeed : ∀ g, Below s (t.targetSpeed g)
  acceleration : 0 ≤ t.acceleration
  airControl : 0 ≤ t.airControl
  accelerationOn : ∀ onGround, Below b (t.accelerationOn onGround)

namespace Tuning.Moderate

variable {s b n : Nat} {t : Tuning Float32} (moderate : t.Moderate s b)

include moderate

theorem real_accelerationOn_nonneg (onGround : Bool) :
    0 ≤ Binary32.real (t.accelerationOn onGround) := by
  have finite := (moderate.accelerationOn onGround).isFinite
  cases onGround with
  | true => exact (Binary32.nonneg_iff finite).mp moderate.acceleration
  | false =>
      have finite : Scalar.isFinite (t.acceleration * t.airControl) := finite
      obtain ⟨finite_a, finite_c⟩ := Binary32.isFinite_of_mul finite
      exact ((Binary32.result_mul finite_a finite_c).near finite).nonneg <|
        mul_nonneg ((Binary32.nonneg_iff finite_a).mp moderate.acceleration)
          ((Binary32.nonneg_iff finite_c).mp moderate.airControl)

theorem drives {dt : Float32} (brief : Below n dt) (passes : 0 < dt) (range : s + b + n ≤ 122)
    (onGround : Bool) : Drives s b n (t.accelerationOn onGround) dt where
  finite_a := (moderate.accelerationOn onGround).isFinite
  finite_dt := brief.isFinite
  accelerates := moderate.real_accelerationOn_nonneg onGround
  passes := ((Binary32.pos_iff brief.isFinite).mp passes).le
  below_a := (le_abs_self _).trans_lt (moderate.accelerationOn onGround).abs_real_lt
  below_dt := (le_abs_self _).trans_lt brief.abs_real_lt
  range := range

/-- Another acceleration, with the range that it has. -/
theorem withAcceleration {a : Float32} (nonneg : 0 ≤ a) (ground : Below n a)
    (air : Below n (a * t.airControl)) : { t with acceleration := a }.Moderate s n where
  drags := ⟨moderate.drags.finite_deceleration, moderate.drags.finite_groundFriction,
    moderate.drags.deceleration, moderate.drags.groundFriction, moderate.drags.airResistance⟩
  targetSpeed := moderate.targetSpeed
  acceleration := nonneg
  airControl := moderate.airControl
  accelerationOn
    | true => ground
    | false => air

omit moderate

theorem standard : (Tuning.standard : Tuning Float32).Moderate 4 4 where
  drags := ⟨by decide, by decide, by decide, by decide, by decide⟩
  targetSpeed
    | .walk | .jog | .run | .sprint => by decide
  acceleration := by decide
  airControl := by decide
  accelerationOn
    | true => by decide
    | false => by decide

end Tuning.Moderate

namespace Controller

/-- A frame sets the horizontal velocity once, to what its controller has. -/
theorem horizontal?_commands_frame {α : Type} [Scalar α] (c : Controller α) (dt : α) (t : Tuning α)
    (r : Reading α) :
    let f := c.frame dt t r
    f.commands.filterMap Command.horizontal? =
      [(f.controller.velocity.x, f.controller.velocity.z)] := by
  intro f
  have assist : (if 0 < dt ∧ r.onGround = true ∧ CountsAsInput t c.direction then
      t.assistForce.toList.map fun force =>
        Command.applyForce (c.direction.flat.normalizeOrZero * force)
      else []).filterMap Command.horizontal? = [] := by
    split
    · cases t.assistForce <;> rfl
    · rfl
  have velocity : Command.horizontal?
      (if f.launches = true ∨ r.velocity? = none then .setVelocity f.controller.velocity
        else .setHorizontalVelocity f.controller.velocity.x f.controller.velocity.z) =
      some (f.controller.velocity.x, f.controller.velocity.z) := by
    split <;> rfl
  rw [commands_frame_eq, List.filterMap_append, List.filterMap_cons_none rfl,
    List.filterMap_cons_some velocity, assist]
  rfl

theorem horizontal?_commands_perform {α : Type} [Scalar α] (c : Controller α) (q : Cue α) :
    (c.perform q).commands.filterMap Command.horizontal? =
      [((c.perform q).controller.velocity.x, (c.perform q).controller.velocity.z)] := by
  obtain ⟨notices, performed⟩ := c.perform_eq q
  rw [performed]
  exact horizontal?_commands_frame ..

variable {s b n : Nat} {c : Controller Float32} {q : Cue Float32}

theorem within_perform (small : s ≤ 57) (range : s + b + n ≤ 122)
    (unowned : q.reading.velocity? = none) (moderate : q.tuning.Moderate s b)
    (brief : Below n (elapsed q.dt)) (within : Within (s + 4) c.velocity) :
    Within (s + 4) (c.perform q).controller.velocity := by
  have observed : ((c.takeAll q.orders).1.observe q.reading).velocity = c.velocity := by
    rw [velocity_observe unowned, velocity_takeAll]
  rw [controller_perform, velocity_frame, observed]
  split <;> rename_i passes
  · have flat := (c.takeAll q.orders).1.flat_lifted (elapsed q.dt) q.tuning q.reading
    rw [observed] at flat
    have lifted := within.of_flat_eq flat
    unfold steered
    split <;> rename_i wanted
    · obtain ⟨rfl, -⟩ := input?_eq_some wanted
      exact lifted.pursue small (moderate.targetSpeed _) (moderate.drives brief passes range _) _
    · exact lifted.brake small moderate.drags brief.isFinite passes _
  · exact within

theorem within_before (small : s ≤ 57) (range : s + b + n ≤ 122) {cues : Nat → Cue Float32}
    (unowned : ∀ k, (cues k).reading.velocity? = none)
    (moderate : ∀ k, (cues k).tuning.Moderate s b) (brief : ∀ k, Below n (elapsed (cues k).dt))
    (start : Within (s + 4) c.velocity) (k : Nat) : Within (s + 4) (c.before cues k).velocity :=
  stateAt_keeps (fun c : Controller Float32 => Within (s + 4) c.velocity) k.zero_le start
    fun k _ _ within => within_perform small range (unowned k) (moderate k) (brief k) within

end Controller

/-- In a run that begins at rest, over a body without a velocity of its own, every frame leaves the
horizontal velocity finite and within `2 ^ (s + 4)`, and tells the body this velocity and no other.
The tuning may change with every frame, as long as it stays moderate, and the directions are
arbitrary, numbers or not. -/
theorem horizontal_velocity_finite {s b n : Nat} (small : s ≤ 57) (range : s + b + n ≤ 122)
    (heading : Heading Float32) (gait : Gait) (cues : Nat → Cue Float32)
    (unowned : ∀ k, (cues k).reading.velocity? = none)
    (moderate : ∀ k, (cues k).tuning.Moderate s b) (brief : ∀ k, Below n (elapsed (cues k).dt))
    (k : Nat) :
    let f := (Controller.resting heading gait).frameAt cues k
    Within (s + 4) f.controller.velocity ∧
      f.commands.filterMap Command.horizontal? =
        [(f.controller.velocity.x, f.controller.velocity.z)] := by
  have rest : Within (s + 4) (Controller.resting heading gait).velocity := .of_zero rfl rfl
  have within := Controller.within_before small range unowned moderate brief rest (k + 1)
  exact ⟨within, Controller.horizontal?_commands_perform ..⟩

/-- A character that speeds up, with a direction too long for its length to be finite in every third
frame, and with an acceleration that is too great for the length of a step to be finite in the
end. -/
def surge (k : Nat) : Cue Float32 where
  orders := [.direction (if k % 3 = 2 then ⟨3e38, 0, 3e38⟩ else .forward)]
  dt := 0.015625
  tuning := { Tuning.standard with acceleration := if k < 3 then 8 else 1e30 }
  reading := ⟨k % 2 = 0, none⟩

theorem horizontal_velocity_finite_surge :
    let f := (Controller.fresh : Controller Float32).frameAt surge 3
    Within 8 f.controller.velocity ∧ 0 < f.controller.velocity.z ∧
      f.commands.filterMap Command.horizontal? =
        [(f.controller.velocity.x, f.controller.velocity.z)] := by
  intro f
  have moderate (k : Nat) : (surge k).tuning.Moderate 4 101 := by
    unfold surge
    dsimp only
    split
    · exact Tuning.Moderate.standard.withAcceleration (by decide) (by decide) (by decide)
    · exact Tuning.Moderate.standard.withAcceleration (by decide +kernel) (by decide +kernel)
        (by decide +kernel)
  have brief (k : Nat) : Below 0 (elapsed (surge k).dt) :=
    (by decide : Below 0 (elapsed (0.015625 : Float32)))
  obtain ⟨within, told⟩ := horizontal_velocity_finite (s := 4) (b := 101) (n := 0) (by decide)
    (by decide) .initial default surge (fun _ => rfl) moderate brief 3
  exact ⟨within, by decide +kernel, told⟩

/-- With the greatest acceleration, a step forward from rest ends in NaN. -/
theorem immoderate_velocity_nan :
    let t : Tuning Float32 := { Tuning.standard with acceleration := 3.4028234663852886e38 }
    let f := Controller.fresh.perform ⟨[.direction .forward], 0.015625, t, ⟨true, none⟩⟩
    Scalar.isFinite t.acceleration = true ∧ 0 ≤ t.acceleration ∧
      Scalar.isNaN f.controller.velocity.z = true ∧
      (f.commands.filterMap Command.horizontal?).any (fun p => Scalar.isNaN p.2) = true := by
  decide +kernel

end CharacterMotion
