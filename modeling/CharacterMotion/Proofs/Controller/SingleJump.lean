import CharacterMotion.Binary32.Scalar
import CharacterMotion.Proofs.Controller.Run

/-!
One jump for each contact. Under the contact edge rule a launch is followed by no other before a
frame without contact has been seen (`exists_airborne_between_launches`). The gate alone keeps this
law, and the frames of a controller in which no time passes, or whose length is wrong, cannot
break it.

What carries the law is that a launch leaves the gate lingering: with a jump outstanding, and with
the contact remembered that it launched from. A lingering gate sees no contact edge while contact
lasts, so that the jump stays outstanding, whatever the cooldown does to the readiness.
-/

namespace CharacterMotion

variable {α : Type} [Scalar α]

namespace JumpGate

/-- A jump is outstanding, and contact has not been seen broken since it launched. -/
structure Lingers (g : JumpGate α) : Prop where
  outstanding : g.outstanding = true
  hadContact : g.hadContact = true

theorem onGround_of_launched {g : JumpGate α} {i : Input α} {cooldown : α} {rule : LandingRule}
    (launched : (g.step i cooldown rule).2.launched = true) : i.onGround = true := by
  rw [launched_step] at launched
  cases grounded : i.onGround with
  | true => rfl
  | false => simp [grounded] at launched

theorem lingers_of_launched {g : JumpGate α} {i : Input α} {cooldown : α} {rule : LandingRule}
    (launched : (g.step i cooldown rule).2.launched = true) :
    (g.step i cooldown rule).1.Lingers where
  outstanding := by rw [outstanding_step, launched, Bool.true_or]
  hadContact := by rw [hadContact_step, onGround_of_launched launched]

/-- With contact and no landing a lingering gate launches nothing and goes on lingering. -/
theorem Lingers.step_of_not_touchesDown {g : JumpGate α} (lingers : g.Lingers) {i : Input α}
    (grounded : i.onGround = true) {rule : LandingRule} (untouched : g.touchesDown i rule = false)
    (cooldown : α) :
    (g.step i cooldown rule).2.launched = false ∧ (g.step i cooldown rule).1.Lingers := by
  have waits : (g.step i cooldown rule).2.launched = false := by
    rw [launched_step, untouched, lingers.outstanding]
    simp
  refine ⟨waits, ?_, ?_⟩
  · rw [outstanding_step, waits, untouched, lingers.outstanding]
    rfl
  · rw [hadContact_step, grounded]

theorem Lingers.not_contactEdge {g : JumpGate α} (lingers : g.Lingers) (i : Input α) :
    g.touchesDown i .contactEdge = false := by
  simp [touchesDown, lingers.hadContact]

/-- While contact lasts a lingering gate launches nothing and goes on lingering. -/
theorem Lingers.step {g : JumpGate α} (lingers : g.Lingers) {i : Input α}
    (grounded : i.onGround = true) (cooldown : α) :
    (g.step i cooldown .contactEdge).2.launched = false ∧
      (g.step i cooldown .contactEdge).1.Lingers :=
  lingers.step_of_not_touchesDown grounded (lingers.not_contactEdge i) cooldown

theorem latch_lingers : Latch (fun (g : JumpGate α) r => (g.play r).1)
    (fun r : Round α => r.rule = .contactEdge) (fun g r => (g.play r).2.launched = true)
    (fun r => r.input.onGround = false) Lingers where
  sets _ _ _ launched := lingers_of_launched launched
  not_released _ r _ launched broken := by
    rw [onGround_of_launched launched] at broken
    cases broken
  blocks g r edge lingers unbroken launched := by
    have waits := (lingers.step (eq_true_of_ne_false unbroken) r.cooldown).1
    rw [← edge] at waits
    exact Bool.false_ne_true (waits.symm.trans launched)
  keeps g r edge lingers unbroken := by
    have still := (lingers.step (eq_true_of_ne_false unbroken) r.cooldown).2
    rwa [← edge] at still

end JumpGate

namespace Controller

theorem launched_of_launches {c : Controller α} {q : Cue α} (launches : (c.perform q).launches) :
    0 < elapsed q.dt ∧ (c.gate.play (c.roundOf q)).2.launched = true := by
  rw [launches_perform, Bool.and_eq_true, decide_eq_true_eq] at launches
  exact launches

/-- The gate of a controller is the same latch, which the frames that reach the gate work. -/
theorem latch_lingers : Latch (fun (c : Controller α) q => (c.perform q).controller)
    (fun q : Cue α => q.tuning.landingRule = .contactEdge) (fun c q => (c.perform q).launches)
    (fun q => 0 < elapsed q.dt ∧ q.reading.onGround = false) (fun c => c.gate.Lingers) where
  sets c q edge launches := by
    obtain ⟨passes, launched⟩ := launched_of_launches launches
    rw [gate_perform, if_pos passes]
    exact JumpGate.latch_lingers.sets c.gate (c.roundOf q) edge launched
  not_released c q edge launches broken := by
    obtain ⟨-, launched⟩ := launched_of_launches launches
    exact JumpGate.latch_lingers.not_released c.gate (c.roundOf q) edge launched broken.2
  blocks c q edge lingers unbroken launches := by
    obtain ⟨passes, launched⟩ := launched_of_launches launches
    have contact : ¬ q.reading.onGround = false := fun broken => unbroken ⟨passes, broken⟩
    exact JumpGate.latch_lingers.blocks c.gate (c.roundOf q) edge lingers contact launched
  keeps c q edge lingers unbroken := by
    rw [gate_perform]
    split
    · rename_i passes
      have contact : ¬ q.reading.onGround = false := fun broken => unbroken ⟨passes, broken⟩
      exact JumpGate.latch_lingers.keeps c.gate (c.roundOf q) edge lingers contact
    · exact lingers

end Controller

/-- Under the contact edge rule there is a frame without contact between any two launches, of the
gate alone and of a controller. In the runs of a controller time passes in that frame. -/
theorem exists_airborne_between_launches :
    (∀ (g : JumpGate α) (rounds : Nat → JumpGate.Round α),
      (∀ n, (rounds n).rule = .contactEdge) →
      (∀ i j, i < j → (g.outcomeAt rounds i).launched → (g.outcomeAt rounds j).launched →
        ∃ k, i < k ∧ k < j ∧ (rounds k).input.onGround = false) ∧
      ∀ i, ¬ ((g.outcomeAt rounds i).launched ∧ (g.outcomeAt rounds (i + 1)).launched)) ∧
    ∀ (c : Controller α) (cues : Nat → Cue α),
      (∀ n, (cues n).tuning.landingRule = .contactEdge) →
      ∀ i j, i < j → (c.frameAt cues i).launches → (c.frameAt cues j).launches →
        ∃ k, i < k ∧ k < j ∧ 0 < elapsed (cues k).dt ∧ (cues k).reading.onGround = false := by
  refine ⟨fun g rounds edge => ?_, fun c cues edge i j lt first second => ?_⟩
  · have separated : ∀ i j, i < j → (g.outcomeAt rounds i).launched →
        (g.outcomeAt rounds j).launched → ∃ k, i < k ∧ k < j ∧ (rounds k).input.onGround = false :=
      fun i j lt first second =>
        JumpGate.latch_lingers.exists_release_between edge lt first second
    refine ⟨separated, fun i both => ?_⟩
    obtain ⟨k, after, before, -⟩ := separated i (i + 1) (Nat.lt_succ_self i) both.1 both.2
    exact Nat.not_lt_of_le after before
  · exact Controller.latch_lingers.exists_release_between edge lt first second

/-- A jump is requested all the time, and contact is missing in one step. Neither the length of a
frame nor the cooldown is a number. -/
def hop (n : Nat) : JumpGate.Round Float32 :=
  ⟨⟨0.0 / 0.0, n != 1, 0, true⟩, 0.0 / 0.0, .contactEdge⟩

/-- The same for a controller, with every other frame of a wrong length. -/
def hopCue (n : Nat) : Cue Float32 :=
  ⟨[.jump], if n % 2 = 0 then 0.25 else 0.0 / 0.0, .standard, ⟨n != 2, none⟩⟩

theorem exists_airborne_between_launches_hop :
    (∃ k, 0 < k ∧ k < 2 ∧ (hop k).input.onGround = false) ∧
    ∃ k, 0 < k ∧ k < 4 ∧ 0 < elapsed (hopCue k).dt ∧ (hopCue k).reading.onGround = false :=
  ⟨(exists_airborne_between_launches.1 .fresh hop (fun _ => rfl)).1 0 2
      (by decide) (by decide +kernel) (by decide +kernel),
    exists_airborne_between_launches.2 .fresh hopCue (fun _ => rfl) 0 4
      (by decide) (by decide +kernel) (by decide +kernel)⟩

end CharacterMotion
