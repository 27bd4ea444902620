import CharacterMotion.Binary32.Scalar
import CharacterMotion.Proofs.Controller.Run
import CharacterMotion.Proofs.Gate.Readiness

/-!
The cooldown never decides a launch (`cooldown_never_decides`). Two controllers whose gates are
twins, with tunings that differ in the cooldown only, run the same frame: the same commands and
notices, and the same controller up to the gate, with twin gates again (`frame_regate`). As the body
takes the same commands in both runs, the next frame reads the same of it.
-/

namespace CharacterMotion

variable {α : Type}

/-- The same tuning with another cooldown. -/
def Tuning.recool (t : Tuning α) (cooldown : α) : Tuning α := { t with jumpCooldown := cooldown }

namespace Controller

/-- The same controller with another gate. -/
def regate (c : Controller α) (gate : JumpGate α) : Controller α := { c with gate }

/-! ### Orders -/

theorem changeGait_regate (c : Controller α) (gate : JumpGate α) (g : Gait) :
    (c.regate gate).changeGait g = ((c.changeGait g).1.regate gate, (c.changeGait g).2) := by
  unfold changeGait
  split <;> rename_i same
  · rw [if_pos (show c.gait = g from same)]
  · rw [if_neg (show ¬ c.gait = g from same)]
    rfl

theorem take_regate (c : Controller α) (gate : JumpGate α) (o : Order α) :
    (c.regate gate).take o = ((c.take o).1.regate gate, (c.take o).2) := by
  cases o with
  | gait g => exact c.changeGait_regate gate g
  | gaitIndex i =>
      simp only [take]
      cases Gait.ofIndex? i with
      | none => simp only [changeGait_regate]
      | some g => exact c.changeGait_regate gate g
  | direction v => rfl
  | jump => rfl

theorem takeAll_regate (c : Controller α) (gate : JumpGate α) (os : List (Order α)) :
    (c.regate gate).takeAll os = ((c.takeAll os).1.regate gate, (c.takeAll os).2) := by
  induction os generalizing c with
  | nil => rfl
  | cons o os ih => simp only [takeAll, take_regate, ih]

/-! ### Frames -/

variable [Scalar α] {c : Controller α} {gate : JumpGate α}

theorem gateStep_regate (twin : c.gate.Twin gate) (dt cooldown : α) (t : Tuning α)
    (r : Reading α) :
    ((c.regate gate).gateStep dt (t.recool cooldown) r).2 = (c.gateStep dt t r).2 ∧
      (c.gateStep dt t r).1.Twin ((c.regate gate).gateStep dt (t.recool cooldown) r).1 := by
  have alike : JumpGate.Round.Alike ⟨c.gateInput dt t r, t.jumpCooldown, t.landingRule⟩
      ⟨c.gateInput dt t r, cooldown, t.landingRule⟩ := ⟨rfl, rfl, rfl, rfl⟩
  exact ⟨twin.outcome_play alike, twin.play alike⟩

theorem moved_regate (twin : c.gate.Twin gate) (dt cooldown : α) (t : Tuning α) (r : Reading α) :
    ∃ gate', (c.regate gate).moved dt (t.recool cooldown) r =
        ((c.moved dt t r).1.regate gate', (c.moved dt t r).2) ∧
      (c.moved dt t r).1.gate.Twin gate' := by
  by_cases passes : 0 < dt
  · obtain ⟨outcome, twin'⟩ := gateStep_regate twin dt cooldown t r
    have lifted : (c.regate gate).lifted dt (t.recool cooldown) r = c.lifted dt t r := by
      unfold lifted
      rw [outcome]
      rfl
    refine ⟨((c.regate gate).gateStep dt (t.recool cooldown) r).1, ?_, ?_⟩
    · rw [moved_of_pos passes, moved_of_pos passes, lifted, outcome]
      rfl
    · rw [moved_of_pos passes]
      exact twin'
  · rw [moved, moved, if_neg passes, if_neg passes]
    exact ⟨gate, rfl, twin⟩

theorem frame_regate (twin : c.gate.Twin gate) (dt cooldown : α) (t : Tuning α) (r : Reading α) :
    ∃ gate', (c.regate gate).frame dt (t.recool cooldown) r =
        { c.frame dt t r with controller := (c.frame dt t r).controller.regate gate' } ∧
      (c.frame dt t r).controller.gate.Twin gate' := by
  obtain ⟨gate', moved, twin'⟩ := moved_regate twin dt cooldown t r
  refine ⟨gate', ?_, ?_⟩
  · rw [frame_eq, frame_eq, moved]
    rfl
  · rw [controller_frame]
    exact twin'

theorem advance_regate (twin : c.gate.Twin gate) (dt cooldown : α) (t : Tuning α) (r : Reading α) :
    ∃ gate', (c.regate gate).advance dt (t.recool cooldown) r =
        { c.advance dt t r with controller := (c.advance dt t r).controller.regate gate' } ∧
      (c.advance dt t r).controller.gate.Twin gate' := by
  unfold advance
  split
  · exact frame_regate twin dt cooldown t r
  · obtain ⟨gate', frame, twin'⟩ := frame_regate twin 0 cooldown t r
    refine ⟨gate', ?_, twin'⟩
    dsimp only
    rw [frame]

theorem perform_regate (twin : c.gate.Twin gate) (q : Cue α) (cooldown : α) :
    ∃ gate', (c.regate gate).perform { q with tuning := q.tuning.recool cooldown } =
        { c.perform q with controller := (c.perform q).controller.regate gate' } ∧
      (c.perform q).controller.gate.Twin gate' := by
  have told : (c.takeAll q.orders).1.gate.Twin gate := by rwa [gate_takeAll]
  obtain ⟨gate', frame, twin'⟩ := advance_regate told q.dt cooldown q.tuning q.reading
  refine ⟨gate', ?_, twin'⟩
  unfold perform
  dsimp only
  rw [takeAll_regate, frame]

end Controller

/-! ### Runs -/

/-- The same turn with another cooldown. -/
def Turn.recool {β : Type} (t : Turn α β) (cooldown : α) : Turn α β :=
  { t with tuning := t.tuning.recool cooldown }

namespace Embodied

variable {β : Type}

/-- The same body, moved by the same controller up to twin gates. -/
def Twin (e e' : Embodied α β) : Prop :=
  ∃ gate, e' = ⟨e.controller.regate gate, e.body⟩ ∧ e.controller.gate.Twin gate

variable [Scalar α] [Body α β]

theorem Twin.perform_recool {e e' : Embodied α β} (twin : e.Twin e') (t : Turn α β) (cooldown : α) :
    ∃ gate, e'.perform (t.recool cooldown) =
        { e.perform t with controller := (e.perform t).controller.regate gate } ∧
      (e.perform t).controller.gate.Twin gate := by
  obtain ⟨gate, rfl, gates⟩ := twin
  exact Controller.perform_regate gates (e.cue t) cooldown

theorem Twin.take_recool {e e' : Embodied α β} (twin : e.Twin e') (t : Turn α β) (cooldown : α) :
    (e.take t).Twin (e'.take (t.recool cooldown)) := by
  obtain ⟨gate, frame, gates⟩ := twin.perform_recool t cooldown
  obtain ⟨_, rfl, -⟩ := twin
  refine ⟨gate, ?_, gates⟩
  unfold take
  rw [frame]
  rfl

theorem twin_before {e : Embodied α β} (fresh : e.controller.gate = .fresh)
    (turns : Nat → Turn α β) (cooldowns : Nat → α) (n : Nat) :
    (e.before turns n).Twin (e.before (fun k => (turns k).recool (cooldowns k)) n) := by
  refine stateAt_couples Twin ⟨.fresh, ?_, fresh ▸ JumpGate.twin_fresh⟩ ?_ n
  · rw [← fresh]
    rfl
  · intro k _ _ twin
    exact twin.take_recool (turns k) (cooldowns k)

end Embodied

/-- The cooldown never decides a launch. Of a gate that started fresh readiness says no more than
what is outstanding does; runs of the gate that differ in lengths of frames and in cooldowns have
the same outcomes; and runs of a controller over a body that differ in cooldowns have the same
commands and notices, and the same controller up to readiness and timer of its gate. -/
theorem cooldown_never_decides {β : Type} [Scalar α] [Body α β] :
    (∀ (rounds : Nat → JumpGate.Round α) (n : Nat),
      let g := JumpGate.fresh.before rounds n
      (g.ready = false → g.outstanding = true) ∧
        ∀ onGround, g.allows onGround = (onGround && !g.outstanding)) ∧
    (∀ rounds rounds' : Nat → JumpGate.Round α, (∀ n, (rounds n).Alike (rounds' n)) →
      ∀ n, JumpGate.fresh.outcomeAt rounds' n = JumpGate.fresh.outcomeAt rounds n) ∧
    ∀ (heading : Heading α) (gait : Gait) (body : β) (turns : Nat → Turn α β)
      (cooldowns : Nat → α) (n : Nat),
      let start : Embodied α β := ⟨.resting heading gait, body⟩
      let frame := start.frameAt turns n
      let other := start.frameAt (fun k => (turns k).recool (cooldowns k)) n
      other.commands = frame.commands ∧ other.notices = frame.notices ∧
        ∃ ready timer, other.controller =
          { frame.controller with gate := { frame.controller.gate with ready, timer } } := by
  refine ⟨fun rounds n => ?_, fun rounds rounds' alike n => ?_, fun heading gait body turns
    cooldowns n => ?_⟩
  · have held := JumpGate.readyOrOutstanding_before rounds n
    exact ⟨held, held.allows_eq⟩
  · exact JumpGate.outcomeAt_eq alike n
  · intro start frame other
    have twin := Embodied.twin_before (e := start) rfl turns cooldowns n
    obtain ⟨gate, same, gates⟩ := twin.perform_recool (turns n) (cooldowns n)
    have other_eq : other = { frame with controller := frame.controller.regate gate } := same
    rw [other_eq]
    refine ⟨rfl, rfl, gate.ready, gate.timer, ?_⟩
    exact congrArg frame.controller.regate gates.eq

/-- A jump is requested all the time, and contact is missing in one frame. -/
def bounce (dt cooldown : Float32) (n : Nat) : JumpGate.Round Float32 :=
  ⟨⟨dt, n != 1, 0, true⟩, cooldown, .contactEdge⟩

/-- The same for a controller over a puppet. -/
def bounceTurn (n : Nat) : Turn Float32 (Puppet Float32) :=
  ⟨fun puppet => { puppet with onGround := n != 1 }, [.jump], 0.25, .standard⟩

theorem cooldown_never_decides_bounce :
    ((JumpGate.fresh.before (bounce 0.25 0.5) 1).ready = false ∧
      (JumpGate.fresh.before (bounce 0.25 0.5) 1).outstanding = true) ∧
    ((JumpGate.fresh.outcomeAt (bounce 0.25 0.5) 2).launched = true ∧
      JumpGate.fresh.outcomeAt (bounce 0 (0.0 / 0.0)) 2 =
        JumpGate.fresh.outcomeAt (bounce 0.25 0.5) 2) ∧
    let start : Embodied Float32 (Puppet Float32) := ⟨.fresh, ⟨false, none, []⟩⟩
    let frame := start.frameAt bounceTurn 2
    let other := start.frameAt (fun k => (bounceTurn k).recool (1.0 / 0.0)) 2
    frame.launches = true ∧ other.commands = frame.commands ∧ other.notices = frame.notices := by
  have never := cooldown_never_decides (α := Float32) (β := Puppet Float32)
  have alike (n : Nat) : (bounce 0.25 0.5 n).Alike (bounce 0 (0.0 / 0.0) n) := ⟨rfl, rfl, rfl, rfl⟩
  have unready : (JumpGate.fresh.before (bounce 0.25 0.5) 1).ready = false := by decide +kernel
  refine ⟨⟨unready, (never.1 _ _).1 unready⟩, ⟨?_, never.2.1 _ _ alike 2⟩, ?_⟩
  · decide +kernel
  · intro start frame other
    obtain ⟨commands, notices, -⟩ :=
      never.2.2 .initial default ⟨false, none, []⟩ bounceTurn (fun _ => 1.0 / 0.0) 2
    exact ⟨by decide +kernel, commands, notices⟩

end CharacterMotion
