import CharacterMotion.Binary32.Scalar
import CharacterMotion.Proofs.Run
import CharacterMotion.Proofs.World.Independence

/-!
What becomes of the markers. A step looks for the marker that the contact calls for and acts only if
it is missing. So it leaves a character with exactly the right marker, unless the character had both
markers before: then the right one is there, nothing is done, and the wrong one stays as well
(`marked_iff_not_doublyMarked`). No step ends that. It lasts, through any number of steps and any
change of contact, until the world takes a marker away by itself.
-/

namespace CharacterMotion

variable {α β : Type}

namespace Character

/-- Both markers at once. -/
def doublyMarked (c : Character α β) : Bool := c.grounded && c.airborne

/-- Exactly the marker that belongs to a contact. -/
structure Marked (c : Character α β) (onGround : Bool) : Prop where
  grounded : c.grounded = onGround
  airborne : c.airborne = !onGround

/-- The markers after a change that follows the contact. -/
def synced (c : Character α β) : Character α β := c.markerChange?.elim c c.mark

@[simp] theorem controller?_synced (c : Character α β) : c.synced.controller? = c.controller? := by
  obtain ⟨_, _, marks⟩ := c.markerChange?_eq
  rw [synced, marks]

theorem synced_eq {c : Character α β} {controller : Controller α}
    (owned : c.controller? = some controller) :
    c.synced = { c with
      grounded := controller.onGround || c.doublyMarked
      airborne := !controller.onGround || c.doublyMarked } := by
  obtain ⟨_, _, _, _, grounded, airborne, _⟩ := c
  cases owned
  cases contact : controller.onGround <;> cases grounded <;> cases airborne <;>
    simp [synced, markerChange?, mark, doublyMarked, contact]

theorem marked_synced_iff {c : Character α β} {controller : Controller α}
    (owned : c.controller? = some controller) :
    c.synced.Marked controller.onGround ↔ c.doublyMarked = false := by
  rw [synced_eq owned]
  constructor
  · intro marked
    have grounded := marked.grounded
    have airborne := marked.airborne
    cases contact : controller.onGround <;> simp_all
  · intro single
    constructor <;> simp [single]

@[simp] theorem doublyMarked_synced (c : Character α β) :
    c.synced.doublyMarked = c.doublyMarked := by
  cases owned : c.controller? with
  | none => rw [synced, markerChange?, owned, Option.elim_none]
  | some controller =>
      rw [synced_eq owned, doublyMarked]
      cases controller.onGround <;> simp

/-! ### A step of one character -/

section

variable [Scalar α] [Body α β]

/-- A character as the markers find it: the intent is passed on and the controller has run. -/
def ran (dt : α) (c : Character α β) : Character α β :=
  c.forward.1.controller?.elim c.forward.1 (c.forward.1.runAlone dt)

theorem stepAlone_eq_synced (dt : α) (c : Character α β) : c.stepAlone dt = (c.ran dt).synced := rfl

theorem doublyMarked_ran (dt : α) (c : Character α β) :
    (c.ran dt).doublyMarked = c.doublyMarked := by
  obtain ⟨controller?, _, told, -⟩ := c.forward_eq
  rw [ran, told]
  cases controller? <;> rfl

theorem isSome_controller?_ran (dt : α) (c : Character α β) :
    (c.ran dt).controller?.isSome = c.controller?.isSome := by
  obtain ⟨controller?, _, told, owned⟩ := c.forward_eq
  rw [ran, told, ← owned]
  cases controller? <;> rfl

end

end Character

namespace World

/-- Whether a character carries both markers. -/
def doublyMarked (w : World α β) (id : Nat) : Bool := (w.get? id).any Character.doublyMarked

variable [Scalar α] [Body α β]

/-- A step neither creates nor ends a double marking. -/
theorem doublyMarked_tick (w : World α β) (id : Nat) :
    (tick w).1.doublyMarked id = w.doublyMarked id := by
  unfold doublyMarked
  rw [get?_tick, Option.any_map]
  congr 1
  funext c
  rw [Character.stepAlone_eq_synced, Character.doublyMarked_synced, Character.doublyMarked_ran]

/-- The markers of a character with a controller after a step. -/
theorem marked_tick_iff {w : World α β} {id : Nat} {c : Character α β} (there : w.get? id = some c)
    (owned : c.controller?.isSome) : ∃ c' controller, (tick w).1.get? id = some c' ∧
      c'.controller? = some controller ∧
      (c'.Marked controller.onGround ↔ c.doublyMarked = false) ∧
      c'.doublyMarked = c.doublyMarked := by
  rw [← Character.isSome_controller?_ran w.clock.stepLength, Option.isSome_iff_exists] at owned
  obtain ⟨controller, owned⟩ := owned
  refine ⟨(c.ran w.clock.stepLength).synced, controller, ?_, ?_, ?_, ?_⟩
  · rw [get?_tick, there]
    rfl
  · rw [Character.controller?_synced, owned]
  · rw [Character.marked_synced_iff owned, Character.doublyMarked_ran]
  · rw [Character.doublyMarked_synced, Character.doublyMarked_ran]

/-- A world after steps between which it may change in any way. -/
def after (w : World α β) (changes : Nat → World α β → World α β) (n : Nat) : World α β :=
  interleave (fun w => (tick w).1) changes w n

/-- The markers of a character with a controller after its markers are brought in line, and after
each step of a run in which anything may happen between the steps: the right marker and no other,
exactly if the character did not carry both before. Both markers stay, and nothing but a change
between the steps brings them about or takes one of them away. -/
theorem marked_iff_not_doublyMarked :
    (∀ (w : World α β) (id : Nat) (c : Character α β) (controller : Controller α),
      w.get? id = some c → c.controller? = some controller →
      ∃ c', (syncMarkers w).1.get? id = some c' ∧ c'.controller? = some controller ∧
        (c'.Marked controller.onGround ↔ c.doublyMarked = false) ∧
        c'.doublyMarked = c.doublyMarked) ∧
    ∀ (w : World α β) (changes : Nat → World α β → World α β) (id : Nat),
      (∀ (n : Nat) (c : Character α β),
        (changes n (w.after changes n)).get? id = some c → c.controller?.isSome →
        ∃ c' controller, (w.after changes (n + 1)).get? id = some c' ∧
          c'.controller? = some controller ∧
          (c'.Marked controller.onGround ↔ c.doublyMarked = false) ∧
          c'.doublyMarked = c.doublyMarked) ∧
      ((∀ n, (changes n (w.after changes n)).doublyMarked id =
          (w.after changes n).doublyMarked id) →
        ∀ n, (w.after changes n).doublyMarked id = w.doublyMarked id) := by
  refine ⟨fun w id c controller there owned => ?_, fun w changes id =>
    ⟨fun n c there owned => marked_tick_iff there owned, fun keeps n => ?_⟩⟩
  · refine ⟨c.synced, ?_, ?_, Character.marked_synced_iff owned, c.doublyMarked_synced⟩
    · rw [get?_syncMarkers, there]
      rfl
    · rw [Character.controller?_synced, owned]
  · induction n with
    | zero => rfl
    | succ n ih => exact (doublyMarked_tick ..).trans ((keeps n).trans ih)

/-- A character on the ground that carries both markers. -/
def ambiguous : Character Float32 (Puppet Float32) :=
  { Character.ofBody ⟨true, none, []⟩ with
    controller? := some .fresh, grounded := true, airborne := true }

/-- One step of a world in which the ambiguous character stands beside one without markers. -/
theorem marked_iff_not_doublyMarked_ambiguous :
    let single : Character Float32 (Puppet Float32) :=
      { ambiguous with grounded := false, airborne := false }
    let w : World Float32 (Puppet Float32) := ⟨.ofList [ambiguous, single], .unset⟩
    let leap (_ : Nat) (w : World Float32 (Puppet Float32)) :=
      w.modify 0 fun c => { c with body := { c.body with onGround := !c.body.onGround } }
    (∃ c controller, (w.after leap 1).get? 1 = some c ∧ c.controller? = some controller ∧
      c.Marked controller.onGround) ∧
    (∃ c controller, (w.after leap 1).get? 0 = some c ∧ c.controller? = some controller ∧
      ¬ c.Marked controller.onGround) ∧
    ∀ n, (w.after leap n).doublyMarked 0 = true := by
  intro single w leap
  have keeps (w : World Float32 (Puppet Float32)) (n : Nat) :
      (leap n w).doublyMarked 0 = w.doublyMarked 0 := by
    unfold doublyMarked leap
    rw [get?_modify, if_pos rfl, Option.any_map]
    rfl
  have runs := marked_iff_not_doublyMarked.2 w leap
  obtain ⟨c, controller, there, owned, marked, -⟩ := (runs 1).1 0 single rfl rfl
  obtain ⟨c', controller', there', owned', marked', -⟩ :=
    (runs 0).1 0 { ambiguous with body := ⟨false, none, []⟩ } rfl rfl
  refine ⟨⟨c, controller, there, owned, marked.mpr rfl⟩,
    ⟨c', controller', there', owned', fun right => ?_⟩, fun n => ?_⟩
  · exact Bool.noConfusion (marked'.mp right)
  · exact (runs 0).2 (fun n => keeps _ n) n

/-- On the ground, and marked as airborne after a step. -/
theorem airborne_marker_stays :
    ((tick (⟨.ofList [ambiguous], .unset⟩ : World Float32 (Puppet Float32))).1.get? 0).any
      (fun c => c.airborne && c.grounded && c.controller?.any (·.onGround)) = true := by
  decide +kernel

end World

end CharacterMotion
