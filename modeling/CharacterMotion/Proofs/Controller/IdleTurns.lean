import CharacterMotion.Physics.Character
import CharacterMotion.Proofs.Controller.EmptyFrames

/-!
Frames in which no time passes are invisible to those that follow (`empty_frames_invisible`): a run
with any number of idle turns in it goes on as it does without them, if the body becomes the same by
itself.

That the controller goes on in the same way is known from the single frame. The body obeys the
commands of an idle turn as of any other; they tell it nothing that it does not have, since the
velocity among them is the one that it just reported. So it has to store velocities as it is told,
and what else it makes of such commands must not tell in its readings (`Body.Stores`).
-/

namespace CharacterMotion

variable {α β : Type}

/-! ### Bodies -/

/-- A body that stores velocities as it is told: a command other than a force that stores what is
there already makes no difference. Bodies are `same` if nothing that is read of them, now or after
further commands, tells them apart. -/
structure Body.Stores [Scalar α] [Body α β] (same : β → β → Prop) : Prop where
  equivalence : Equivalence same
  read : ∀ {b b'}, same b b' → Body.read b = Body.read b'
  obey : ∀ {b b'}, same b b' → ∀ command, same (Body.obey b command) (Body.obey b' command)
  redundant : ∀ b (command : Command α), command.force? = none →
    command.store (Body.read b).velocity? = (Body.read b).velocity? →
    same (Body.obey b command) b

/-- What becomes of a body without giving it a velocity of its own or taking it away. -/
def Body.KeepsOwnership [Body α β] (f : β → β) : Prop :=
  ∀ b, (Body.read (f b)).velocity?.isSome = (Body.read b).velocity?.isSome

theorem Body.KeepsOwnership.foldl_obey [Body α β]
    (obeys : ∀ command : Command α, KeepsOwnership fun b : β => Body.obey b command)
    (commands : List (Command α)) : KeepsOwnership fun b : β => commands.foldl Body.obey b := by
  intro b
  induction commands generalizing b with
  | nil => rfl
  | cons command commands ih => exact (ih _).trans (obeys command b)

/-- Bodies without physics that read alike. -/
theorem Puppet.stores [Scalar α] :
    Body.Stores fun p p' : Puppet α => p.reading = p'.reading where
  equivalence := ⟨fun _ => rfl, fun alike => alike.symm, fun alike alike' => alike.trans alike'⟩
  read alike := alike
  obey {p p'} alike command := by
    obtain ⟨contact, owned⟩ := Reading.mk.inj alike
    change Reading.mk p.onGround (command.store p.velocity?) =
      Reading.mk p'.onGround (command.store p'.velocity?)
    rw [contact, owned]
  redundant p command _ stored := congrArg (Reading.mk p.onGround) stored

namespace Physics.Parts

/-- The same body but for its orientation. -/
def unturned (p : Parts α) : Parts α := { p with orientation? := none }

theorem unturned_obey [Scalar α] (p : Parts α) (command : Command α) :
    (p.obey command).unturned = p.unturned.obey command := by
  cases command with
  | applyForce f =>
      obtain ⟨_, _, _, _, ledger, _, _, _, _, _, _, _⟩ := p
      cases ledger <;> rfl
  | setYaw yaw => rfl
  | setVelocity v => rfl
  | setHorizontalVelocity x z => rfl
  | setClip clip => rfl

/-- Physical bodies that differ in their orientation at most. -/
theorem stores [Scalar α] : Body.Stores fun p p' : Parts α => p.unturned = p'.unturned where
  equivalence := ⟨fun _ => rfl, fun alike => alike.symm, fun alike alike' => alike.trans alike'⟩
  read {p p'} alike := by
    have unturned : p.unturned.reading = p'.unturned.reading := congrArg reading alike
    exact unturned
  obey {p p'} alike command := by
    change (p.obey command).unturned = (p'.obey command).unturned
    rw [unturned_obey, unturned_obey, alike]
  redundant p command unforced stored := by
    cases command with
    | applyForce f => cases unforced
    | setYaw yaw => rfl
    | setVelocity v => exact congrArg (fun velocity? => { p.unturned with velocity? }) stored
    | setHorizontalVelocity x z =>
        exact congrArg (fun velocity? => { p.unturned with velocity? }) stored
    | setClip clip => rfl

end Physics.Parts

namespace Body.Stores

variable [Scalar α] [Body α β] {same : β → β → Prop}

theorem foldl_obey (stores : Body.Stores same) {b b' : β} (alike : same b b')
    (commands : List (Command α)) :
    same (commands.foldl Body.obey b) (commands.foldl Body.obey b') := by
  induction commands generalizing b b' with
  | nil => exact alike
  | cons command commands ih => exact ih (stores.obey alike command)

/-- Commands that store what is there make no difference all together. -/
theorem foldl_redundant (stores : Body.Stores same) (b : β) (commands : List (Command α))
    (redundant : ∀ command ∈ commands, command.force? = none ∧
      command.store (Body.read b).velocity? = (Body.read b).velocity?) :
    same (commands.foldl Body.obey b) b := by
  induction commands with
  | nil => exact stores.equivalence.refl b
  | cons command commands ih =>
      obtain ⟨first, rest⟩ := List.forall_mem_cons.mp redundant
      have after := stores.redundant b command first.1 first.2
      exact stores.equivalence.trans (stores.foldl_obey after commands) (ih rest)

end Body.Stores

/-- Commands of a frame in which no time passes store what was read. -/
theorem Controller.redundant_of_not_pos [Scalar α] {dt : α} (still : ¬ 0 < dt) (c : Controller α)
    (t : Tuning α) (r : Reading α) :
    ∀ command ∈ (c.frame dt t r).commands,
      command.force? = none ∧ command.store r.velocity? = r.velocity? := by
  obtain ⟨onGround, owned⟩ := r
  rw [frame_of_not_pos still]
  cases owned <;>
    simp [commands, Command.force?, Command.store, observe, Vec3.withHorizontal]

/-- A turn without orders in which no time passes. -/
structure Turn.Idle (t : Turn Float32 β) : Prop where
  orders : t.orders = []
  timeless : Timeless t.dt

/-- The turn with all that becomes of the body in other turns before it, and without those. -/
def Turn.over (t : Turn α β) (before : List (Turn α β)) : Turn α β :=
  { t with change := fun b => t.change (before.foldl (fun b t => t.change b) b) }

namespace Embodied

/-- What is read in turns that follow each other. -/
def readings [Scalar α] [Body α β] (e : Embodied α β) : List (Turn α β) → List (Reading α)
  | [] => []
  | t :: ts => (e.cue t).reading :: (e.take t).readings ts

variable [Body Float32 β] {same : β → β → Prop}

theorem readings_append (e : Embodied Float32 β) (ts us : List (Turn Float32 β)) :
    e.readings (ts ++ us) = e.readings ts ++ (ts.foldl take e).readings us := by
  induction ts generalizing e with
  | nil => rfl
  | cons t ts ih => exact congrArg _ (ih (e.take t))

theorem perform_idle (e : Embodied Float32 β) {t : Turn Float32 β} (idle : t.Idle) : ∃ notices,
    e.perform t =
      { e.controller.frame (elapsed t.dt) t.tuning (e.cue t).reading with notices } := by
  obtain ⟨notices, performed⟩ := e.controller.perform_eq (e.cue t)
  have told : (e.controller.takeAll (e.cue t).orders).1 = e.controller := by
    change (e.controller.takeAll t.orders).1 = _
    rw [idle.orders]
    rfl
  rw [told] at performed
  exact ⟨notices, performed⟩

/-- An idle turn leaves the body as it has become by itself. -/
theorem body_take_idle (stores : Body.Stores same) (e : Embodied Float32 β) {t : Turn Float32 β}
    (idle : t.Idle) : same (e.take t).body (t.change e.body) := by
  obtain ⟨notices, performed⟩ := e.perform_idle idle
  unfold take
  rw [performed]
  exact stores.foldl_redundant _ _
    (e.controller.redundant_of_not_pos idle.timeless.not_pos_elapsed t.tuning (e.cue t).reading)

theorem controller_take_idle {e : Embodied Float32 β} (untold : e.controller.forget = e.controller)
    {t : Turn Float32 β} (idle : t.Idle) : ∃ onGround clip,
    (e.take t).controller =
      e.controller.remembering ((e.cue t).reading.velocity?.getD e.controller.velocity) onGround
        clip false := by
  obtain ⟨notices, performed⟩ := e.perform_idle idle
  have direction : e.controller.direction = 0 := congrArg Controller.direction untold.symm
  have taken : (e.take t).controller =
      (e.controller.frame (elapsed t.dt) t.tuning (e.cue t).reading).controller := by
    unfold take
    rw [performed]
  have left := Controller.frame_of_untold idle.timeless.not_pos_elapsed untold t.tuning
    (e.cue t).reading
  rw [direction, Controller.input?_zero] at left
  exact ⟨_, _, taken.trans left⟩

section

variable {idle : List (Turn Float32 β)} (all_idle : ∀ t ∈ idle, t.Idle)
include all_idle

/-- Idle turns all together leave the body as it has become by itself. -/
theorem body_foldl_idle (stores : Body.Stores same)
    (respects : ∀ t ∈ idle, ∀ b b', same b b' → same (t.change b) (t.change b'))
    {e : Embodied Float32 β} {b : β} (alike : same b e.body) :
    same (idle.foldl (fun b t => t.change b) b) (idle.foldl take e).body := by
  induction idle generalizing e b with
  | nil => exact alike
  | cons t ts ih =>
      obtain ⟨first, rest⟩ := List.forall_mem_cons.mp all_idle
      obtain ⟨respect, respects⟩ := List.forall_mem_cons.mp respects
      refine ih rest respects ?_
      exact stores.equivalence.trans (respect _ _ alike)
        (stores.equivalence.symm (e.body_take_idle stores first))

/-- Idle turns leave of the controller what the next frame goes by. -/
theorem controller_foldl_idle {e : Embodied Float32 β} {owned : Bool}
    (untold : idle = [] ∨ e.controller.forget = e.controller)
    (owns : ∀ r ∈ e.readings idle, r.velocity?.isSome = owned) : ∃ velocity onGround clip,
    (owned = false → velocity = e.controller.velocity) ∧
    (idle.foldl take e).controller =
      e.controller.remembering velocity onGround clip
        (idle.isEmpty && e.controller.wasMoving) := by
  induction idle generalizing e with
  | nil => exact ⟨_, _, _, fun _ => rfl, rfl⟩
  | cons t ts ih =>
      obtain ⟨first, rest⟩ := List.forall_mem_cons.mp all_idle
      obtain ⟨own, owns⟩ := List.forall_mem_cons.mp owns
      have untold : e.controller.forget = e.controller :=
        untold.resolve_left (List.cons_ne_nil t ts)
      obtain ⟨onGround, clip, taken⟩ := controller_take_idle untold first
      have again : (e.take t).controller.forget = (e.take t).controller := by
        rw [taken, Controller.forget_remembering, untold]
      obtain ⟨velocity, onGround', clip', kept, left⟩ := ih rest (Or.inr again) owns
      refine ⟨velocity, onGround', clip', ?_, ?_⟩
      · intro unowned
        have unread : (e.cue t).reading.velocity? = none :=
          Option.not_isSome_iff_eq_none.mp (by simp [own, unowned])
        rw [kept unowned, taken, unread]
        rfl
      · change (ts.foldl take (e.take t)).controller = _
        rw [left, taken]
        simp [Controller.remembering]

/-- A turn after idle ones has the same frame as without them, but for a repeated notice, and leaves
the same body. -/
theorem perform_foldl_idle (stores : Body.Stores same) {t : Turn Float32 β}
    (respects : ∀ u ∈ t :: idle, ∀ b b', same b b' → same (u.change b) (u.change b'))
    {e e' : Embodied Float32 β} (controller : e'.controller = e.controller)
    (body : same e.body e'.body) {owned : Bool}
    (untold : idle = [] ∨ e.controller.forget = e.controller)
    (owns : ∀ r ∈ e'.readings (idle ++ [t]), r.velocity?.isSome = owned) :
    (idle.foldl take e').perform t =
      (e.perform (t.over idle)).retold t.tuning (!idle.isEmpty && e.controller.wasMoving) ∧
    same (e.take (t.over idle)).body ((idle.foldl take e').take t).body := by
  obtain ⟨respect, rest⟩ := List.forall_mem_cons.mp respects
  rw [readings_append, List.forall_mem_append] at owns
  obtain ⟨velocity, onGround, clip, kept, left⟩ :=
    controller_foldl_idle all_idle (controller ▸ untold) owns.1
  have changed := respect _ _ (body_foldl_idle all_idle stores rest body)
  have cue : (idle.foldl take e').cue t = e.cue (t.over idle) := by
    unfold cue
    rw [← stores.read changed]
    rfl
  have read : (e.cue (t.over idle)).reading.velocity?.getD velocity =
      (e.cue (t.over idle)).reading.velocity?.getD e.controller.velocity := by
    have own := owns.2 ((idle.foldl take e').cue t).reading (List.mem_singleton.mpr rfl)
    rw [cue] at own
    cases owned with
    | false => rw [kept rfl, controller]
    | true =>
        obtain ⟨v, reads⟩ := Option.isSome_iff_exists.mp own
        rw [reads]
        rfl
  have performed : (idle.foldl take e').perform t =
      (e.perform (t.over idle)).retold t.tuning
        (e.controller.wasMoving && !(idle.isEmpty && e.controller.wasMoving)) := by
    unfold perform
    rw [cue, left, controller]
    exact e.controller.perform_remembering read onGround clip (by simp)
  constructor
  · rw [performed]
    congr 1
    cases idle.isEmpty <;> cases e.controller.wasMoving <;> rfl
  · change same ((e.perform (t.over idle)).commands.foldl Body.obey _)
      (((idle.foldl take e').perform t).commands.foldl Body.obey _)
    rw [performed]
    exact stores.foldl_obey changed _

end

/-- The two before the idle turns that come before turn `n` of a run. -/
def beforeIdle (e : Embodied Float32 β) (turns : Nat → Turn Float32 β)
    (idle : Nat → List (Turn Float32 β)) (n : Nat) : Embodied Float32 β :=
  stateAt (fun e p => (p.1.foldl take e).take p.2) e (fun n => (idle n, turns n)) n

/-- A run with idle turns before the others, over a body that owns a velocity in all frames or in
none. What is told before the first frame is told after its idle turns. -/
structure Padded (same : β → β → Prop) (start : Embodied Float32 β) (turns : Nat → Turn Float32 β)
    (idle : Nat → List (Turn Float32 β)) : Prop where
  all_idle : ∀ n, ∀ t ∈ idle n, t.Idle
  respects : ∀ n, ∀ t ∈ turns n :: idle n, ∀ b b', same b b' → same (t.change b) (t.change b')
  owns : ∃ owned, ∀ n, ∀ r ∈ (start.beforeIdle turns idle n).readings (idle n ++ [turns n]),
    r.velocity?.isSome = owned
  untold : idle 0 = [] ∨ start.controller.forget = start.controller

/-- The frame of turn `n` of such a run. -/
def frameAfterIdle (e : Embodied Float32 β) (turns : Nat → Turn Float32 β)
    (idle : Nat → List (Turn Float32 β)) (n : Nat) : Frame Float32 :=
  ((idle n).foldl take (e.beforeIdle turns idle n)).perform (turns n)

namespace Padded

variable {start : Embodied Float32 β} {turns : Nat → Turn Float32 β}
  {idle : Nat → List (Turn Float32 β)}

/-- A turn of a run, given that the idle turns so far made no difference. -/
theorem turn (padded : start.Padded same turns idle) (stores : Body.Stores same) {n : Nat}
    {e : Embodied Float32 β} (untold : idle n = [] ∨ e.controller.forget = e.controller)
    (controller : (start.beforeIdle turns idle n).controller = e.controller)
    (body : same e.body (start.beforeIdle turns idle n).body) :
    start.frameAfterIdle turns idle n =
      (e.perform ((turns n).over (idle n))).retold (turns n).tuning
        (!(idle n).isEmpty && e.controller.wasMoving) ∧
    same (e.take ((turns n).over (idle n))).body (start.beforeIdle turns idle (n + 1)).body := by
  obtain ⟨owned, owns⟩ := padded.owns
  exact perform_foldl_idle (padded.all_idle n) stores (padded.respects n) controller body untold
    (owns n)

theorem before (padded : start.Padded same turns idle) (stores : Body.Stores same) (n : Nat) :
    let e := start.before (fun n => (turns n).over (idle n)) n
    (idle n = [] ∨ e.controller.forget = e.controller) ∧
    (start.beforeIdle turns idle n).controller = e.controller ∧
    same e.body (start.beforeIdle turns idle n).body := by
  induction n with
  | zero => exact ⟨padded.untold, rfl, stores.equivalence.refl _⟩
  | succ n ih =>
      obtain ⟨untold, controller, body⟩ := ih
      obtain ⟨frame, body⟩ := padded.turn stores untold controller body
      have after := congrArg Frame.controller frame
      exact ⟨Or.inr (Controller.forget_perform _ _), after, body⟩

end Padded

end Embodied

/-- A walk in fits of contact. -/
def walk (n : Nat) : Turn Float32 (Puppet Float32) :=
  ⟨fun p => { p with onGround := n % 2 == 0 }, [.direction .forward], 0.25, .standard⟩

/-- A character that stands still, to be kicked on its walk. -/
def standing : Embodied Float32 (Puppet Float32) := ⟨.fresh, ⟨false, some 0, []⟩⟩

end CharacterMotion
