import CharacterMotion.Physics.Step
import CharacterMotion.Proofs.Controller.Frame
import CharacterMotion.Proofs.World.Independence

/-!
What a step of a space does to one character, and to the forces on its body.

Each physical phase changes all bodies by a rule that looks at one body alone, so that a step of the
space is a step of each character: the body is made ready (`Parts.ready`), the character takes its
own step, and the forces are deposited (`get?_tick`). Of the commands that the body is given on the
way only forces concern its account, which is the external force together with the ledger
(`account?_foldl_obey`); what a whole step does to the account is `account?_tick`.
-/

namespace CharacterMotion

variable {α : Type}

/-- A clip is no force. -/
theorem Command.filterMap_force?_filter (commands : List (Command α)) :
    (commands.filter (!·.isClip)).filterMap force? = commands.filterMap force? := by
  induction commands with
  | nil => rfl
  | cons command commands ih =>
      cases command with
      | applyForce f => exact congrArg (f :: ·) ih
      | _ => exact ih

namespace Character

variable {β : Type} [Scalar α] [Body α β]

/-- The commands that a step of the character gives, its clip included. -/
def issued (dt : α) (c : Character α β) : List (Command α) :=
  let told := c.forward.1
  told.controller?.elim [] fun controller =>
    (controller.advance dt (told.tuning?.getD .standard) told.reading).commands

theorem body_stepAlone (dt : α) (c : Character α β) :
    (c.stepAlone dt).body = ((c.issued dt).filter (!·.isClip)).foldl Body.obey c.body := by
  obtain ⟨controller?, _, told, -⟩ := c.forward_eq
  obtain ⟨_, _, marks⟩ := (c.forward.1.controller?.elim c.forward.1
    (c.forward.1.runAlone dt)).markerChange?_eq
  rw [stepAlone, marks, issued, told]
  cases controller? <;> rfl

end Character

namespace Physics

/-! ### The account of a body -/

/-- The external force on a body, and the ledger that says how much of it is the controller's. -/
structure Account (α : Type) where
  external : Vec3 α
  ledger : Ledger α
  deriving DecidableEq, Repr

theorem Ledger.foldl_gather [Scalar α] (forces : List (Vec3 α)) (l : Ledger α) :
    forces.foldl gather l = ⟨forces.foldl (· + ·) l.pending, l.applied⟩ := by
  induction forces generalizing l with
  | nil => rfl
  | cons f forces ih => exact ih (l.gather f)

namespace Parts

/-- The account of a body that has both an external force and a ledger. -/
def account? (p : Parts α) : Option (Account α) :=
  p.force?.bind fun external => p.ledger?.map (⟨external, ·⟩)

theorem account?_balance (p : Parts α) (rule : Vec3 α → Ledger α → Vec3 α × Ledger α) :
    (p.balance rule).account? =
      p.account?.map fun a => ⟨(rule a.external a.ledger).1, (rule a.external a.ledger).2⟩ := by
  unfold balance account?
  cases force : p.force? with
  | none => simp [force]
  | some external => cases ledger : p.ledger? <;> simp [force, ledger]

variable [Scalar α]

theorem account?_sense (p : Parts α) (scene : Scene α) (owner : Nat) :
    (p.sense scene owner).account? = p.account? := by
  unfold sense
  split <;> rfl

/-- A force is entered in the ledger, and the external force waits. -/
theorem account?_push (p : Parts α) (f : Vec3 α) :
    (p.push f).account? = p.account?.map fun a => ⟨a.external, a.ledger.gather f⟩ := by
  unfold push account?
  cases ledger : p.ledger? with
  | none => cases p.force? <;> rfl
  | some entries => cases p.force? <;> simp

theorem account?_foldl_obey (p : Parts α) (commands : List (Command α)) :
    (commands.foldl Body.obey p).account? = p.account?.map fun a =>
      ⟨a.external, (commands.filterMap Command.force?).foldl Ledger.gather a.ledger⟩ := by
  induction commands generalizing p with
  | nil => exact Option.map_id'.symm
  | cons command commands ih =>
      rw [List.foldl_cons, ih]
      cases command with
      | applyForce f =>
          change (p.push f).account?.map _ = _
          rw [account?_push, Option.map_map]
          rfl
      | _ => rfl

/-- A body as the character finds it in a step: without the forces of the last step, and with the
ground sensed if there is a scene. -/
def ready (p : Parts α) (scene? : Option (Scene α)) (owner : Nat) : Parts α :=
  let free := p.balance Ledger.withdraw
  scene?.elim free (free.sense · owner)

theorem account?_ready (p : Parts α) (scene? : Option (Scene α)) (owner : Nat) :
    (p.ready scene? owner).account? =
      p.account?.map fun a => ⟨a.external - a.ledger.applied, ⟨a.ledger.pending, 0⟩⟩ := by
  have withdrawn := p.account?_balance Ledger.withdraw
  unfold ready
  cases scene? with
  | none => exact withdrawn
  | some scene => exact (account?_sense ..).trans withdrawn

end Parts

/-! ### A step of the space -/

namespace Space

def get? (s : Space α) (id : Nat) : Option (Character α (Parts α)) := s.world.get? id

/-- The account of a character's body. -/
def account? (s : Space α) (id : Nat) : Option (Account α) :=
  (s.get? id).bind fun c => c.body.account?

theorem get?_mapBodies (s : Space α) (f : Nat → Parts α → Parts α) (id : Nat) :
    (s.mapBodies f).get? id = (s.get? id).map fun c => { c with body := f id c.body } :=
  s.world.roster.get?_mapIdx _ id

variable [Scalar α]

/-- A character when its own step begins. -/
def readied (s : Space α) (id : Nat) (c : Character α (Parts α)) : Character α (Parts α) :=
  { c with body := c.body.ready s.scene? id }

/-- The commands that a step of the space gives to a character. -/
def issued (s : Space α) (id : Nat) : List (Command α) :=
  (s.get? id).elim [] fun c => (s.readied id c).issued s.world.clock.stepLength

/-- The two phases before the step of the world. -/
def prepare (s : Space α) : Space α := (senseGround (withdrawForces s).1).1

theorem get?_prepare (s : Space α) (id : Nat) :
    s.prepare.get? id = (s.get? id).map (s.readied id) := by
  obtain ⟨world, scene?⟩ := s
  cases scene? with
  | none => exact get?_mapBodies ..
  | some scene =>
      refine (get?_mapBodies ..).trans ?_
      rw [show (withdrawForces ⟨world, some scene⟩).1.get? id = _ from get?_mapBodies ..,
        Option.map_map]
      rfl

theorem clock_prepare (s : Space α) : s.prepare.world.clock = s.world.clock := by
  obtain ⟨world, scene?⟩ := s
  cases scene? <;> rfl

theorem get?_tick (s : Space α) (id : Nat) :
    (tick s).1.get? id = (s.get? id).map fun c =>
      let moved := (s.readied id c).stepAlone s.world.clock.stepLength
      { moved with body := moved.body.balance Ledger.deposit } := by
  have phases : (tick s).1 = (depositForces (inWorld World.tick s.prepare).1).1 := by
    rw [tick, Phase.fst_sequence]
    rfl
  have moved : (inWorld World.tick s.prepare).1.get? id =
      (s.prepare.get? id).map (Character.stepAlone s.prepare.world.clock.stepLength) :=
    World.get?_tick s.prepare.world id
  rw [phases]
  refine (get?_mapBodies ..).trans ?_
  rw [moved, get?_prepare, clock_prepare, Option.map_map, Option.map_map]
  rfl

/-- What a step does to an account. The share of the last step leaves the external force, and what
is gathered until the end of this step enters it as the new share. -/
theorem account?_tick (s : Space α) (id : Nat) :
    (tick s).1.account? id = (s.account? id).map fun a =>
      let share := (((s.issued id).filterMap Command.force?).foldl (· + ·) a.ledger.pending)
      ⟨a.external - a.ledger.applied + share, ⟨0, share⟩⟩ := by
  unfold account? issued
  rw [get?_tick]
  cases s.get? id with
  | none => rfl
  | some c =>
      simp only [Option.map_some, Option.bind_some, Option.elim_some, Parts.account?_balance,
        Character.body_stepAlone, Parts.account?_foldl_obey, Command.filterMap_force?_filter]
      rw [readied, Parts.account?_ready]
      cases c.body.account? with
      | none => rfl
      | some a => simp [Ledger.foldl_gather, Ledger.deposit]

end Space

end Physics

end CharacterMotion
