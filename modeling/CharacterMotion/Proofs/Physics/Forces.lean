import CharacterMotion.Proofs.Physics.Phases
import CharacterMotion.Proofs.Run

/-!
What a step does to the two parts of a body that hold forces, whichever of them the body has
(`forces?_tick`).

A force of the controller goes to the ledger, or else straight into the external force. What is in
the ledger gets into the external force and out of it again only where both parts are there: then
the share of the last step is exchanged for that of the present one. A body with one of the two
parts gathers there whatever is applied to it, and nothing is taken out.

Users, too, write to the parts between the steps, and may give a body a part that it lacks; none is
ever taken away (`within_alone`).
-/

namespace CharacterMotion.Physics

variable {α : Type}

/-- The parts of a body that hold forces. -/
structure Forces (α : Type) where
  external? : Option (Vec3 α)
  ledger? : Option (Ledger α)
  deriving DecidableEq, Repr

def Parts.forces (p : Parts α) : Forces α := ⟨p.force?, p.ledger?⟩

namespace Forces

variable [Scalar α]

/-- What becomes of forces that are applied one after another. -/
def apply (F : Forces α) (forces : List (Vec3 α)) : Forces α :=
  match F.ledger? with
  | some ledger => { F with ledger? := some (forces.foldl Ledger.gather ledger) }
  | none => { F with external? := F.external?.map (forces.foldl (· + ·) ·) }

theorem apply_nil (F : Forces α) : F.apply [] = F := by
  obtain ⟨external, ledger⟩ := F
  cases external <;> cases ledger <;> rfl

theorem apply_apply (F : Forces α) (forces forces' : List (Vec3 α)) :
    (F.apply forces).apply forces' = F.apply (forces ++ forces') := by
  obtain ⟨external, ledger⟩ := F
  cases external <;> cases ledger <;> simp [apply]

/-- What becomes of them in a step in which the controller applies forces. -/
def exchange (F : Forces α) (forces : List (Vec3 α)) : Forces α :=
  match F.external?, F.ledger? with
  | some external, some ledger =>
      let share := forces.foldl (· + ·) ledger.pending
      ⟨some (external - ledger.applied + share), some ⟨0, share⟩⟩
  | _, _ => F.apply forces

end Forces

namespace Parts

theorem forces_sense [Scalar α] (p : Parts α) (scene : Scene α) (owner : Nat) :
    (p.sense scene owner).forces = p.forces := by
  unfold sense
  split <;> rfl

/-- A rule of the ledger needs both parts. -/
theorem forces_balance (p : Parts α) (rule : Vec3 α → Ledger α → Vec3 α × Ledger α) :
    (p.balance rule).forces =
      match p.forces.external?, p.forces.ledger? with
      | some external, some ledger =>
          ⟨some (rule external ledger).1, some (rule external ledger).2⟩
      | _, _ => p.forces := by
  obtain ⟨_, _, _, external, ledger, _, _, _, _, _, _, _⟩ := p
  cases external <;> cases ledger <;> rfl

variable [Scalar α]

theorem forces_push (p : Parts α) (f : Vec3 α) : (p.push f).forces = p.forces.apply [f] := by
  obtain ⟨_, _, _, _, ledger, _, _, _, _, _, _, _⟩ := p
  cases ledger <;> rfl

theorem forces_foldl_obey (p : Parts α) (commands : List (Command α)) :
    (commands.foldl Body.obey p).forces = p.forces.apply (commands.filterMap Command.force?) := by
  induction commands generalizing p with
  | nil => exact p.forces.apply_nil.symm
  | cons command commands ih =>
      rw [List.foldl_cons, ih]
      cases command with
      | applyForce f =>
          change (p.push f).forces.apply _ = _
          rw [forces_push, Forces.apply_apply]
          rfl
      | _ => rfl

/-- What a body has of forces is exchanged in three stages, with others between them that leave it
alone. -/
theorem forces_exchange (p : Parts α) (scene? : Option (Scene α)) (owner : Nat)
    (commands : List (Command α)) :
    ((commands.foldl Body.obey (p.ready scene? owner)).balance Ledger.deposit).forces =
      p.forces.exchange (commands.filterMap Command.force?) := by
  have readied : (p.ready scene? owner).forces = (p.balance Ledger.withdraw).forces := by
    unfold ready
    cases scene? with
    | none => rfl
    | some scene => exact forces_sense ..
  rw [forces_balance, forces_foldl_obey, readied, forces_balance]
  rcases p.forces with ⟨_ | external, _ | ledger⟩
  · rfl
  · rfl
  · rfl
  · simp [Forces.apply, Forces.exchange, Ledger.foldl_gather, Ledger.withdraw, Ledger.deposit]

end Parts

/-! ### A step of the space -/

namespace Space

/-- What the body of a character has of forces. -/
def forces? (s : Space α) (id : Nat) : Option (Forces α) := (s.get? id).map (·.body.forces)

theorem forces?_tick [Scalar α] (s : Space α) (id : Nat) :
    (tick s).1.forces? id =
      (s.forces? id).map (·.exchange ((s.issued id).filterMap Command.force?)) := by
  unfold forces? issued
  rw [get?_tick]
  cases s.get? id with
  | none => rfl
  | some c =>
      simp only [Option.map_some, Option.elim_some, Character.body_stepAlone]
      rw [readied, Parts.forces_exchange, Command.filterMap_force?_filter]

end Space

/-! ### What users do -/

namespace Forces

/-- Both parts are there, so that what is applied is taken out again. -/
def whole (F : Forces α) : Bool := F.external?.isSome && F.ledger?.isSome

/-- One of the parts is there, and the other one is not. -/
def single (F : Forces α) : Bool := F.external?.isSome != F.ledger?.isSome

/-- What users do to the parts: they add to the external force, and give the body a part that it
lacks. -/
inductive Write (α : Type) where
  | add (f : Vec3 α)
  | insertExternal (f : Vec3 α)
  | insertLedger
  deriving DecidableEq, Repr

/-- No part of the one is missing in the other. -/
structure Within (F F' : Forces α) : Prop where
  external : F'.external? = none → F.external? = none
  ledger : F'.ledger? = none → F.ledger? = none

theorem Within.refl (F : Forces α) : F.Within F := ⟨id, id⟩

theorem Within.trans {F F' F'' : Forces α} (first : F.Within F') (rest : F'.Within F'') :
    F.Within F'' :=
  ⟨first.external ∘ rest.external, first.ledger ∘ rest.ledger⟩

/-- Where a part is missing it was missing before. -/
theorem Within.whole_eq_false {F F' : Forces α} (within : F.Within F') (part : F'.whole = false) :
    F.whole = false := by
  rcases F' with ⟨_ | _, _ | _⟩
  · simp [whole, within.external rfl]
  · simp [whole, within.external rfl]
  · simp [whole, within.ledger rfl]
  · cases part

theorem whole_eq_false_of_single {F : Forces α} (single : F.single) : F.whole = false := by
  rcases F with ⟨_ | _, _ | _⟩
  · rfl
  · rfl
  · rfl
  · cases single

variable [Scalar α]

def write (F : Forces α) : Write α → Forces α
  | .add f => { F with external? := F.external?.map (· + f) }
  | .insertExternal f => { F with external? := some (F.external?.getD f) }
  | .insertLedger => { F with ledger? := some (F.ledger?.getD .empty) }

/-- What the writes before the first `n` steps make of the forces, without the steps. -/
def alone (start : Forces α) (writes : Nat → List (Write α)) (n : Nat) : Forces α :=
  stateAt (fun F ws => ws.foldl write F) start writes n

theorem within_write (F : Forces α) (w : Write α) : F.Within (F.write w) := by
  obtain ⟨external, ledger⟩ := F
  constructor <;> cases w <;> cases external <;> cases ledger <;> simp [write]

theorem within_foldl_write (F : Forces α) (ws : List (Write α)) :
    F.Within (ws.foldl write F) := by
  induction ws generalizing F with
  | nil => exact .refl F
  | cons w ws ih => exact (F.within_write w).trans (ih (F.write w))

theorem within_alone (start : Forces α) (writes : Nat → List (Write α)) {m n : Nat} (le : m ≤ n) :
    (start.alone writes m).Within (start.alone writes n) := by
  induction n, le using Nat.le_induction with
  | base => exact .refl _
  | succ n _ ih => exact ih.trans (within_foldl_write (start.alone writes n) (writes n))

end Forces

end CharacterMotion.Physics
