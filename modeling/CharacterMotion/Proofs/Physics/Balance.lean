import CharacterMotion.Proofs.Exact.SpeedBound
import CharacterMotion.Proofs.Physics.Phases

/-!
Whose the external force is. Every step takes the controller's share of the last step out of the
external force and puts the share of the present one in. Over the real numbers nothing is lost on
the way: what is in the external force besides the controller's share (`Account.foreign`) is what
was there at first and what users added since, and the share is that of one step alone
(`account?_after`).

Between the steps, users may add to the external force, and forces may be applied in the name of
the controller. Anything else may change there too that leaves the account of the body alone.
-/

namespace CharacterMotion

namespace Physics

variable {α : Type} [Scalar α]

/-- The part of the external force that is not the controller's. -/
def Account.foreign (a : Account α) : Vec3 α := a.external - a.ledger.applied

/-- What happens to the forces on a body between two steps. -/
inductive Impulse (α : Type) where
  /-- A user adds to the external force. -/
  | user (f : Vec3 α)
  /-- A force is applied in the name of the controller. -/
  | controller (f : Vec3 α)
  deriving DecidableEq, Repr

namespace Impulse

def ofUser : Impulse α → Vec3 α
  | .user f => f
  | .controller _ => 0

def ofController : Impulse α → Vec3 α
  | .user _ => 0
  | .controller f => f

end Impulse

namespace Parts

def receive (p : Parts α) : Impulse α → Parts α
  | .user f => { p with force? := p.force?.map (· + f) }
  | .controller f => p.obey (.applyForce f)

theorem account?_receive (p : Parts ℝ) (i : Impulse ℝ) :
    (p.receive i).account? = p.account?.map fun a =>
      ⟨a.external + i.ofUser, ⟨a.ledger.pending + i.ofController, a.ledger.applied⟩⟩ := by
  cases i with
  | user f =>
      unfold receive account?
      cases p.force? <;> cases p.ledger? <;> simp [Impulse.ofUser, Impulse.ofController]
  | controller f =>
      refine (p.account?_push f).trans ?_
      simp [Impulse.ofUser, Impulse.ofController, Ledger.gather]

theorem account?_foldl_receive (p : Parts ℝ) (impulses : List (Impulse ℝ)) :
    (impulses.foldl receive p).account? = p.account?.map fun a =>
      ⟨a.external + (impulses.map Impulse.ofUser).sum,
        ⟨a.ledger.pending + (impulses.map Impulse.ofController).sum, a.ledger.applied⟩⟩ := by
  induction impulses generalizing p with
  | nil => simp
  | cons i impulses ih =>
      rw [List.foldl_cons, ih, account?_receive, Option.map_map]
      simp only [Function.comp_def, List.map_cons, List.sum_cons, Vec3.add_assoc]

end Parts

/-! ### The account through a step -/

namespace Account

theorem foreign_add (a : Account ℝ) (users pending : Vec3 ℝ) :
    foreign ⟨a.external + users, ⟨pending, a.ledger.applied⟩⟩ = a.foreign + users := by
  ext <;> simp only [foreign, Vec3.add_x, Vec3.add_y, Vec3.add_z, Vec3.sub_x, Vec3.sub_y,
    Vec3.sub_z] <;> ring

theorem foreign_add_share (rest pending share : Vec3 ℝ) :
    foreign ⟨rest + share, ⟨pending, share⟩⟩ = rest := by
  ext <;> simp [foreign]

end Account

namespace Space

/-- The share of a step is what has been gathered before it and what the step itself applies. -/
theorem account?_tick_eq (s : Space ℝ) (id : Nat) :
    (tick s).1.account? id = (s.account? id).map fun a =>
      let share := a.ledger.pending + ((s.issued id).filterMap Command.force?).sum
      ⟨a.foreign + share, ⟨0, share⟩⟩ := by
  simp only [account?_tick, Vec3.foldl_add, Account.foreign]

/-- From one space to another, the account of a character changes by impulses alone. -/
def Receives (impulses : List (Impulse α)) (id : Nat) (s s' : Space α) : Prop :=
  s'.account? id = (s.get? id).bind fun c => (impulses.foldl Parts.receive c.body).account?

theorem Receives.account?_eq {impulses : List (Impulse ℝ)} {id : Nat} {s s' : Space ℝ}
    (received : Receives impulses id s s') :
    s'.account? id = (s.account? id).map fun a =>
      ⟨a.external + (impulses.map Impulse.ofUser).sum,
        ⟨a.ledger.pending + (impulses.map Impulse.ofController).sum, a.ledger.applied⟩⟩ := by
  rw [received]
  unfold account?
  cases s.get? id with
  | none => rfl
  | some c => exact c.body.account?_foldl_receive impulses

/-- Impulses to a character, with nothing else changed. -/
theorem receives_modify (s : Space α) (id : Nat) (impulses : List (Impulse α)) :
    Receives impulses id s
      (s.modify id fun c => { c with body := impulses.foldl Parts.receive c.body }) := by
  have changed : (s.modify id fun c =>
      { c with body := impulses.foldl Parts.receive c.body }).get? id = _ :=
    s.world.get?_modify id id _
  unfold Receives account?
  rw [changed, if_pos rfl, Option.bind_map]
  rfl

/-! ### Many steps -/

/-- A space after steps, each of which follows a change from outside. -/
def after (s : Space α) (changes : Nat → Space α → Space α) (n : Nat) : Space α :=
  interleave (fun s => (tick s).1) changes s n

/-- What users add before the first `n` steps. -/
def added (impulses : Nat → List (Impulse α)) (n : Nat) : Vec3 α :=
  ((List.range n).map fun k => ((impulses k).map Impulse.ofUser).sum).sum

theorem added_succ (impulses : Nat → List (Impulse ℝ)) (n : Nat) :
    added impulses (n + 1) = added impulses n + ((impulses n).map Impulse.ofUser).sum := by
  simp [added, List.range_succ, List.sum_append]

/-- What the account of a character is known to be before step `n`: users alone have changed what is
foreign in it, and nothing waits in the ledger but what waited there at first. -/
structure Balanced (start : Account ℝ) (impulses : Nat → List (Impulse ℝ)) (n : Nat)
    (a : Account ℝ) : Prop where
  foreign : a.foreign = start.foreign + added impulses n
  pending : a.ledger.pending = if n = 0 then start.ledger.pending else 0

section

variable {s : Space ℝ} {id : Nat} {start : Account ℝ} {changes : Nat → Space ℝ → Space ℝ}
  {impulses : Nat → List (Impulse ℝ)}

theorem Balanced.step {n : Nat} {a : Account ℝ} {s s' : Space ℝ}
    (balanced : Balanced start impulses n a) (has : s.account? id = some a)
    (received : Receives (impulses n) id s s') :
    let share :=
      (if n = 0 then start.ledger.pending else 0) + ((impulses n).map Impulse.ofController).sum +
        ((s'.issued id).filterMap Command.force?).sum
    (s'.account? id).map Account.foreign = some (start.foreign + added impulses (n + 1)) ∧
    (tick s').1.account? id =
      some ⟨start.foreign + added impulses (n + 1) + share, ⟨0, share⟩⟩ := by
  have now := received.account?_eq
  rw [has, Option.map_some] at now
  have foreign : a.foreign + ((impulses n).map Impulse.ofUser).sum =
      start.foreign + added impulses (n + 1) := by
    rw [balanced.foreign, added_succ, Vec3.add_assoc]
  constructor
  · rw [now, Option.map_some, Account.foreign_add, foreign]
  · rw [account?_tick_eq, now, Option.map_some, Account.foreign_add, foreign, balanced.pending]

theorem exists_balanced (has : s.account? id = some start)
    (changed : ∀ n, Receives (impulses n) id (s.after changes n) (changes n (s.after changes n)))
    (n : Nat) :
    ∃ a, (s.after changes n).account? id = some a ∧ Balanced start impulses n a := by
  induction n with
  | zero => exact ⟨start, has, (Vec3.add_zero _).symm, rfl⟩
  | succ n ih =>
      obtain ⟨a, before, balanced⟩ := ih
      exact ⟨_, (balanced.step before (changed n)).2, Account.foreign_add_share .., rfl⟩

/-- The account of a character after any number of steps. The controller's share is what has been
applied in its name since the step before put its own share in, starting with what waited at first;
the rest of the external force is what it was, with all that users have added. So it stands between
the steps too, before the share is exchanged. -/
theorem account?_after (has : s.account? id = some start)
    (changed : ∀ n, Receives (impulses n) id (s.after changes n) (changes n (s.after changes n)))
    (n : Nat) :
    let now := changes n (s.after changes n)
    let share :=
      (if n = 0 then start.ledger.pending else 0) + ((impulses n).map Impulse.ofController).sum +
        ((now.issued id).filterMap Command.force?).sum
    let foreign := start.foreign + added impulses (n + 1)
    (s.after changes (n + 1)).account? id = some ⟨foreign + share, ⟨0, share⟩⟩ ∧
    (now.account? id).map Account.foreign = some foreign ∧
    ((s.after changes (n + 1)).account? id).map Account.foreign = some foreign := by
  intro now share foreign
  obtain ⟨a, before, balanced⟩ := exists_balanced has changed n
  obtain ⟨between, afterwards⟩ := balanced.step before (changed n)
  have settled : (s.after changes (n + 1)).account? id = some ⟨foreign + share, ⟨0, share⟩⟩ :=
    afterwards
  refine ⟨settled, between, ?_⟩
  rw [settled, Option.map_some, Account.foreign_add_share]

end

/-- On the ground and told to go forward, with an account that the step before has not settled. -/
noncomputable def hauled : Character ℝ (Parts ℝ) :=
  { Character.ofBody
      { Parts.empty with
        force? := some .right
        ledger? := some ⟨.up, .forward⟩
        probe? := some { Probe.standard with onGround := true } } with
    controller? := some { Controller.fresh with direction := .forward } }

/-- A space with nothing but that character, without a clock or a scene. -/
noncomputable def yard : Space ℝ := ⟨⟨.ofList [hauled], .absent⟩, none⟩

/-- Each time a user pushes upward and a force to the right is applied for the controller, before
the scene is brought up to date. -/
noncomputable def haul (_ : Nat) (s : Space ℝ) : Space ℝ :=
  (s.modify 0 fun c =>
    { c with body := [Impulse.user .up, .controller .right].foldl Parts.receive c.body }).sync

/-- Going forward on the ground, a controller assists on its own. -/
theorem forces_forward :
    (({ Controller.fresh with direction := .forward } : Controller ℝ).advance (1 / 60.0) .standard
      ⟨true, none⟩).commands.filterMap Command.force? = [⟨0, 0, 500⟩] := by
  have passes : (0 : ℝ) < 1 / 60.0 := by norm_num
  rw [Controller.advance, if_pos (isTimestep_real_iff.mpr passes.le),
    Controller.forces_frame, if_pos ⟨passes, rfl⟩, input?_forward, Option.elim_some,
    Vec3.normalizeOrZero_eq (Vec3.length_forward ▸ one_pos),
    Vec3.normalize_of_unit Vec3.length_forward]
  norm_num [Tuning.standard, Vec3.ext_iff, Vec3.forward]

theorem forces_haul : ((haul 0 yard).issued 0).filterMap Command.force? = [⟨0, 0, 500⟩] :=
  forces_forward

theorem account?_after_haul :
    (yard.after haul 1).account? 0 = some ⟨⟨2, 2, 499⟩, ⟨0, ⟨1, 1, 500⟩⟩⟩ ∧
    ((yard.after haul 2).account? 0).map Account.foreign = some ⟨1, 2, -1⟩ := by
  have has : yard.account? 0 = some ⟨.right, ⟨.up, .forward⟩⟩ := rfl
  have changed (n : Nat) : Receives [.user .up, .controller .right] 0 (yard.after haul n)
      (haul n (yard.after haul n)) :=
    receives_modify ..
  have issued : ((haul 0 (yard.after haul 0)).issued 0).filterMap Command.force? = [⟨0, 0, 500⟩] :=
    forces_haul
  constructor
  · refine (account?_after has changed 0).1.trans ?_
    rw [issued]
    norm_num [Vec3.ext_iff, Account.foreign, added, Impulse.ofUser, Impulse.ofController, Vec3.right,
      Vec3.up, Vec3.forward]
  · refine (account?_after has changed 1).2.2.trans ?_
    norm_num [Vec3.ext_iff, Account.foreign, added, Impulse.ofUser, Vec3.right, Vec3.up,
      Vec3.forward, List.range_succ]

end Space

end Physics

end CharacterMotion
