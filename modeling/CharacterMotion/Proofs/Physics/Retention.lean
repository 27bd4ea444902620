import CharacterMotion.Binary32.Scalar
import CharacterMotion.Proofs.Physics.Balance
import CharacterMotion.Proofs.Physics.Forces

/-!
For how long a body keeps the forces that are applied to it, over the real numbers.

A force is meant for its own step. It is gone with the next one where the body has both an external
force and a ledger. A body with one of them keeps every force for good: in the external force, where
it goes on acting, or pending in the ledger, which waits for an external force to come
(`settled_iff_single_unforced`). The parts may come to a body at any time, so that one run may go
through all of this.

The forces of a run are told apart by whose they are: those of the users are what is there when no
step is taken at all (`Forces.alone`), and the rest is the controller's own account, which the steps
alone change (`forces?_after`).
-/

namespace CharacterMotion.Physics

/-! ### The controller's own account -/

namespace Account

/-- An account without what the body has no part for. -/
structure Fits (own : Account ℝ) (F : Forces ℝ) : Prop where
  external : F.external? = none → own.external = 0 ∧ own.ledger.applied = 0
  ledger : F.ledger? = none → own.ledger = .empty

/-- What becomes of the controller's account in a step in which it applies a force. -/
noncomputable def next (own : Account ℝ) (F : Forces ℝ) (issued : Vec3 ℝ) : Account ℝ :=
  match F.external?, F.ledger? with
  | some _, some _ =>
      let share := own.ledger.pending + issued
      ⟨own.external - own.ledger.applied + share, ⟨0, share⟩⟩
  | some _, none => ⟨own.external + issued, own.ledger⟩
  | none, some _ => ⟨own.external, own.ledger.gather issued⟩
  | none, none => own

theorem Fits.next {own : Account ℝ} {F : Forces ℝ} (fits : own.Fits F) (issued : Vec3 ℝ) :
    (own.next F issued).Fits F := by
  obtain ⟨external, ledger⟩ := fits
  rcases F with ⟨_ | _, _ | _⟩
  · exact ⟨external, ledger⟩
  · exact ⟨external, nofun⟩
  · exact ⟨nofun, ledger⟩
  · exact ⟨nofun, nofun⟩

theorem Fits.mono {own : Account ℝ} {F F' : Forces ℝ} (fits : own.Fits F) (within : F.Within F') :
    own.Fits F' :=
  ⟨fits.external ∘ within.external, fits.ledger ∘ within.ledger⟩

end Account

namespace Forces

/-- Forces together with those of the controller. -/
noncomputable def joined (F : Forces ℝ) (own : Account ℝ) : Forces ℝ :=
  ⟨F.external?.map (· + own.external), F.ledger?.map fun _ => own.ledger⟩

variable {F : Forces ℝ} {own : Account ℝ}

theorem joined_write (fits : own.Fits F) (w : Write ℝ) :
    (F.joined own).write w = (F.write w).joined own := by
  obtain ⟨external, ledger⟩ := F
  cases w with
  | add f => cases external <;> simp [joined, write, Vec3.add_right_comm]
  | insertExternal f =>
      cases external with
      | none => simp [joined, write, (fits.external rfl).1]
      | some external => rfl
  | insertLedger =>
      cases ledger with
      | none => simp [joined, write, fits.ledger rfl]
      | some ledger => rfl

theorem joined_foldl_write (fits : own.Fits F) (ws : List (Write ℝ)) :
    ws.foldl write (F.joined own) = (ws.foldl write F).joined own := by
  induction ws generalizing F with
  | nil => rfl
  | cons w ws ih =>
      rw [List.foldl_cons, joined_write fits, ih (fits.mono (F.within_write w))]
      rfl

theorem joined_exchange (F : Forces ℝ) (own : Account ℝ) (forces : List (Vec3 ℝ)) :
    (F.joined own).exchange forces = F.joined (own.next F forces.sum) := by
  rcases F with ⟨_ | external, _ | ledger⟩
  · rfl
  · simp [joined, exchange, apply, Account.next, Ledger.foldl_gather, Ledger.gather, Vec3.foldl_add]
  · simp [joined, exchange, apply, Account.next, Vec3.foldl_add, Vec3.add_assoc]
  · simp only [joined, exchange, Account.next, Vec3.foldl_add, Option.map_some]
    congr 2
    ext <;> simp <;> ring

end Forces

/-! ### What is left of a force -/

/-- After a step in which the controller applied a force: besides what users put there, that force
and nothing else is in the external force; nothing is pending, or where there is no external force
nothing but the force of the step. -/
structure Forces.Settled (F alone : Forces ℝ) (issued : Vec3 ℝ) : Prop where
  external : F.external? = alone.external?.map (· + issued)
  pending : F.ledger?.map Ledger.pending =
    alone.ledger?.map fun _ => if alone.external?.isSome then 0 else issued

theorem Forces.settled_joined_iff {F : Forces ℝ} {own : Account ℝ} {issued : Vec3 ℝ} :
    (F.joined own).Settled F issued ↔
      (F.external?.isSome → own.external = issued) ∧
      (F.ledger?.isSome → own.ledger.pending = if F.external?.isSome then 0 else issued) := by
  constructor
  · rintro ⟨external, pending⟩
    rcases F with ⟨_ | _, _ | _⟩ <;> simp_all [joined, Vec3.add_left_cancel_iff]
  · rintro ⟨external, pending⟩
    constructor
    · rcases F with ⟨_ | _, _ | _⟩ <;> simp_all [joined]
    · rcases F with ⟨_ | _, _ | _⟩ <;> simp_all [joined]

namespace Account

/-- An account from which the next step takes all that is in it. -/
structure Clean (own : Account ℝ) : Prop where
  external : own.external = own.ledger.applied
  pending : own.ledger.pending = 0

variable {own : Account ℝ} {F : Forces ℝ} {issued : Vec3 ℝ}

theorem Clean.settled (clean : own.Clean) (fits : own.Fits F) :
    (F.joined (own.next F issued)).Settled F issued := by
  rw [Forces.settled_joined_iff]
  constructor
  · intro present
    rcases F with ⟨_ | _, _ | _⟩
    · cases present
    · cases present
    · have none : own.external = 0 := by
        rw [clean.external, fits.ledger rfl]
        rfl
      simp [next, none]
    · simp [next, clean.external, clean.pending, Vec3.sub_self_add]
  · intro booked
    rcases F with ⟨_ | _, _ | _⟩
    · cases booked
    · simp [next, Ledger.gather, clean.pending]
    · cases booked
    · simp [next]

/-- Where both parts are there, or nothing is applied, an account stays clean. -/
theorem Clean.next (clean : own.Clean) (harmless : F.single → issued = 0) :
    (own.next F issued).Clean := by
  rcases F with ⟨_ | _, _ | _⟩
  · exact clean
  · cases harmless rfl
    exact ⟨clean.external, by simp [Account.next, Ledger.gather, clean.pending]⟩
  · cases harmless rfl
    exact ⟨by simp [Account.next, clean.external], clean.pending⟩
  · exact ⟨by simp [Account.next, clean.external, Vec3.sub_self_add], rfl⟩

/-- A force that is there in the step after its own, too, was none. -/
theorem eq_zero_of_settled (fits : own.Fits F) {F' : Forces ℝ} {issued' : Vec3 ℝ}
    (within : F.Within F') (single : F.single)
    (settled : (F.joined (own.next F issued)).Settled F issued)
    (settled' : (F'.joined ((own.next F issued).next F' issued')).Settled F' issued') :
    issued = 0 := by
  rw [Forces.settled_joined_iff] at settled settled'
  rcases F with ⟨_ | external, _ | ledger⟩
  · cases single
  · -- The force is pending still, or has come into the external force with the next one.
    obtain ⟨absent, withdrawn⟩ := fits.external rfl
    have pending : own.ledger.pending + issued = issued := settled.2 rfl
    rcases F' with ⟨_ | _, _ | _⟩
    · cases within.ledger rfl
    · have later : own.ledger.pending + issued + issued' = issued' := settled'.2 rfl
      rwa [pending, Vec3.add_eq_right] at later
    · cases within.ledger rfl
    · have later : own.external - own.ledger.applied + (own.ledger.pending + issued + issued') =
          issued' := settled'.1 rfl
      rwa [absent, withdrawn, Vec3.sub_self_add, pending, Vec3.add_eq_right] at later
  · -- The force is in the external force, and no ledger knows of it.
    have present : own.external + issued = issued := settled.1 rfl
    rcases F' with ⟨_ | _, _ | _⟩
    · cases within.external rfl
    · cases within.external rfl
    · have later : own.external + issued + issued' = issued' := settled'.1 rfl
      rwa [present, Vec3.add_eq_right] at later
    · have later : own.external + issued - own.ledger.applied + (own.ledger.pending + issued') =
          issued' := settled'.1 rfl
      rw [present, fits.ledger rfl] at later
      change issued - 0 + (0 + issued') = issued' at later
      rwa [Vec3.sub_zero, Vec3.zero_add, Vec3.add_eq_right] at later
  · cases single

/-- All that an account keeps of past forces, where there is nothing to be taken out. -/
noncomputable def total (own : Account ℝ) : Vec3 ℝ := own.external + own.ledger.pending

theorem total_next (part : F.whole = false) :
    (own.next F issued).total = own.total + if F.single then issued else 0 := by
  rcases F with ⟨_ | _, _ | _⟩
  · simp [Account.next, Forces.single]
  · simp [Account.next, Forces.single, total, Ledger.gather, Vec3.add_assoc]
  · simp [Account.next, Forces.single, total, Vec3.add_right_comm]
  · cases part

/-- Where one part is there alone, it holds the whole account. -/
theorem joined_of_single (fits : own.Fits F) (single : F.single) :
    F.joined own = F.joined ⟨own.total, ⟨own.total, 0⟩⟩ := by
  rcases F with ⟨_ | _, _ | _⟩
  · cases single
  · obtain ⟨absent, withdrawn⟩ := fits.external rfl
    obtain ⟨external, pending, applied⟩ := own
    dsimp only at absent withdrawn
    subst absent withdrawn
    simp [Forces.joined, total]
  · obtain ⟨external, ledger⟩ := own
    cases fits.ledger rfl
    simp [Forces.joined, total]
  · cases single

end Account

namespace Space

variable {α : Type} [Scalar α]

/-- From one space to another, the forces of a character change by writes of users alone. -/
def Writes (s : Space α) (ws : List (Forces.Write α)) (id : Nat) (s' : Space α) : Prop :=
  s'.forces? id = (s.forces? id).map (ws.foldl Forces.write ·)

/-- Writes to the parts of a character, with nothing else changed. -/
theorem writes_modify (s : Space α) (ws : List (Forces.Write α)) (id : Nat) :
    s.Writes ws id (s.modify id fun c =>
      let F := ws.foldl Forces.write c.body.forces
      { c with body := { c.body with force? := F.external?, ledger? := F.ledger? } }) := by
  have changed : (s.modify id fun c =>
      let F := ws.foldl Forces.write c.body.forces
      { c with body := { c.body with force? := F.external?, ledger? := F.ledger? } }).get? id = _ :=
    s.world.get?_modify id id _
  unfold Writes forces?
  rw [changed, if_pos rfl, Option.map_map, Option.map_map]
  rfl

/-- The force that the controller of a character applies in a step. -/
def appliedIn (s : Space α) (id : Nat) : Vec3 α := ((s.issued id).filterMap Command.force?).sum

end Space

/-! ### Many steps -/

section

variable {start : Forces ℝ} {writes : Nat → List (Forces.Write ℝ)} {issued : Nat → Vec3 ℝ}

/-- The controller's account before step `n`, given the force that each step applies. -/
noncomputable def ownAt (start : Forces ℝ) (writes : Nat → List (Forces.Write ℝ))
    (issued : Nat → Vec3 ℝ) (n : Nat) : Account ℝ :=
  stateAt (fun own k => own.next (start.alone writes (k + 1)) (issued k)) ⟨0, .empty⟩ id n

theorem fits_ownAt (n : Nat) : (ownAt start writes issued n).Fits (start.alone writes n) := by
  induction n with
  | zero => exact ⟨fun _ => ⟨rfl, rfl⟩, fun _ => rfl⟩
  | succ n ih => exact (ih.mono (Forces.within_foldl_write _ _)).next _

/-- The account that a step finds. -/
theorem fits_ownAt_succ (n : Nat) :
    (ownAt start writes issued n).Fits (start.alone writes (n + 1)) :=
  (fits_ownAt n).mono (Forces.within_foldl_write _ _)

/-- The forces of a character after any number of steps are those of the users and the controller's
own. -/
theorem Space.forces?_after {s : Space ℝ} {id : Nat} {changes : Nat → Space ℝ → Space ℝ}
    (has : s.forces? id = some start) (fresh : ∀ l ∈ start.ledger?, l = .empty)
    (written : ∀ n, (s.after changes n).Writes (writes n) id (changes n (s.after changes n)))
    (n : Nat) :
    (s.after changes n).forces? id = some ((start.alone writes n).joined
      (ownAt start writes (fun k => (changes k (s.after changes k)).appliedIn id) n)) := by
  induction n with
  | zero =>
      refine has.trans (congrArg some ?_)
      obtain ⟨external, ledger⟩ := start
      cases ledger with
      | none => cases external <;> simp [Forces.joined, Forces.alone, ownAt, stateAt]
      | some ledger =>
          cases fresh ledger rfl
          cases external <;> simp [Forces.joined, Forces.alone, ownAt, stateAt]
  | succ n ih =>
      have stepped : (s.after changes (n + 1)).forces? id = _ :=
        forces?_tick (changes n (s.after changes n)) id
      rw [stepped, written n, ih, Option.map_some, Option.map_some,
        Forces.joined_foldl_write (fits_ownAt n)]
      exact congrArg some (Forces.joined_exchange ..)

/-- The account stays clean as long as forces are applied only where they are taken out again. -/
theorem clean_ownAt {n : Nat}
    (harmless : ∀ k < n, (start.alone writes (k + 1)).single → issued k = 0) :
    (ownAt start writes issued n).Clean := by
  induction n with
  | zero => exact ⟨rfl, rfl⟩
  | succ n ih =>
      have before := ih fun k lt => harmless k (Nat.lt_succ_of_lt lt)
      exact before.next (harmless n (Nat.lt_succ_self n))

/-- What has been applied, until step `n`, to a body with one of the parts. -/
noncomputable def kept (start : Forces ℝ) (writes : Nat → List (Forces.Write ℝ))
    (issued : Nat → Vec3 ℝ) (n : Nat) : Vec3 ℝ :=
  ((List.range n).map fun k => if (start.alone writes (k + 1)).single then issued k else 0).sum

/-- Until both parts are there nothing gets lost. -/
theorem total_ownAt {n : Nat} (part : ∀ k < n, (start.alone writes (k + 1)).whole = false) :
    (ownAt start writes issued n).total = kept start writes issued n := by
  induction n with
  | zero => simp [ownAt, stateAt, kept, Account.total, Ledger.empty]
  | succ n ih =>
      have before := ih fun k lt => part k (Nat.lt_succ_of_lt lt)
      refine (Account.total_next (part n (Nat.lt_succ_self n))).trans ?_
      change (ownAt start writes issued n).total + _ = _
      rw [before]
      simp [kept, List.range_succ, List.sum_append]

end

/-- A force lasts for its own step alone exactly as long as none is applied to a body that has the
external force without the ledger or the ledger without the external force. There every force stays:
what a user put into the one part, or nothing in the other, is joined by all that the controller has
applied since the part came. -/
theorem Space.settled_iff_single_unforced {s : Space ℝ} {id : Nat} {start : Forces ℝ}
    {changes : Nat → Space ℝ → Space ℝ} {writes : Nat → List (Forces.Write ℝ)}
    (has : s.forces? id = some start) (fresh : ∀ l ∈ start.ledger?, l = .empty)
    (written : ∀ n, (s.after changes n).Writes (writes n) id (changes n (s.after changes n))) :
    let issued := fun n => (changes n (s.after changes n)).appliedIn id
    let users := fun n => start.alone writes (n + 1)
    (∀ n, (∀ k ≤ n, ∃ F, (s.after changes (k + 1)).forces? id = some F ∧
        F.Settled (users k) (issued k)) ↔
      ∀ k < n, (users k).single → issued k = 0) ∧
    ∀ n, (users n).single →
      (s.after changes (n + 1)).forces? id =
        some ⟨(users n).external?.map (· + kept start writes issued (n + 1)),
          (users n).ledger?.map fun _ => ⟨kept start writes issued (n + 1), 0⟩⟩ := by
  intro issued users
  have after (k : Nat) : (s.after changes (k + 1)).forces? id =
      some ((users k).joined (ownAt start writes issued (k + 1))) :=
    forces?_after has fresh written (k + 1)
  constructor
  · intro n
    constructor
    · intro settled k lt single
      obtain ⟨F, now, settled_k⟩ := settled k lt.le
      obtain ⟨F', next, settled_next⟩ := settled (k + 1) lt
      cases (after k).symm.trans now
      cases (after (k + 1)).symm.trans next
      exact Account.eq_zero_of_settled (fits_ownAt_succ k)
        (start.within_alone writes (Nat.le_succ (k + 1))) single settled_k settled_next
    · intro harmless k le
      have clean : (ownAt start writes issued k).Clean :=
        clean_ownAt fun j lt => harmless j (lt.trans_le le)
      exact ⟨_, after k, clean.settled (fits_ownAt_succ k)⟩
  · intro n single
    have part (k : Nat) (lt : k < n + 1) : (users k).whole = false :=
      (start.within_alone writes lt).whole_eq_false (Forces.whole_eq_false_of_single single)
    rw [after n, Account.joined_of_single (fits_ownAt (n + 1)) single, total_ownAt part]
    rfl

namespace Space

/-- A character that goes forward on the ground, with an external force and no ledger. -/
noncomputable def pushed : Character ℝ (Parts ℝ) :=
  { hauled with body := { hauled.body with force? := some 0, ledger? := none } }

/-- A user pushes the character upward before each step. -/
noncomputable def pushUp (_ : Nat) (s : Space ℝ) : Space ℝ :=
  s.modify 0 fun c =>
    let F := [Forces.Write.add .up].foldl Forces.write c.body.forces
    { c with body := { c.body with force? := F.external?, ledger? := F.ledger? } }

theorem settled_iff_single_unforced_pushed :
    let s : Space ℝ := ⟨⟨.ofList [pushed], .absent⟩, none⟩
    let users := Forces.alone ⟨some 0, none⟩ fun _ => [.add .up]
    (¬ ∀ k ≤ 1, ∃ F, (s.after pushUp (k + 1)).forces? 0 = some F ∧
      F.Settled (users (k + 1)) ((pushUp k (s.after pushUp k)).appliedIn 0)) ∧
    (s.after pushUp 1).forces? 0 = some ⟨some ⟨0, 1, 500⟩, none⟩ := by
  intro s users
  have issued : (pushUp 0 (s.after pushUp 0)).appliedIn 0 = ⟨0, 0, 500⟩ := by
    have assists : ((pushUp 0 s).issued 0).filterMap Command.force? = [⟨0, 0, 500⟩] :=
      forces_forward
    change (((pushUp 0 s).issued 0).filterMap Command.force?).sum = _
    rw [assists]
    exact Vec3.add_zero _
  have has : s.forces? 0 = some ⟨some 0, none⟩ := rfl
  have written (n : Nat) :
      (s.after pushUp n).Writes [.add .up] 0 (pushUp n (s.after pushUp n)) := writes_modify ..
  obtain ⟨exactly, amount⟩ := settled_iff_single_unforced has nofun written
  constructor
  · intro settled
    have unforced : (pushUp 0 (s.after pushUp 0)).appliedIn 0 = 0 :=
      (exactly 1).mp settled 0 Nat.one_pos rfl
    rw [issued, Vec3.ext_iff] at unforced
    norm_num at unforced
  · refine (amount 0 rfl).trans ?_
    norm_num [kept, issued, Forces.alone, stateAt, Forces.write, Forces.single, Vec3.ext_iff,
      Vec3.up, List.range_succ]

/-- Told by its intent to go forward, on the ground, with some of the parts that hold forces. -/
def marching (F : Forces Float32) : Character Float32 (Parts Float32) :=
  { Character.ofBody
      { Parts.empty with
        force? := F.external?
        ledger? := F.ledger?
        probe? := some { Probe.standard with onGround := true } } with
    controller? := some .fresh
    intent? := some ⟨.forward, false, none⟩ }

/-- In each step a force of 500 is applied. After two steps twice as much is there. -/
theorem force_stays :
    let s (F : Forces Float32) : Space Float32 := ⟨⟨.ofList [marching F], .absent⟩, none⟩
    let unbooked := s ⟨some 0, none⟩
    let unspent := s ⟨none, some .empty⟩
    ((tick unbooked).1.issued 0).filterMap Command.force? = [⟨0, 0, 500⟩] ∧
    (unbooked.after (fun _ => id) 2).forces? 0 = some ⟨some ⟨0, 0, 1000⟩, none⟩ ∧
    ((tick unspent).1.issued 0).filterMap Command.force? = [⟨0, 0, 500⟩] ∧
    (unspent.after (fun _ => id) 2).forces? 0 = some ⟨none, some ⟨⟨0, 0, 1000⟩, 0⟩⟩ := by
  decide +kernel

end Space

end CharacterMotion.Physics
