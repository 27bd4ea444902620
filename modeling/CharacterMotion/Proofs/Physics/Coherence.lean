import CharacterMotion.Proofs.Binary32.Arithmetic
import CharacterMotion.Proofs.Controller.Commit
import CharacterMotion.Proofs.Physics.Balance
import CharacterMotion.Proofs.World.StepLength
import CharacterMotion.Proofs.World.Wishes

/-!
What the parts of a physical character tell after a step, and that they tell the same. The probe
looks before the controller runs, and the controller runs before its forces are deposited; so the
contact of the controller is the one that the probe has found in this step, and the force of this
step is the one that this contact and the direction of this step call for (`coherent_after`). None
of them is left from the step before.

A character without a probe is in the air, whatever is below it (`airborne_without_probe`).
-/

namespace CharacterMotion

variable {α β : Type}

theorem Animation.clip_display (a : Animation) (clip : Clip) : (a.display clip).clip = clip := by
  unfold display
  split
  · assumption
  · rfl

/-- The same vector, up to the signs of zeros. -/
structure Vec3.Alike (v w : Vec3 Float32) : Prop where
  x : Binary32.Alike v.x w.x
  y : Binary32.Alike v.y w.y
  z : Binary32.Alike v.z w.z

theorem Vec3.Alike.refl (v : Vec3 Float32) : v.Alike v := ⟨.inl rfl, .inl rfl, .inl rfl⟩

theorem Vec3.zero_add_alike (v : Vec3 Float32) : (0 + v).Alike v :=
  ⟨Binary32.zero_add_alike v.x, Binary32.zero_add_alike v.y, Binary32.zero_add_alike v.z⟩

namespace Controller

variable [Scalar α]

theorem onGround_advance (c : Controller α) (dt : α) (t : Tuning α) (r : Reading α) :
    (c.advance dt t r).controller.onGround = r.onGround := by
  rw [controller_advance, controller_frame]
  unfold moved
  split <;> rfl

/-- In the air no clip but the idle one is shown. -/
theorem clip_advance_of_airborne (c : Controller α) (dt : α) (t : Tuning α) {r : Reading α}
    (airborne : r.onGround = false) : (c.advance dt t r).controller.clip = .idle := by
  rw [controller_advance, controller_frame]
  simp [Clip.select, airborne]

/-- The force by which a controller on the ground assists: along its direction, if that counts as
input. -/
def assist (c : Controller α) (t : Tuning α) : Option (Vec3 α) :=
  if CountsAsInput t c.direction then
    t.assistForce.map fun force => c.direction.flat.normalizeOrZero * force
  else none

theorem forces_advance (c : Controller α) {dt : α} (t : Tuning α) (r : Reading α)
    (passes : 0 < elapsed dt) :
    (c.advance dt t r).commands.filterMap Command.force? =
      if r.onGround then (c.assist t).toList else [] := by
  rw [commands_advance_elapsed, forces_frame, elim_push_eq, assist]
  by_cases grounded : r.onGround = true
  · by_cases counts : CountsAsInput t c.direction
    · rw [if_pos ⟨passes, grounded, counts⟩, if_pos grounded, if_pos counts]
      cases t.assistForce <;> rfl
    · rw [if_neg fun all => counts all.2.2, if_pos grounded, if_neg counts]
      rfl
  · rw [if_neg fun all => grounded all.2.1, if_neg grounded]

end Controller

namespace Character

variable [Scalar α]

/-- Passing an intent on does not look at the body. -/
theorem controller?_forward_body (c : Character α β) (body : β) :
    ({ c with body } : Character α β).forward.1.controller? = c.forward.1.controller? := by
  obtain ⟨controller?, _, intent?, _, _, _, _⟩ := c
  cases controller? <;> cases intent? <;> rfl

/-- The direction of a step: the held one unless that is zero, and otherwise the one that the
controller has been given. -/
def wanted (c : Character α β) (k : Controller α) : Vec3 α :=
  (c.intent?.filter fun i => !i.direction.isZero).elim k.direction Intent.direction

theorem exists_told {c : Character α β} {k : Controller α} (owned : c.controller? = some k) :
    ∃ told, c.forward.1.controller? = some told ∧ told.direction = c.wanted k := by
  cases intended : c.intent? with
  | none =>
      refine ⟨k, ?_, ?_⟩
      · unfold forward
        rw [intended]
        exact owned
      · rw [wanted, intended]
        rfl
  | some i =>
      refine ⟨(k.takeAll (ordersOf i)).1, ?_, ?_⟩
      · rw [forward_of owned intended]
      · rw [Controller.takeAll_ordersOf, wanted, intended, Option.filter_some]
        cases zero : i.direction.isZero <;> rfl

theorem issued_of_told [Body α β] {c : Character α β} {told : Controller α}
    (hears : c.forward.1.controller? = some told) (dt : α) :
    c.issued dt = (told.advance dt (c.tuning?.getD .standard) c.reading).commands := by
  obtain ⟨controller?, intent?, forwarded, -⟩ := c.forward_eq
  unfold issued
  dsimp only
  rw [hears, Option.elim_some, forwarded]
  rfl

end Character

namespace Physics

/-! ### The probe of a body -/

/-- A probe that tells of ground exactly if it has met something. -/
def Probe.Coherent (p : Probe α) : Prop := p.onGround = p.hit?.isSome

namespace Parts

theorem probe?_balance (p : Parts α) (rule : Vec3 α → Ledger α → Vec3 α × Ledger α) :
    (p.balance rule).probe? = p.probe? := by
  unfold balance
  split <;> rfl

variable [Scalar α]

theorem probe?_obey (p : Parts α) (command : Command α) : (p.obey command).probe? = p.probe? := by
  cases command with
  | applyForce f =>
      change (p.push f).probe? = p.probe?
      unfold push
      split <;> rfl
  | _ => rfl

theorem probe?_foldl_obey (p : Parts α) (commands : List (Command α)) :
    (commands.foldl Body.obey p).probe? = p.probe? := by
  induction commands generalizing p with
  | nil => rfl
  | cons command commands ih => exact (ih _).trans (p.probe?_obey command)

theorem isSome_probe?_sense (p : Parts α) (scene : Scene α) (owner : Nat) :
    (p.sense scene owner).probe?.isSome = p.probe?.isSome := by
  unfold sense
  split
  · rename_i has _
    rw [has]
    rfl
  · rfl

/-- However the ground is sensed, or left unsensed, the probe stays coherent. -/
theorem exists_probe_ready {p : Parts α} {probe : Probe α} (has : p.probe? = some probe)
    (coherent : probe.Coherent) (scene? : Option (Scene α)) (owner : Nat) :
    ∃ probe', (p.ready scene? owner).probe? = some probe' ∧ probe'.Coherent := by
  have free : (p.balance Ledger.withdraw).probe? = some probe := (p.probe?_balance _).trans has
  cases scene? with
  | none => exact ⟨probe, free, coherent⟩
  | some scene =>
      change ∃ probe', ((p.balance Ledger.withdraw).sense scene owner).probe? = some probe' ∧ _
      unfold sense
      rw [free]
      cases (p.balance Ledger.withdraw).position? with
      | none => exact ⟨probe, free, coherent⟩
      | some position => exact ⟨_, rfl, rfl⟩

theorem probe?_ready_of_none {p : Parts α} (absent : p.probe? = none) (scene? : Option (Scene α))
    (owner : Nat) : (p.ready scene? owner).probe? = none := by
  have free : (p.balance Ledger.withdraw).probe? = none := (p.probe?_balance _).trans absent
  cases scene? with
  | none => exact free
  | some scene =>
      have sensed := (p.balance Ledger.withdraw).isSome_probe?_sense scene owner
      rw [free] at sensed
      exact Option.isSome_eq_false_iff.mp sensed |> Option.isNone_iff_eq_none.mp

/-- A body with a probe that is coherent, and with an account in which nothing is pending. -/
structure Settled (p : Parts α) : Prop where
  probe : ∃ probe, p.probe? = some probe ∧ probe.Coherent
  account : ∃ external applied, p.account? = some ⟨external, ⟨0, applied⟩⟩

end Parts

theorem Parts.ledger?_of_account? {p : Parts α} {a : Account α} (has : p.account? = some a) :
    p.ledger? = some a.ledger := by
  unfold account? at has
  obtain ⟨external, -, entered⟩ := Option.bind_eq_some_iff.mp has
  obtain ⟨ledger, there, rfl⟩ := Option.map_eq_some_iff.mp entered
  exact there

namespace Space

/-! ### One step -/

/-- A step of a character that has a controller: its frame runs on the body as it has been readied,
and the probe is not looked at again. -/
theorem get?_tick_of_told [Scalar α] {s : Space α} {id : Nat} {c : Character α (Parts α)}
    {told : Controller α} (there : s.get? id = some c)
    (hears : c.forward.1.controller? = some told) :
    let frame := told.advance s.world.clock.stepLength (c.tuning?.getD .standard)
      (s.readied id c).reading
    s.issued id = frame.commands ∧
    ∃ c', (tick s).1.get? id = some c' ∧ c'.controller? = some frame.controller ∧
      c'.body.probe? = (c.body.ready s.scene? id).probe? ∧
      ∀ a, c'.animation? = some a → a.clip = frame.controller.clip := by
  intro frame
  have hears' : (s.readied id c).forward.1.controller? = some told :=
    (c.controller?_forward_body _).trans hears
  obtain ⟨grounded, airborne, stepped⟩ :=
    Character.stepAlone_of_told hears' (s.world.clock.stepLength : α)
  constructor
  · unfold issued
    rw [there, Option.elim_some, Character.issued_of_told hears']
    rfl
  · have ticked := s.get?_tick id
    rw [there, Option.map_some, stepped] at ticked
    refine ⟨_, ticked, rfl, ?_, ?_⟩
    · dsimp only
      rw [Parts.probe?_balance, Parts.probe?_foldl_obey]
      rfl
    · intro a shown
      obtain ⟨a₀, -, rfl⟩ := Option.map_eq_some_iff.mp shown
      exact a₀.clip_display _

/-- What the parts of a character tell after a step, the controller being `told` when the frame
began. -/
structure Coherence (told : Controller Float32) (t : Tuning Float32) (k : Controller Float32)
    (probe : Probe Float32) (ledger : Ledger Float32) (animation? : Option Animation) : Prop where
  contact : k.onGround = probe.onGround
  hit : probe.onGround = probe.hit?.isSome
  airborne : probe.onGround = false →
    ledger.applied = 0 ∧ k.clip = .idle ∧ ∀ a, animation? = some a → a.clip = .idle
  grounded : probe.onGround = true → ledger.applied.Alike ((told.assist t).getD 0)

theorem coherence_of_share {told k : Controller Float32} {t : Tuning Float32}
    {probe : Probe Float32} {animation? : Option Animation} {share : Vec3 Float32}
    (contact : k.onGround = probe.onGround) (hit : probe.Coherent)
    (idles : probe.onGround = false → k.clip = .idle)
    (shows : ∀ a, animation? = some a → a.clip = k.clip)
    (shared : share = (if probe.onGround then (told.assist t).toList else []).foldl (· + ·) 0) :
    Coherence told t k probe ⟨0, share⟩ animation? where
  contact := contact
  hit := hit
  airborne := by
    intro lifted
    rw [lifted] at shared
    exact ⟨shared, idles lifted, fun a shown => (shows a shown).trans (idles lifted)⟩
  grounded := by
    intro grounded
    rw [if_pos grounded] at shared
    rw [shared]
    cases told.assist t with
    | none => exact .refl 0
    | some force => exact Vec3.zero_add_alike force

/-- A step makes the parts of a character tell the same, and leaves its body settled again. -/
theorem coherent_tick {s : Space Float32} {id : Nat} {c : Character Float32 (Parts Float32)}
    {k : Controller Float32} (there : s.get? id = some c) (owned : c.controller? = some k)
    (settled : c.body.Settled) :
    ∃ c' told k' probe ledger, (tick s).1.get? id = some c' ∧
      c.forward.1.controller? = some told ∧ told.direction = c.wanted k ∧
      c'.controller? = some k' ∧ c'.body.probe? = some probe ∧ c'.body.ledger? = some ledger ∧
      c'.body.Settled ∧
      Coherence told (c.tuning?.getD .standard) k' probe ledger c'.animation? := by
  obtain ⟨told, hears, direction⟩ := Character.exists_told owned
  obtain ⟨⟨probe₀, had, coherent₀⟩, external, applied, account⟩ := settled
  obtain ⟨probe, found, coherent⟩ := Parts.exists_probe_ready had coherent₀ s.scene? id
  have contact : (s.readied id c).reading.onGround = probe.onGround := by
    change (c.body.ready s.scene? id).probe?.any (·.onGround) = _
    rw [found, Option.any_some]
  obtain ⟨issued, c', after, owned', probed, shows⟩ := get?_tick_of_told there hears
  rw [found] at probed
  -- The forces of the step are those that its contact allows, and time for them passes.
  have passes : 0 < elapsed (s.world.clock.stepLength : Float32) :=
    pos_elapsed_iff.mpr ⟨s.world.clock.isTimestep_stepLength, s.world.clock.passes_stepLength.1⟩
  have forces : (s.issued id).filterMap Command.force? =
      if probe.onGround then (told.assist (c.tuning?.getD .standard)).toList else [] := by
    rw [issued, Controller.forces_advance _ _ _ passes, contact]
  have account' := s.account?_tick id
  unfold account? at account'
  rw [after, there, Option.bind_some, Option.bind_some, account, Option.map_some, forces]
    at account'
  refine ⟨c', told, _, probe, _, after, hears, direction, owned', probed,
    Parts.ledger?_of_account? account', ⟨⟨probe, probed, coherent⟩, _, _, account'⟩, ?_⟩
  refine coherence_of_share ?_ coherent ?_ shows rfl
  · rw [← contact]
    exact Controller.onGround_advance ..
  · intro lifted
    exact Controller.clip_advance_of_airborne _ _ _ (contact.trans lifted)

/-- A character without a probe is in the air in a step, whatever is below it. -/
theorem airborne_tick_of_no_probe {s : Space Float32} {id : Nat}
    {c : Character Float32 (Parts Float32)} {k : Controller Float32} (there : s.get? id = some c)
    (owned : c.controller? = some k) (absent : c.body.probe? = none) :
    (s.readied id c).reading.onGround = false ∧
    (s.issued id).filterMap Command.force? = [] ∧
    ∃ c' k', (tick s).1.get? id = some c' ∧ c'.controller? = some k' ∧ c'.body.probe? = none ∧
      k'.onGround = false ∧ k'.clip = .idle ∧ ∀ a, c'.animation? = some a → a.clip = .idle := by
  obtain ⟨told, hears, -⟩ := Character.exists_told owned
  have unprobed := Parts.probe?_ready_of_none absent s.scene? id
  have lifted : (s.readied id c).reading.onGround = false := by
    change (c.body.ready s.scene? id).probe?.any (·.onGround) = _
    rw [unprobed, Option.any_none]
  obtain ⟨issued, c', after, owned', probed, shows⟩ := get?_tick_of_told there hears
  have idles := Controller.clip_advance_of_airborne told (s.world.clock.stepLength : Float32)
    (c.tuning?.getD .standard) lifted
  refine ⟨lifted, ?_, c', _, after, owned', probed.trans unprobed, ?_, idles, ?_⟩
  · rw [issued, Controller.commands_advance_elapsed, Controller.forces_frame, lifted]
    simp
  · exact (Controller.onGround_advance ..).trans lifted
  · intro a shown
    exact (shows a shown).trans idles

/-! ### Many steps -/

/-- A character as it is put into a run: under control, and with a new probe, an external force and
an empty ledger. -/
structure Fitted (c : Character Float32 (Parts Float32)) : Prop where
  controller : c.controller?.isSome
  probe : ∃ tolerance, c.body.probe? = some (.new tolerance)
  force : c.body.force?.isSome
  ledger : c.body.ledger? = some .empty

/-- From one state of a character to another its controller stays, and so do the parts of its body
that this is about. The ledger is left alone, and so is what the probe has found, unless it is a new
one; the rest may change in any way. -/
structure Retains (b c : Character Float32 (Parts Float32)) : Prop where
  controller : b.controller?.isSome → c.controller?.isSome
  probe : ∀ p, b.body.probe? = some p → ∃ p', c.body.probe? = some p' ∧
    ((p'.onGround = p.onGround ∧ p'.hit? = p.hit?) ∨ ∃ tolerance, p' = .new tolerance)
  force : b.body.force?.isSome → c.body.force?.isSome
  ledger : c.body.ledger? = b.body.ledger?

theorem Fitted.settled {c : Character Float32 (Parts Float32)} (fitted : Fitted c) :
    c.body.Settled := by
  obtain ⟨-, ⟨tolerance, probe⟩, force, ledger⟩ := fitted
  obtain ⟨external, force⟩ := Option.isSome_iff_exists.mp force
  refine ⟨⟨_, probe, rfl⟩, external, 0, ?_⟩
  unfold Parts.account?
  rw [force, ledger]
  rfl

theorem Retains.refl (c : Character Float32 (Parts Float32)) : Retains c c where
  controller := id
  probe p has := ⟨p, has, .inl ⟨rfl, rfl⟩⟩
  force := id
  ledger := rfl

theorem Retains.settled {b c : Character Float32 (Parts Float32)} (retains : Retains b c)
    (settled : b.body.Settled) : c.body.Settled := by
  obtain ⟨⟨p, had, coherent⟩, external, applied, account⟩ := settled
  obtain ⟨p', has, kept⟩ := retains.probe p had
  have forced : b.body.force?.isSome := by
    unfold Parts.account? at account
    obtain ⟨external, force, -⟩ := Option.bind_eq_some_iff.mp account
    rw [force]
    rfl
  obtain ⟨external', force⟩ := Option.isSome_iff_exists.mp (retains.force forced)
  refine ⟨⟨p', has, ?_⟩, external', applied, ?_⟩
  · rcases kept with ⟨contact, hit⟩ | ⟨tolerance, rfl⟩
    · rw [Probe.Coherent, contact, hit]
      exact coherent
    · rfl
  · unfold Parts.account?
    rw [force, retains.ledger, Parts.ledger?_of_account? account]
    rfl

/-- Before each step of a run, a character keeps what this is about. -/
def Keeps (s : Space Float32) (changes : Nat → Space Float32 → Space Float32) (id : Nat) : Prop :=
  ∀ n b, (s.after changes n).get? id = some b →
    ∃ c, (changes n (s.after changes n)).get? id = some c ∧ Retains b c

/-- Before each step of a run the character is under control, with a body that is settled. -/
theorem Keeps.exists_settled {s : Space Float32} {changes : Nat → Space Float32 → Space Float32}
    {id : Nat} {c₀ : Character Float32 (Parts Float32)} (keeps : s.Keeps changes id)
    (there : s.get? id = some c₀) (fitted : Fitted c₀) (n : Nat) :
    ∃ c k, (changes n (s.after changes n)).get? id = some c ∧ c.controller? = some k ∧
      c.body.Settled := by
  have between {n : Nat} {b : Character Float32 (Parts Float32)}
      (before : (s.after changes n).get? id = some b) (owned : b.controller?.isSome)
      (settled : b.body.Settled) :
      ∃ c k, (changes n (s.after changes n)).get? id = some c ∧ c.controller? = some k ∧
        c.body.Settled := by
    obtain ⟨c, found, retains⟩ := keeps n b before
    obtain ⟨k, owned⟩ := Option.isSome_iff_exists.mp (retains.controller owned)
    exact ⟨c, k, found, owned, retains.settled settled⟩
  induction n with
  | zero => exact between there fitted.controller fitted.settled
  | succ n ih =>
      obtain ⟨c, k, found, owned, settled⟩ := ih
      obtain ⟨c', -, k', -, -, after, -, -, owned', -, -, settled', -⟩ :=
        coherent_tick found owned settled
      refine between after ?_ settled'
      rw [owned']
      rfl

/-- After every step of a run, in which all else may change between the steps, the parts of a
character tell the same. A character that has no probe is in the air. -/
theorem coherent_after :
    (∀ (s : Space Float32) (changes : Nat → Space Float32 → Space Float32) (id : Nat)
        (c₀ : Character Float32 (Parts Float32)),
      s.get? id = some c₀ → Fitted c₀ → s.Keeps changes id → ∀ n,
      ∃ c k c' told k' probe ledger, (changes n (s.after changes n)).get? id = some c ∧
        c.controller? = some k ∧ (s.after changes (n + 1)).get? id = some c' ∧
        c.forward.1.controller? = some told ∧ told.direction = c.wanted k ∧
        c'.controller? = some k' ∧ c'.body.probe? = some probe ∧ c'.body.ledger? = some ledger ∧
        Coherence told (c.tuning?.getD .standard) k' probe ledger c'.animation?) ∧
    ∀ (s : Space Float32) (id : Nat) (c : Character Float32 (Parts Float32))
        (k : Controller Float32),
      s.get? id = some c → c.controller? = some k → c.body.probe? = none →
      (s.readied id c).reading.onGround = false ∧
      (s.issued id).filterMap Command.force? = [] ∧
      ∃ c' k', (tick s).1.get? id = some c' ∧ c'.controller? = some k' ∧
        c'.body.probe? = none ∧ k'.onGround = false ∧ k'.clip = .idle ∧
        ∀ a, c'.animation? = some a → a.clip = .idle := by
  constructor
  · intro s changes id c₀ there fitted keeps n
    obtain ⟨c, k, found, owned, settled⟩ := keeps.exists_settled there fitted n
    obtain ⟨c', told, k', probe, ledger, after, hears, direction, owned', probed, entered, -,
      coherence⟩ := coherent_tick found owned settled
    exact ⟨c, k, c', told, k', probe, ledger, found, owned, after, hears, direction, owned',
      probed, entered, coherence⟩
  · intro s id c k there owned absent
    exact airborne_tick_of_no_probe there owned absent

/-- A character that holds a direction, with everything that a physical character has. -/
def climber : Character Float32 (Parts Float32) :=
  { Character.ofBody
      { Parts.empty.equip .standard 70 with position? := some .up, shape? := some (.ball 1) } with
    controller? := some .fresh
    intent? := some ⟨.forward, false, none⟩
    animation? := some (.new .walk) }

/-- The same without a probe. -/
def drifter : Character Float32 (Parts Float32) :=
  { climber with body := { climber.body with probe? := none } }

/-- Both of them above a floor, with a scene that is brought up to date before each step. -/
def ledge : Space Float32 where
  world :=
    ⟨.ofList [climber, drifter, .ofBody { Parts.empty with shape? := some .halfSpace }], .unset⟩
  scene? := some .empty

theorem coherent_after_ledge :
    (∃ c' k' probe ledger, (ledge.after (fun _ => sync) 1).get? 0 = some c' ∧
      c'.controller? = some k' ∧ c'.body.probe? = some probe ∧ c'.body.ledger? = some ledger ∧
      k'.onGround = true ∧ probe.hit?.isSome = true ∧ ledger.applied.Alike ⟨0, 0, 500⟩) ∧
    ∃ c' k', (tick ledge).1.get? 1 = some c' ∧ c'.controller? = some k' ∧ k'.onGround = false := by
  constructor
  · have keeps : ledge.Keeps (fun _ => sync) 0 := fun n b before => ⟨b, before, .refl b⟩
    have fitted : Fitted climber := ⟨rfl, ⟨_, rfl⟩, rfl, rfl⟩
    obtain ⟨c, k, c', told, k', probe, ledger, found, -, after, hears, -, owned, probed, entered,
      coherence⟩ := coherent_after.1 ledge (fun _ => sync) 0 climber rfl fitted keeps 0
    obtain rfl : climber = c := Option.some.inj found
    obtain rfl : { Controller.fresh with direction := .forward } = told := Option.some.inj hears
    have grounded : probe.onGround = true := by
      have seen : ((ledge.after (fun _ => sync) 1).get? 0).any
          (·.body.probe?.any (·.onGround)) = true := by decide +kernel
      rw [after, Option.any_some, probed, Option.any_some] at seen
      exact seen
    have assists : (({ Controller.fresh with direction := .forward } : Controller Float32).assist
        .standard).getD 0 = ⟨0, 0, 500⟩ := by decide +kernel
    have applied := coherence.grounded grounded
    rw [show climber.tuning?.getD .standard = .standard from rfl, assists] at applied
    exact ⟨c', k', probe, ledger, after, owned, probed, entered,
      coherence.contact.trans grounded, coherence.hit.symm.trans grounded, applied⟩
  · obtain ⟨-, -, c', k', after, owned, -, lifted, -⟩ :=
      coherent_after.2 ledge 1 drifter .fresh rfl rfl rfl
    exact ⟨c', k', after, owned, lifted⟩

end Space

end Physics

end CharacterMotion
