import CharacterMotion.Proofs.Gate.Readiness
import CharacterMotion.Proofs.World.Markers
import CharacterMotion.Proofs.World.StepLength
import CharacterMotion.Proofs.World.Wishes

/-!
Requests through the steps of a world. A character with an intent and a controller is served by
every step (`Service`): whatever has happened to the intent since the step before, a jump is passed
on if a request for it stands, and once; the gait of the frame is the one that is asked for, or else
the one that the controller has; the direction of the frame is the held one unless that is zero.
After the step nothing is left of the requests, and the direction is held as before. So nothing is
delivered twice (`requests_delivered`).

Nor is anything lost to an empty frame. The step of a world is always a length in which time passes
(`Clock.passes_stepLength`), so that a jump that is passed on launches there and then, unless there
is no ground or an earlier jump has still to land.
-/

namespace CharacterMotion

variable {α β : Type}

namespace Controller

theorem takeAll_of_idle {k : Controller α} [Scalar α] (idle : k.forget = k)
    (orders : List (Order α)) :
    (k.takeAll orders).1 = { k with
      gait := Order.lastGait orders k.gait
      direction := Order.lastDirection orders 0
      jumpRequested := orders.any Order.isJump } := by
  have direction : k.direction = 0 := (congrArg Controller.direction idle).symm
  have unrequested : k.jumpRequested = false := (congrArg Controller.jumpRequested idle).symm
  rw [takeAll_eq_fold, direction, unrequested, Bool.false_or]

variable [Scalar α]

theorem forget_advance (c : Controller α) (dt : α) (t : Tuning α) (r : Reading α) :
    (c.advance dt t r).controller.forget = (c.advance dt t r).controller := by
  rw [controller_advance]
  rfl

theorem gait_advance (c : Controller α) (dt : α) (t : Tuning α) (r : Reading α) :
    (c.advance dt t r).controller.gait = c.gait := by
  rw [controller_advance, gait_frame]

/-- The gate of a frame after its landing, and before a launch. -/
def landedGate (c : Controller α) (dt : α) (t : Tuning α) (r : Reading α) : JumpGate α :=
  c.gate.settle (c.gateInput dt t r) t.jumpCooldown t.landingRule

theorem readyOrOutstanding_advance {c : Controller α} (ready : c.gate.ReadyOrOutstanding) (dt : α)
    (t : Tuning α) (r : Reading α) : (c.advance dt t r).controller.gate.ReadyOrOutstanding := by
  rw [controller_advance, gate_frame]
  split
  · exact ready.step _ _ _
  · exact ready

/-- A jump that is wanted of a frame in which time passes launches, on the ground and with no
earlier one still to land. -/
theorem launches_advance_of_requested {c : Controller α} (ready : c.gate.ReadyOrOutstanding)
    (requested : c.jumpRequested = true) {dt : α} (valid : isTimestep dt = true) (passes : 0 < dt)
    (t : Tuning α) (r : Reading α) :
    (c.advance dt t r).launches = true ↔
      r.onGround = true ∧ (c.landedGate dt t r).outstanding = false := by
  have length : elapsed dt = dt := if_pos valid
  rw [launches_advance, length, launches_frame, decide_eq_true passes, Bool.true_and, gateStep,
    ready.launched_step, landedGate, JumpGate.outstanding_settle]
  simp only [gateInput, requested, Bool.true_and, Bool.and_eq_true, Bool.not_eq_true']

end Controller

namespace Character

/-- From one state to another, the intent of a character undergoes deeds and its controller takes
orders. Everything else may change in any way. -/
structure Undergoes [Scalar α] (deeds : List (Intent.Deed α)) (orders : List (Order α))
    (b c : Character α β) : Prop where
  intent? : c.intent? = b.intent?.map (·.undergoAll deeds)
  controller? : c.controller? = b.controller?.map fun k => (k.takeAll orders).1

def undergo [Scalar α] (c : Character α β) (deeds : List (Intent.Deed α))
    (orders : List (Order α)) : Character α β :=
  { c with
    intent? := c.intent?.map (·.undergoAll deeds)
    controller? := c.controller?.map fun k => (k.takeAll orders).1 }

theorem undergoes_undergo [Scalar α] (c : Character α β) (deeds : List (Intent.Deed α))
    (orders : List (Order α)) : c.Undergoes deeds orders (c.undergo deeds orders) where
  intent? := rfl
  controller? := rfl

/-- A character between two steps, before anything happens to it: a direction is held and nothing is
requested, neither of the intent nor of the controller `k`. What is requested at the start of a run
counts as requested before the first step. -/
structure Attended [Scalar α] (held : Vec3 α) (k : Controller α) (b : Character α β) : Prop where
  intended : b.intent? = some ⟨held, false, none⟩
  owned : b.controller? = some k
  idle : k.forget = k
  ready : k.gate.ReadyOrOutstanding

variable [Scalar α] [Body α β]

/-- What a controller hears of an intent. After the step before, the direction `held` was held and
the controller was `k`; since then the intent has undergone `deeds`, to become `i`, and the
controller has taken `orders`. When it has been told the intent as well, it is `heard`. -/
structure Hearing (deeds : List (Intent.Deed α)) (orders : List (Order α)) (held : Vec3 α)
    (k : Controller α) (i : Intent α) (heard : Controller α) : Prop where
  /-- A jump is passed on if a request for one stands. -/
  jump : i.jump = true ↔ Stands Intent.Deed.withdrawsJump deeds .jump
  /-- However often it has been requested, it is passed on once. -/
  jump_once : (ordersOf i).countP Order.isJump = i.jump.toNat
  jumpRequested : heard.jumpRequested = (orders.any Order.isJump || i.jump)
  /-- A gait that stands requested is the gait of the frame. -/
  gait : ∀ g, Stands Intent.Deed.withdrawsGait deeds (.gait g) → heard.gait = g
  /-- Without a request the gait is the one from before, but for orders to the controller. -/
  gait_kept : (∀ g, ¬ Stands Intent.Deed.withdrawsGait deeds (.gait g)) →
    heard.gait = Order.lastGait orders k.gait
  direction_held : i.direction = deeds.foldl Intent.Deed.redirect held
  /-- A held direction of zero gives way to the last one that the controller has been given. -/
  direction : heard.direction =
    if i.direction.isZero then Order.lastDirection orders 0 else i.direction
  gate : heard.gate = k.gate

omit [Body α β] in
theorem Attended.hearing {held : Vec3 α} {k : Controller α} {b : Character α β}
    (attended : b.Attended held k) (deeds : List (Intent.Deed α)) (orders : List (Order α)) :
    let i := (⟨held, false, none⟩ : Intent α).undergoAll deeds
    Hearing deeds orders held k i ((k.takeAll orders).1.takeAll (ordersOf i)).1 := by
  intro i
  rw [Controller.takeAll_ordersOf, Controller.takeAll_of_idle attended.idle]
  have wanted (g : Gait) : i.gait? = some g ↔ Stands Intent.Deed.withdrawsGait deeds (.gait g) :=
    Intent.gait?_undergoAll rfl deeds g
  constructor
  case jump => exact Intent.jump_undergoAll rfl deeds
  case jump_once => exact countP_isJump_ordersOf i
  case jumpRequested => rfl
  case gait =>
    intro g stands
    dsimp only
    rw [(wanted g).mpr stands, Option.getD_some]
  case gait_kept =>
    intro none_stands
    have unwanted : i.gait? = none := Option.eq_none_iff_forall_ne_some.mpr fun g asked =>
      none_stands g ((wanted g).mp asked)
    dsimp only
    rw [unwanted, Option.getD_none]
  case direction_held => exact Intent.direction_undergoAll ..
  case direction => rfl
  case gate => rfl

/-- The frame of a step, for a controller that has been told the intent. -/
def frameOf (dt : α) (c : Character α β) (heard : Controller α) : Frame α :=
  heard.advance dt (c.tuning?.getD .standard) c.reading

/-- A step of the length `dt` serves a character with the intent `i` that stands as `c` before it
and as `c'` after it: it runs the frame of the controller `heard`, which has been told the intent.
-/
structure Service (dt : α) (i : Intent α) (heard : Controller α) (c c' : Character α β) : Prop where
  intended : c.intent? = some i
  told : c.forward.1.controller? = some heard
  body : c'.body = ((c.frameOf dt heard).commands.filter (!·.isClip)).foldl Body.obey c.body
  /-- Nothing requested is left for the next step, and the direction is held on. -/
  attended : c'.Attended i.direction (c.frameOf dt heard).controller
  gait : (c.frameOf dt heard).controller.gait = heard.gait

/-- A step serves whom it finds attended to. -/
theorem Attended.service {held : Vec3 α} {k : Controller α} {b c : Character α β}
    (attended : b.Attended held k) {deeds : List (Intent.Deed α)} {orders : List (Order α)}
    (undergone : b.Undergoes deeds orders c) (dt : α) :
    let i := (⟨held, false, none⟩ : Intent α).undergoAll deeds
    Service dt i ((k.takeAll orders).1.takeAll (ordersOf i)).1 c (c.stepAlone dt) := by
  intro i
  have intended : c.intent? = some i := by
    rw [undergone.intent?, attended.intended]
    rfl
  have owned : c.controller? = some (k.takeAll orders).1 := by
    rw [undergone.controller?, attended.owned]
    rfl
  have forwarded := forward_of owned intended
  have told : c.forward.1.controller? = some ((k.takeAll orders).1.takeAll (ordersOf i)).1 := by
    rw [forwarded]
  obtain ⟨grounded, airborne, stepped⟩ := stepAlone_of_told told dt
  rw [forwarded] at stepped
  constructor
  case intended => exact intended
  case told => exact told
  case body =>
    rw [stepped]
    rfl
  case attended =>
    constructor
    case intended => rw [stepped]
    case owned =>
      rw [stepped]
      rfl
    case idle => exact Controller.forget_advance ..
    case ready =>
      have ready : ((k.takeAll orders).1.takeAll (ordersOf i)).1.gate.ReadyOrOutstanding := by
        rw [Controller.gate_takeAll, Controller.gate_takeAll]
        exact attended.ready
      exact Controller.readyOrOutstanding_advance ready _ _ _
  case gait => exact Controller.gait_advance ..

end Character

namespace World

variable [Scalar α] [Body α β]

/-- Before each step of a run the intent of a character undergoes deeds and its controller takes
orders. What else happens to the world is left open. -/
def Attends (w : World α β) (changes : Nat → World α β → World α β) (id : Nat)
    (deeds : Nat → List (Intent.Deed α)) (orders : Nat → List (Order α)) : Prop :=
  ∀ n b, (w.after changes n).get? id = some b →
    ∃ c, (changes n (w.after changes n)).get? id = some c ∧ b.Undergoes (deeds n) (orders n) c

/-- The direction that is held after the first `n` steps: what is written to it counts, and steps do
not. -/
def heldAfter (deeds : Nat → List (Intent.Deed α)) (held : Vec3 α) (n : Nat) : Vec3 α :=
  ((List.range n).flatMap deeds).foldl Intent.Deed.redirect held

theorem heldAfter_succ (deeds : Nat → List (Intent.Deed α)) (held : Vec3 α) (n : Nat) :
    heldAfter deeds held (n + 1) =
      (deeds n).foldl Intent.Deed.redirect (heldAfter deeds held n) := by
  simp [heldAfter, List.range_succ]

section

variable {w : World α β} {id : Nat} {b₀ : Character α β} {held : Vec3 α} {k₀ : Controller α}
  {changes : Nat → World α β → World α β} {deeds : Nat → List (Intent.Deed α)}
  {orders : Nat → List (Order α)}

/-- One step of a run. -/
theorem Attends.step (attends : w.Attends changes id deeds orders) {n : Nat} {b : Character α β}
    {held : Vec3 α} {k : Controller α} (before : (w.after changes n).get? id = some b)
    (attended : b.Attended held k) :
    ∃ c c' i heard, (changes n (w.after changes n)).get? id = some c ∧
      (w.after changes (n + 1)).get? id = some c' ∧
      Character.Hearing (deeds n) (orders n) held k i heard ∧
      Character.Service ((changes n (w.after changes n)).clock.stepLength : α) i heard c c' := by
  obtain ⟨c, there, undergone⟩ := attends n b before
  refine ⟨c, _, _, _, there, ?_, attended.hearing (deeds n) (orders n),
    attended.service undergone _⟩
  have stepped : w.after changes (n + 1) = (tick (changes n (w.after changes n))).1 := rfl
  rw [stepped, get?_tick, there, Option.map_some]

theorem Attends.exists_attended (attends : w.Attends changes id deeds orders)
    (there : w.get? id = some b₀) (attended : b₀.Attended held k₀) (n : Nat) :
    ∃ b k, (w.after changes n).get? id = some b ∧ b.Attended (heldAfter deeds held n) k := by
  induction n with
  | zero => exact ⟨b₀, k₀, there, attended⟩
  | succ n ih =>
      obtain ⟨b, k, before, attended⟩ := ih
      obtain ⟨c, c', i, heard, -, after, hearing, service⟩ := attends.step before attended
      have attended' := service.attended
      rw [hearing.direction_held, ← heldAfter_succ] at attended'
      exact ⟨c', _, after, attended'⟩

end

/-- In every step of a run, a character with an intent and a controller gets what it has asked for,
once. Time passes in the step, so that a jump that is passed on launches unless there is no ground
or an earlier jump has still to land. -/
theorem requests_delivered {w : World Float32 β} [Body Float32 β] {id : Nat}
    {b₀ : Character Float32 β} {held : Vec3 Float32} {k₀ : Controller Float32}
    (there : w.get? id = some b₀) (attended : b₀.Attended held k₀)
    {changes : Nat → World Float32 β → World Float32 β}
    {deeds : Nat → List (Intent.Deed Float32)} {orders : Nat → List (Order Float32)}
    (attends : w.Attends changes id deeds orders) (n : Nat) :
    let dt : Float32 := (changes n (w.after changes n)).clock.stepLength
    ∃ b k c c' i heard, (w.after changes n).get? id = some b ∧
      b.Attended (heldAfter deeds held n) k ∧
      (changes n (w.after changes n)).get? id = some c ∧
      (w.after changes (n + 1)).get? id = some c' ∧
      Character.Hearing (deeds n) (orders n) (heldAfter deeds held n) k i heard ∧
      Character.Service dt i heard c c' ∧
      0 < dt ∧ Scalar.isFinite dt = true ∧
      (i.jump = true → ((c.frameOf dt heard).launches = true ↔
        c.reading.onGround = true ∧
          (heard.landedGate dt (c.tuning?.getD .standard) c.reading).outstanding = false)) := by
  intro dt
  obtain ⟨b, k, before, attended⟩ := attends.exists_attended there attended n
  obtain ⟨c, c', i, heard, between, after, hearing, service⟩ := attends.step before attended
  obtain ⟨passes, finite⟩ := (changes n (w.after changes n)).clock.passes_stepLength
  refine ⟨b, k, c, c', i, heard, before, attended, between, after, hearing, service, passes, finite,
    fun forwarded => ?_⟩
  have ready : heard.gate.ReadyOrOutstanding := by
    rw [hearing.gate]
    exact attended.ready
  have requested : heard.jumpRequested = true := by
    rw [hearing.jumpRequested, forwarded, Bool.or_true]
  exact Controller.launches_advance_of_requested ready requested (Clock.isTimestep_stepLength _)
    passes _ _

/-- A character on the ground that nothing has been asked of yet. -/
def waiting : Character Float32 (Puppet Float32) :=
  { Character.ofBody ⟨true, none, []⟩ with controller? := some .fresh, intent? := some .empty }

/-- Two requests for a jump, one for a gait, and a direction to hold. -/
def haste : List (Intent.Deed Float32) :=
  [.jump, .jump, .gait .sprint, .write (.setDirection .forward)]

theorem requests_delivered_haste :
    let w : World Float32 (Puppet Float32) := ⟨.ofList [bystander, waiting], .unset⟩
    let hurry (_ : Nat) (w : World Float32 (Puppet Float32)) :=
      w.modify 1 (·.undergo haste [.direction .right])
    ∃ c c' heard, (hurry 0 w).get? 1 = some c ∧ (w.after hurry 1).get? 1 = some c' ∧
      heard.gait = .sprint ∧ heard.direction = .forward ∧
      (c.frameOf w.clock.stepLength heard).launches = true ∧
      c'.intent? = some ⟨.forward, false, none⟩ := by
  intro w hurry
  have attends : w.Attends hurry 1 (fun _ => haste) (fun _ => [.direction .right]) := by
    intro n b there
    refine ⟨b.undergo haste [.direction .right], ?_, b.undergoes_undergo _ _⟩
    have changed := get?_modify (w.after hurry n) 1 1 (·.undergo haste [.direction .right])
    rwa [if_pos rfl, there, Option.map_some] at changed
  have attended : waiting.Attended 0 .fresh := ⟨rfl, rfl, rfl, fun unready => nomatch unready⟩
  obtain ⟨b, k, c, c', i, heard, before, found, between, after, hearing, service, -, -, launches⟩ :=
    requests_delivered (show w.get? 1 = some waiting from rfl) attended attends 0
  obtain rfl : waiting = b := Option.some.inj before
  obtain rfl : .fresh = k := Option.some.inj found.owned
  obtain rfl : waiting.undergo haste [.direction .right] = c := Option.some.inj between
  have held : i.direction = .forward := hearing.direction_held
  have wanted : i.jump = true :=
    hearing.jump.mpr ⟨[.jump], [.gait .sprint, .write (.setDirection .forward)], rfl, by decide⟩
  have sprints : Stands Intent.Deed.withdrawsGait haste (.gait .sprint) :=
    ⟨[.jump, .jump], [.write (.setDirection .forward)], rfl, by decide⟩
  have forward : (.forward : Vec3 Float32).isZero = false := by decide +kernel
  refine ⟨_, c', heard, between, after, hearing.gait _ sprints, ?_,
    (launches wanted).mpr ⟨rfl, ?_⟩, ?_⟩
  · rw [hearing.direction, held, forward]
    rfl
  · rw [Controller.landedGate, JumpGate.outstanding_settle, hearing.gate]
    rfl
  · rw [service.attended.intended, held]

end World

end CharacterMotion
