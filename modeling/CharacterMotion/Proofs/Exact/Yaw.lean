import CharacterMotion.Proofs.Controller.Commit
import CharacterMotion.Proofs.Exact.Orientation
import CharacterMotion.Proofs.Physics.Phases
import CharacterMotion.Proofs.World.Wishes
import Mathlib.Algebra.Quaternion

/-!
The yaw of a heading and the orientation that a body is given by it, over the real numbers. The yaw
is an angle in the horizontal plane, from the forward direction toward the right; the orientation is
a quaternion with half of that angle. Turning a vector by the quaternion turns it by the whole angle
again (`rotate_aboutUp`), so that the forward direction is turned to where the heading faces, and
the right-hand direction to what it has on its right (`shows_aboutUp_yaw`). Nothing is lost on the
way, neither at a quarter turn nor at half a turn, where the yaw jumps by a whole one.

Every frame commits its yaw, whether time passes or not, and no other command touches the
orientation (`orientation?_take`); so a body with an orientation shows the heading of its controller
after every frame (`orientation_shows_heading`).
-/

namespace CharacterMotion

open scoped Quaternion

namespace Physics

/-! ### Orientations -/

namespace Quaternion

/-- The same as one of Hamilton's quaternions. -/
def hamilton (q : Quaternion ℝ) : ℍ[ℝ] := ⟨q.w, q.x, q.y, q.z⟩

/-- A vector as a quaternion without a real part. -/
def imaginary (v : Vec3 ℝ) : ℍ[ℝ] := ⟨0, v.x, v.y, v.z⟩

section

variable (q : Quaternion ℝ) (v : Vec3 ℝ)

@[simp] theorem re_hamilton : q.hamilton.re = q.w := rfl
@[simp] theorem imI_hamilton : q.hamilton.imI = q.x := rfl
@[simp] theorem imJ_hamilton : q.hamilton.imJ = q.y := rfl
@[simp] theorem imK_hamilton : q.hamilton.imK = q.z := rfl
@[simp] theorem re_imaginary : (imaginary v).re = 0 := rfl
@[simp] theorem imI_imaginary : (imaginary v).imI = v.x := rfl
@[simp] theorem imJ_imaginary : (imaginary v).imJ = v.y := rfl
@[simp] theorem imK_imaginary : (imaginary v).imK = v.z := rfl

end

/-- A vector turned by a quaternion of length one. -/
noncomputable def rotate (q : Quaternion ℝ) (v : Vec3 ℝ) : Vec3 ℝ :=
  let turned := q.hamilton * imaginary v * star q.hamilton
  ⟨turned.imI, turned.imJ, turned.imK⟩

/-- What an orientation makes of the forward and the right-hand direction is what a heading has
there. -/
structure Shows (q : Quaternion ℝ) (h : Heading ℝ) : Prop where
  unit : q.hamilton * star q.hamilton = 1
  facing : q.rotate .forward = h.facing
  right : q.rotate .right = h.right

theorem aboutUp_eq (angle : ℝ) :
    aboutUp angle = ⟨0, Real.sin (angle / 2), 0, Real.cos (angle / 2)⟩ := by
  have halved : angle * (0.5 : ℝ) = angle / 2 := by
    norm_num
    ring
  rw [← halved]
  rfl

/-- The rotation about the vertical axis turns the plane by the angle, from forward to the right. -/
theorem rotate_aboutUp (angle : ℝ) (v : Vec3 ℝ) :
    (aboutUp angle).rotate v =
      ⟨v.x * Real.cos angle + v.z * Real.sin angle, v.y,
        v.z * Real.cos angle - v.x * Real.sin angle⟩ := by
  obtain ⟨half, rfl⟩ : ∃ half, angle = 2 * half := ⟨angle / 2, by ring⟩
  have unit := Real.sin_sq_add_cos_sq half
  rw [Real.cos_two_mul', Real.sin_two_mul, aboutUp_eq, mul_div_cancel_left₀ half two_ne_zero,
    rotate]
  ext
  · simp
    ring
  · simp
    linear_combination v.y * unit
  · simp
    ring

theorem unit_aboutUp (angle : ℝ) :
    (aboutUp angle).hamilton * star (aboutUp angle).hamilton = 1 := by
  have unit := Real.sin_sq_add_cos_sq (angle / 2)
  rw [aboutUp_eq]
  ext
  · simp
    linear_combination unit
  · simp
  · simp
    ring
  · simp

end Quaternion

end Physics

/-! ### Angles of headings -/

namespace Heading.Oriented

variable {h h' : Heading ℝ}

theorem norm_eq_one (oriented : h.Oriented) : ‖(⟨h.facing.z, h.facing.x⟩ : ℂ)‖ = 1 := by
  have unit := oriented.unit
  rw [Vec3.length, Vec3.lengthSq_eq, oriented.level] at unit
  rw [Complex.norm_eq_sqrt_sq_add_sq, ← unit]
  dsimp only
  rw [Scalar.sqrt_real]
  congr 1
  ring

theorem cos_yaw (oriented : h.Oriented) : Real.cos h.yaw = h.facing.z := by
  have directed : (⟨h.facing.z, h.facing.x⟩ : ℂ) ≠ 0 := by
    rw [← norm_ne_zero_iff, oriented.norm_eq_one]
    exact one_ne_zero
  refine (Complex.cos_arg directed).trans ?_
  rw [oriented.norm_eq_one, div_one]

theorem sin_yaw (oriented : h.Oriented) : Real.sin h.yaw = h.facing.x := by
  refine (Complex.sin_arg _).trans ?_
  rw [oriented.norm_eq_one, div_one]

/-- The orientation by the yaw of a heading shows the heading. -/
theorem shows_aboutUp_yaw (oriented : h.Oriented) :
    (Physics.Quaternion.aboutUp h.yaw).Shows h where
  unit := Physics.Quaternion.unit_aboutUp h.yaw
  facing := by
    rw [Physics.Quaternion.rotate_aboutUp, oriented.cos_yaw, oriented.sin_yaw]
    ext <;> simp [Vec3.forward, oriented.level]
  right := by
    rw [Physics.Quaternion.rotate_aboutUp, oriented.cos_yaw, oriented.sin_yaw, oriented.right_eq,
      Vec3.up_cross oriented.level]
    ext <;> simp [Vec3.right]

/-- The yaw tells headings apart. -/
theorem facing_eq_of_yaw_eq (oriented : h.Oriented) (oriented' : h'.Oriented)
    (same : h.yaw = h'.yaw) : h.facing = h'.facing := by
  rw [← oriented.shows_aboutUp_yaw.facing, same, oriented'.shows_aboutUp_yaw.facing]

end Heading.Oriented

/-! ### Orientations of bodies -/

section

variable {α β : Type}

theorem Physics.Parts.orientation?_balance (p : Parts α)
    (rule : Vec3 α → Ledger α → Vec3 α × Ledger α) :
    (p.balance rule).orientation? = p.orientation? := by
  unfold balance
  split <;> rfl

variable [Scalar α]

/-- The orientation that a command leaves. -/
def Command.turn : Command α → Physics.Quaternion α → Physics.Quaternion α
  | .setYaw yaw, _ => .aboutUp yaw
  | _, q => q

namespace Physics.Parts

theorem orientation?_obey (p : Parts α) (command : Command α) :
    (p.obey command).orientation? = p.orientation?.map command.turn := by
  have kept : p.orientation? = p.orientation?.map id := Option.map_id_apply.symm
  cases command with
  | setYaw yaw => rfl
  | applyForce f =>
      refine Eq.trans ?_ kept
      change (p.push f).orientation? = p.orientation?
      unfold push
      split <;> rfl
  | _ => exact kept

theorem orientation?_foldl_obey (commands : List (Command α)) (p : Parts α) :
    (commands.foldl Body.obey p).orientation? =
      p.orientation?.map fun q => commands.foldl (fun q command => command.turn q) q := by
  induction commands generalizing p with
  | nil => exact Option.map_id_apply.symm
  | cons command commands ih =>
      rw [List.foldl_cons, ih]
      change (p.obey command).orientation?.map _ = _
      rw [orientation?_obey, Option.map_map]
      rfl

theorem orientation?_ready (p : Parts α) (scene? : Option (Scene α)) (owner : Nat) :
    (p.ready scene? owner).orientation? = p.orientation? := by
  have free := p.orientation?_balance Ledger.withdraw
  unfold ready
  cases scene? with
  | none => exact free
  | some scene =>
      refine Eq.trans ?_ free
      change ((p.balance Ledger.withdraw).sense scene owner).orientation? = _
      unfold sense
      split <;> rfl

end Physics.Parts

namespace Controller

/-- Of the commands of a frame only the first, the yaw, concerns the orientation. -/
theorem turn_commands_frame (c : Controller α) (dt : α) (t : Tuning α) (r : Reading α)
    (q : Physics.Quaternion α) :
    (c.frame dt t r).commands.foldl (fun q command => command.turn q) q =
      .aboutUp (c.frame dt t r).controller.heading.yaw := by
  rw [commands_frame_eq]
  split <;> split <;> cases t.assistForce <;> rfl

theorem turn_commands_advance (c : Controller α) (dt : α) (t : Tuning α) (r : Reading α)
    (q : Physics.Quaternion α) :
    (c.advance dt t r).commands.foldl (fun q command => command.turn q) q =
      .aboutUp (c.advance dt t r).controller.heading.yaw := by
  rw [commands_advance_elapsed, controller_advance]
  exact c.turn_commands_frame ..

end Controller

/-- After a turn a body with an orientation has the one by the yaw of its controller. -/
theorem Embodied.orientation?_take (e : Embodied α (Physics.Parts α))
    (t : Turn α (Physics.Parts α)) :
    (e.take t).body.orientation? = (t.change e.body).orientation?.map fun _ =>
      .aboutUp (e.take t).controller.heading.yaw := by
  obtain ⟨commands, controller, -⟩ := e.perform_eq_frame t
  have body : (e.take t).body = (e.perform t).commands.foldl Body.obey (t.change e.body) := rfl
  have heading : (e.take t).controller = (e.perform t).controller := rfl
  rw [body, heading, Physics.Parts.orientation?_foldl_obey, commands, controller]
  simp only [Controller.turn_commands_frame]

/-- A clip turns nothing. -/
theorem Command.foldl_turn_filter (commands : List (Command α)) (q : Physics.Quaternion α) :
    (commands.filter (!·.isClip)).foldl (fun q command => command.turn q) q =
      commands.foldl (fun q command => command.turn q) q := by
  induction commands generalizing q with
  | nil => rfl
  | cons command commands ih => cases command <;> exact ih _

/-- Passing an intent on gives the controller orders. -/
theorem Character.exists_orders {c : Character α β} {k : Controller α}
    (owned : c.controller? = some k) :
    ∃ orders, c.forward.1.controller? = some (k.takeAll orders).1 := by
  cases intended : c.intent? with
  | none =>
      refine ⟨[], ?_⟩
      unfold forward
      rw [intended]
      exact owned
  | some i =>
      rw [forward_of owned intended]
      exact ⟨ordersOf i, rfl⟩

/-- After a step of a space a body with an orientation has the one by the yaw of its controller. -/
theorem Physics.Space.orientation?_tick {s : Space α} {id : Nat} {c : Character α (Parts α)}
    {k : Controller α} (there : s.get? id = some c) (owned : c.controller? = some k) :
    ∃ c' orders dt t r, (tick s).1.get? id = some c' ∧
      c'.controller? = some ((k.takeAll orders).1.advance dt t r).controller ∧
      c'.body.orientation? = c.body.orientation?.map fun _ =>
        .aboutUp ((k.takeAll orders).1.advance dt t r).controller.heading.yaw := by
  obtain ⟨orders, told⟩ := (show (s.readied id c).controller? = some k from owned) |>
    Character.exists_orders
  obtain ⟨grounded, airborne, stepped⟩ :=
    Character.stepAlone_of_told told (s.world.clock.stepLength : α)
  have ticked := s.get?_tick id
  rw [there, Option.map_some, stepped] at ticked
  refine ⟨_, orders, _, _, _, ticked, rfl, ?_⟩
  dsimp only
  rw [Parts.orientation?_balance, Parts.orientation?_foldl_obey]
  simp only [Command.foldl_turn_filter, Controller.turn_commands_advance]
  rw [show (s.readied id c).body = c.body.ready s.scene? id from rfl, Parts.orientation?_ready]

end

/-! ### Runs -/

/-- A frame leaves the heading oriented, whatever it is told before. -/
theorem Heading.Oriented.frame {k : Controller ℝ} (oriented : k.heading.Oriented)
    (orders : List (Order ℝ)) (dt : ℝ) (t : Tuning ℝ) (r : Reading ℝ) :
    ((k.takeAll orders).1.frame dt t r).controller.heading.Oriented := by
  rw [Controller.heading_frame, Controller.heading_takeAll]
  split
  · exact oriented.follow ⟨_, dt, t.turnRate, t.turnModel, t.motionThreshold⟩
  · exact oriented

theorem Embodied.oriented_before {β : Type} [Body ℝ β] {e : Embodied ℝ β}
    (oriented : e.controller.heading.Oriented) (turns : Nat → Turn ℝ β) (n : Nat) :
    (e.before turns n).controller.heading.Oriented := by
  refine stateAt_keeps (fun e : Embodied ℝ β => e.controller.heading.Oriented) n.zero_le oriented ?_
  intro k _ _ before
  obtain ⟨-, controller, -⟩ := perform_eq_frame (stateAt take e turns k) (turns k)
  change (perform (stateAt take e turns k) (turns k)).controller.heading.Oriented
  rw [controller]
  exact before.frame ..

namespace Physics

/-- All headings that a character starts with are oriented. The orientation by the yaw of such a
heading turns the forward direction to where the heading faces and the right-hand direction to what
is on its right, so that no two directions have one yaw. In every run of a controller over a body,
which may change by itself in any way, an orientation of the body shows the heading of the
controller after each frame; and so it does for each character after every step of a space. -/
theorem orientation_shows_heading :
    (∀ direction? : Option (Vec3 ℝ), (Heading.start direction?).Oriented) ∧
    (∀ h : Heading ℝ, h.Oriented →
      Quaternion.aboutUp h.yaw = ⟨0, Real.sin (h.yaw / 2), 0, Real.cos (h.yaw / 2)⟩ ∧
      (Quaternion.aboutUp h.yaw).Shows h ∧
      ∀ h' : Heading ℝ, h'.Oriented → h'.yaw = h.yaw → h'.facing = h.facing) ∧
    (∀ (e : Embodied ℝ (Parts ℝ)) (turns : Nat → Turn ℝ (Parts ℝ)),
      e.controller.heading.Oriented → ∀ n,
      ((turns n).change (e.before turns n).body).orientation?.isSome →
      ∃ q, (e.before turns (n + 1)).body.orientation? = some q ∧
        q.Shows (e.before turns (n + 1)).controller.heading) ∧
    ∀ (s : Space ℝ) (id : Nat) (c : Character ℝ (Parts ℝ)) (k : Controller ℝ),
      s.get? id = some c → c.controller? = some k → k.heading.Oriented →
      c.body.orientation?.isSome →
      ∃ c' k' q, (Space.tick s).1.get? id = some c' ∧ c'.controller? = some k' ∧
        k'.heading.Oriented ∧ c'.body.orientation? = some q ∧ q.Shows k'.heading := by
  refine ⟨Heading.oriented_start, ?_, ?_, ?_⟩
  · intro h oriented
    refine ⟨Quaternion.aboutUp_eq h.yaw, oriented.shows_aboutUp_yaw, ?_⟩
    intro h' oriented' same
    exact oriented'.facing_eq_of_yaw_eq oriented same
  · intro e turns oriented n placed
    obtain ⟨q, placed⟩ := Option.isSome_iff_exists.mp placed
    have taken := (e.before turns n).orientation?_take (turns n)
    rw [placed] at taken
    exact ⟨_, taken, (Embodied.oriented_before oriented turns (n + 1)).shows_aboutUp_yaw⟩
  · intro s id c k there owned oriented placed
    obtain ⟨q, placed⟩ := Option.isSome_iff_exists.mp placed
    obtain ⟨c', orders, dt, t, r, after, owned', turned⟩ := Space.orientation?_tick there owned
    rw [placed] at turned
    have oriented' : ((k.takeAll orders).1.advance dt t r).controller.heading.Oriented := by
      rw [Controller.controller_advance]
      exact oriented.frame ..
    exact ⟨c', _, _, after, owned', oriented', turned, oriented'.shows_aboutUp_yaw⟩

/-- The heading of a half turn, where the yaw is about to jump. -/
def backward : Heading ℝ := ⟨⟨0, 0, -1⟩, ⟨-1, 0, 0⟩⟩

theorem oriented_backward : backward.Oriented where
  level := rfl
  unit := Vec3.length_of_sq zero_le_one (by norm_num [backward])
  right_eq := by
    rw [Vec3.up_cross rfl]
    ext <;> norm_num [backward]

/-- A character that faces backward and is told to go to the left. -/
noncomputable def strayer : Character ℝ (Parts ℝ) :=
  { Character.ofBody { Parts.empty with orientation? := some .identity } with
    controller? := some { Controller.fresh with heading := backward }
    intent? := some ⟨⟨-1, 0, 0⟩, false, none⟩ }

theorem orientation_shows_heading_backward :
    (backward.yaw = Real.pi ∧ (Quaternion.aboutUp Real.pi).Shows backward ∧
      ∀ h' : Heading ℝ, h'.Oriented → h'.yaw = Real.pi → h'.facing = ⟨0, 0, -1⟩) ∧
    (let e : Embodied ℝ (Parts ℝ) := ⟨{ Controller.fresh with heading := backward }, strayer.body⟩
      let left (_ : Nat) : Turn ℝ (Parts ℝ) := ⟨id, [.direction ⟨-1, 0, 0⟩], 0.25, .standard⟩
      ∃ q, (e.before left 2).body.orientation? = some q ∧
        q.Shows (e.before left 2).controller.heading) ∧
    let s : Space ℝ := ⟨⟨.ofList [strayer], .unset⟩, none⟩
    ∃ c' k' q, (Space.tick s).1.get? 0 = some c' ∧ c'.controller? = some k' ∧
      c'.body.orientation? = some q ∧ q.Shows k'.heading := by
  obtain ⟨-, shows, run, step⟩ := orientation_shows_heading
  refine ⟨?_, ?_, ?_⟩
  · have half_turn : backward.yaw = Real.pi := by
      change Complex.arg ⟨-1, 0⟩ = Real.pi
      rw [← Complex.arg_neg_one]
      congr 1
      apply Complex.ext <;> simp
    obtain ⟨-, turned, only⟩ := shows backward oriented_backward
    rw [half_turn] at turned only
    exact ⟨half_turn, turned, only⟩
  · intro e left
    obtain ⟨q, placed, -⟩ := run e left oriented_backward 0 rfl
    refine run e left oriented_backward 1 ?_
    change (e.before left 1).body.orientation?.isSome = true
    rw [placed]
    rfl
  · intro s
    obtain ⟨c', k', q, after, owned, -, turned, agrees⟩ :=
      step s 0 strayer _ rfl rfl oriented_backward rfl
    exact ⟨c', k', q, after, owned, turned, agrees⟩

end Physics

end CharacterMotion
