import CharacterMotion.Proofs.Controller.Run

/-!
The two sides of a velocity, its height and its level part, and which of them each stage of a frame
looks at and changes. Steering looks at the level part alone and changes nothing else; falling and
launching look at the height alone. A turn of the heading goes by the level part.

Orders have two sides as well: the gait and the direction that they leave, and whether they ask for
a jump (`takeAll_eq_fold`).
-/

namespace CharacterMotion

variable {α : Type}

/-! ### Orders -/

namespace Order

def isJump : Order α → Bool
  | .jump => true
  | _ => false

/-- The gait that an order changes to. -/
def gait? : Order α → Option Gait
  | .gait g => some g
  | .gaitIndex i => some (.ofIndex i)
  | _ => none

def direction? : Order α → Option (Vec3 α)
  | .direction v => some v
  | _ => none

/-- The last gait that orders change to, starting from a gait. -/
def lastGait (os : List (Order α)) (g : Gait) : Gait := os.foldl (fun g o => o.gait?.getD g) g

def lastDirection (os : List (Order α)) (v : Vec3 α) : Vec3 α :=
  os.foldl (fun v o => o.direction?.getD v) v

/-- An order for a jump changes neither gait nor direction. -/
theorem lastGait_filter (os : List (Order α)) (g : Gait) :
    lastGait (os.filter (!·.isJump)) g = lastGait os g := by
  unfold lastGait
  rw [List.foldl_filter]
  congr 1
  funext g o
  cases o <;> rfl

theorem lastDirection_filter (os : List (Order α)) (v : Vec3 α) :
    lastDirection (os.filter (!·.isJump)) v = lastDirection os v := by
  unfold lastDirection
  rw [List.foldl_filter]
  congr 1
  funext v o
  cases o <;> rfl

end Order

namespace Controller

theorem fst_changeGait (c : Controller α) (g : Gait) :
    (c.changeGait g).1 = { c with gait := g } := by
  unfold changeGait
  split
  · rename_i same
    rw [← same]
  · rfl

theorem take_eq_of (c : Controller α) (o : Order α) :
    (c.take o).1 = { c with
      gait := o.gait?.getD c.gait
      direction := o.direction?.getD c.direction
      jumpRequested := c.jumpRequested || o.isJump } := by
  have same : (c.jumpRequested || false) = c.jumpRequested := Bool.or_false _
  cases o with
  | gait g =>
      simp only [Order.isJump, same]
      exact c.fst_changeGait g
  | gaitIndex i =>
      simp only [Order.isJump, same]
      exact (c.take_gaitIndex i).trans (c.fst_changeGait _)
  | direction v =>
      simp only [Order.isJump, same]
      rfl
  | jump => simp [take, Order.isJump, Order.gait?, Order.direction?]

/-- What orders leave in a controller. -/
theorem takeAll_eq_fold (c : Controller α) (os : List (Order α)) :
    (c.takeAll os).1 = { c with
      gait := Order.lastGait os c.gait
      direction := Order.lastDirection os c.direction
      jumpRequested := c.jumpRequested || os.any Order.isJump } := by
  induction os generalizing c with
  | nil => simp [takeAll, Order.lastGait, Order.lastDirection]
  | cons o os ih =>
      change ((c.take o).1.takeAll os).1 = _
      rw [ih, take_eq_of]
      simp [Order.lastGait, Order.lastDirection, Bool.or_assoc]

/-- The notices of orders depend on the gait alone. -/
theorem snd_takeAll_congr {c c' : Controller α} (same : c'.gait = c.gait) (os : List (Order α)) :
    (c'.takeAll os).2 = (c.takeAll os).2 := by
  induction os generalizing c c' with
  | nil => rfl
  | cons o os ih =>
      have first : (c'.take o).2 = (c.take o).2 := by
        cases o with
        | gait g =>
            simp only [take, changeGait, same]
            split <;> rfl
        | gaitIndex i =>
            simp only [take, changeGait, same]
            cases Gait.ofIndex? i <;> dsimp only <;> split <;> rfl
        | direction v => rfl
        | jump => rfl
      have gait : (c'.take o).1.gait = (c.take o).1.gait := by
        rw [take_eq_of, take_eq_of]
        dsimp only
        rw [same]
      change (c'.take o).2 ++ ((c'.take o).1.takeAll os).2 = _
      rw [first, ih gait]
      rfl

end Controller

variable [Scalar α]

/-! ### Steering and turning -/

namespace Steering

theorem flat_push (v d : Vec3 α) : (push v d).flat = ⟨v.flat.x + d.x, 0, v.flat.z + d.z⟩ := rfl

theorem y_fall (t : Tuning α) (dt : α) (onGround : Bool) (v : Vec3 α) :
    (fall t dt onGround v).y =
      if onGround then if v.y < 0 then 0 else v.y else v.y - t.gravity * dt := by
  unfold fall
  split
  · split <;> rfl
  · rfl

theorem y_pursue (acceleration speed dt : α) (direction v : Vec3 α) :
    (pursue acceleration speed dt direction v).y = v.y := rfl

theorem y_brake (t : Tuning α) (dt : α) (onGround : Bool) (v : Vec3 α) :
    (brake t dt onGround v).y = v.y := by
  unfold brake
  dsimp only
  split
  · rfl
  · split <;> rfl

variable {v v' : Vec3 α}

theorem flat_pursue_congr (level : v'.flat = v.flat) (acceleration speed dt : α)
    (direction : Vec3 α) :
    (pursue acceleration speed dt direction v').flat =
      (pursue acceleration speed dt direction v).flat := by
  unfold pursue
  rw [flat_push, flat_push, level]

theorem flat_brake_congr (level : v'.flat = v.flat) (t : Tuning α) (dt : α) (onGround : Bool) :
    (brake t dt onGround v').flat = (brake t dt onGround v).flat := by
  unfold brake
  dsimp only
  rw [level]
  split
  · exact level
  · split
    · rfl
    · rw [flat_push, flat_push, level]

end Steering

theorem Heading.turn_congr {v v' : Vec3 α} (level : v'.flat = v.flat) (h : Heading α) (dt rate : α)
    (model : TurnModel) (threshold : α) :
    h.turn v' dt rate model threshold = h.turn v dt rate model threshold := by
  unfold turn turn?
  rw [level]

namespace Controller

theorem y_steered (c : Controller α) (dt : α) (t : Tuning α) (onGround : Bool)
    (input : Option (Vec3 α)) (v : Vec3 α) : (c.steered dt t onGround input v).y = v.y := by
  cases input with
  | some direction => exact Steering.y_pursue ..
  | none => exact Steering.y_brake ..

theorem flat_steered_congr {v v' : Vec3 α} (level : v'.flat = v.flat) (c : Controller α) (dt : α)
    (t : Tuning α) (onGround : Bool) (input : Option (Vec3 α)) :
    (c.steered dt t onGround input v').flat = (c.steered dt t onGround input v).flat := by
  cases input with
  | some direction => exact Steering.flat_pursue_congr level ..
  | none => exact Steering.flat_brake_congr level ..

/-! ### The height of the velocity -/

theorem y_lifted (c : Controller α) (dt : α) (t : Tuning α) (r : Reading α) :
    (c.lifted dt t r).y = if (c.gateStep dt t r).2.launched then t.jumpSpeed
      else ((c.observe r).fallen dt t r).y := by
  unfold lifted
  dsimp only
  split <;> rfl

/-- The vertical velocity after a frame is decided before steering. -/
theorem y_frame (c : Controller α) (dt : α) (t : Tuning α) (r : Reading α) :
    (c.frame dt t r).controller.velocity.y =
      if 0 < dt then (c.lifted dt t r).y else (c.observe r).velocity.y := by
  rw [velocity_frame]
  split
  · exact y_steered ..
  · rfl

end Controller

end CharacterMotion
