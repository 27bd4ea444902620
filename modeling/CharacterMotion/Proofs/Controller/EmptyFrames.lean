import CharacterMotion.Proofs.Binary32.Basic
import CharacterMotion.Proofs.Controller.Components

/-!
Frames in which no time passes, and what they leave behind.

Such a frame changes of a controller nothing but its memory of the last frame: the velocity and the
contact that it read, a clip that its own tuning chose, and whether there was input
(`advance_of_timeless`). The next frame reads velocity and contact anew and chooses its own clip, so
that only the forgotten input shows in it, in one more notice of a start (`perform_remembering`).
-/

namespace CharacterMotion

variable {α : Type}

/-! ### One empty frame -/

/-- Lengths of frames in which no time passes: zero, less than zero, and what is no finite number. -/
def Timeless (dt : Float32) : Prop := dt ≤ 0 ∨ Scalar.isFinite dt = false

theorem Timeless.not_pos_elapsed {dt : Float32} (timeless : Timeless dt) : ¬ 0 < elapsed dt := by
  unfold elapsed
  split
  · rename_i right
    have finite : Scalar.isFinite dt = true := by
      simp only [isTimestep, Bool.and_eq_true] at right
      exact right.1
    rcases timeless with nonpos | infinite
    · exact (Binary32.not_pos_iff_of_isFinite finite).mpr nonpos
    · rw [finite] at infinite
      cases infinite
  · exact Binary32.not_pos_zero

/-- The same frame, but for a start that may be told of once more. -/
def Frame.retold [Scalar α] (f : Frame α) (t : Tuning α) (again : Bool) : Frame α :=
  { f with
    notices := f.notices ++
      if again && f.controller.wasMoving then
        [.startedMoving f.controller.gait (f.controller.targetSpeed t)]
      else [] }

namespace Frame

variable [Scalar α] (f : Frame α) (t : Tuning α) (again : Bool)

end Frame

namespace Controller

/-- The same controller after another last frame, which had the same orders before it. -/
def remembering (c : Controller α) (velocity : Vec3 α) (onGround : Bool) (clip : Clip)
    (wasMoving : Bool) : Controller α :=
  { c with velocity, onGround, clip, wasMoving }

/-- Orders go by nothing that is remembered. -/
theorem takeAll_remembering (c : Controller α) (velocity : Vec3 α) (onGround : Bool) (clip : Clip)
    (wasMoving : Bool) (os : List (Order α)) :
    (c.remembering velocity onGround clip wasMoving).takeAll os =
      ((c.takeAll os).1.remembering velocity onGround clip wasMoving, (c.takeAll os).2) := by
  have gait : (c.remembering velocity onGround clip wasMoving).gait = c.gait := rfl
  apply Prod.ext
  · rw [takeAll_eq_fold, takeAll_eq_fold]
    rfl
  · exact snd_takeAll_congr gait os

variable [Scalar α]

theorem frame_of_not_pos {dt : α} (still : ¬ 0 < dt) (c : Controller α) (t : Tuning α)
    (r : Reading α) :
    c.frame dt t r =
      let input := input? t c.direction
      let shown :=
        { c.observe r with
          clip := Clip.select t r.onGround (c.observe r).speed, wasMoving := input.isSome }
      { controller := shown.forget
        commands := shown.commands t r false none
        notices := shown.notices t .quiet (input.isSome && !c.wasMoving) } := by
  have moved : c.moved dt t r = (c.observe r, .quiet) := if_neg still
  rw [frame_eq, moved]
  dsimp only
  rw [if_neg fun both => still both.1]
  rfl

/-- Without orders an empty frame changes nothing but the memory of the last frame. -/
theorem frame_of_untold {dt : α} (still : ¬ 0 < dt) {c : Controller α} (untold : c.forget = c)
    (t : Tuning α) (r : Reading α) :
    (c.frame dt t r).controller =
      c.remembering (r.velocity?.getD c.velocity) r.onGround
        (Clip.select t r.onGround (c.observe r).speed) (input? t c.direction).isSome := by
  rw [frame_of_not_pos still]
  change c.forget.remembering _ _ _ _ = _
  rw [untold]
  rfl

theorem forget_remembering (c : Controller α) (velocity : Vec3 α) (onGround : Bool) (clip : Clip)
    (wasMoving : Bool) :
    (c.remembering velocity onGround clip wasMoving).forget =
      c.forget.remembering velocity onGround clip wasMoving := rfl

theorem forget_perform (c : Controller α) (q : Cue α) :
    (c.perform q).controller.forget = (c.perform q).controller := by
  rw [controller_perform, controller_frame]
  rfl

/-- A start is told again where the last input has been forgotten. -/
theorem notices_again (c : Controller α) (t : Tuning α) (outcome : JumpGate.Outcome)
    (input wasMoving : Bool) {remembered : Bool} (less : remembered → wasMoving) :
    c.notices t outcome (input && !remembered) = c.notices t outcome (input && !wasMoving) ++
      if wasMoving && !remembered && input then [.startedMoving c.gait (c.targetSpeed t)]
      else [] := by
  unfold notices
  cases remembered with
  | true => simp [less rfl]
  | false => cases input <;> cases wasMoving <;> simp

/-- A frame goes by the velocity that was there before only if the body reports none, and by the
last contact and the last clip not at all. -/
theorem frame_remembering (c : Controller α) {r : Reading α} {velocity : Vec3 α}
    (read : r.velocity?.getD velocity = r.velocity?.getD c.velocity) (onGround : Bool) (clip : Clip)
    {wasMoving : Bool} (less : wasMoving → c.wasMoving) (dt : α) (t : Tuning α) :
    (c.remembering velocity onGround clip wasMoving).frame dt t r =
      (c.frame dt t r).retold t (c.wasMoving && !wasMoving) := by
  have observed : (c.remembering velocity onGround clip wasMoving).observe r =
      { c.observe r with clip, wasMoving } := by
    unfold observe
    rw [← read]
    rfl
  have moved : (c.remembering velocity onGround clip wasMoving).moved dt t r =
      ({ (c.moved dt t r).1 with clip, wasMoving }, (c.moved dt t r).2) := by
    unfold Controller.moved
    rw [observed]
    split <;> rfl
  have again := (c.moved dt t r).1.notices_again t (c.moved dt t r).2
    (input? t c.direction).isSome c.wasMoving less
  rw [frame_eq, moved, frame_eq]
  dsimp only
  change Frame.mk _ _ ((c.moved dt t r).1.notices t (c.moved dt t r).2
    ((input? t c.direction).isSome && !wasMoving)) = _
  rw [again]
  rfl

theorem advance_remembering (c : Controller α) {r : Reading α} {velocity : Vec3 α}
    (read : r.velocity?.getD velocity = r.velocity?.getD c.velocity) (onGround : Bool) (clip : Clip)
    {wasMoving : Bool} (less : wasMoving → c.wasMoving) (dt : α) (t : Tuning α) :
    (c.remembering velocity onGround clip wasMoving).advance dt t r =
      (c.advance dt t r).retold t (c.wasMoving && !wasMoving) := by
  unfold advance
  by_cases right : isTimestep dt
  · rw [if_pos right, if_pos right]
    exact c.frame_remembering read onGround clip less dt t
  · rw [if_neg right, if_neg right, c.frame_remembering read onGround clip less 0 t]
    rfl

theorem perform_remembering (c : Controller α) {q : Cue α} {velocity : Vec3 α}
    (read : q.reading.velocity?.getD velocity = q.reading.velocity?.getD c.velocity)
    (onGround : Bool) (clip : Clip) {wasMoving : Bool} (less : wasMoving → c.wasMoving) :
    (c.remembering velocity onGround clip wasMoving).perform q =
      (c.perform q).retold q.tuning (c.wasMoving && !wasMoving) := by
  have told : (c.takeAll q.orders).1.wasMoving = c.wasMoving := by rw [takeAll_eq_fold]
  rw [← velocity_takeAll c q.orders] at read
  rw [← told] at less
  have advanced := (c.takeAll q.orders).1.advance_remembering read onGround clip less q.dt q.tuning
  unfold perform
  rw [takeAll_remembering]
  dsimp only
  rw [advanced, told]
  unfold Frame.retold
  dsimp only
  rw [List.append_assoc]

end Controller

/-- A direction of zero is no input, whatever the threshold. -/
theorem Controller.input?_zero (t : Tuning Float32) : input? t 0 = none := by
  have short : ¬ 0 < (0 : Vec3 Float32).flat.length := by decide +kernel
  unfold input?
  exact if_neg (not_and_of_not_left _ short)

end CharacterMotion
