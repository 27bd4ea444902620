import CharacterMotion.Proofs.Exact.Partial
import CharacterMotion.Proofs.Run

/-!
Headings stay oriented (`oriented_after`): however a heading starts and whatever turns follow, it
faces along a horizontal vector of length one, and the right-hand side is the perpendicular of that.
This needs no condition on speeds, rates or thresholds. The guards of a turn see to it that what is
brought to length one has a length, and they could not be spared: the middle of a chord has none,
and there the right-hand side takes over because it has been of length one all along.

So no division by zero is ever reached. A run over numbers for which such a division has no result
(`Partial`) goes as it does over the real numbers.
-/

namespace CharacterMotion

/-- What a heading is given for one turn. -/
structure Leg (α : Type) where
  velocity : Vec3 α
  dt : α
  rate : α
  model : TurnModel
  threshold : α

namespace Leg

/-- The same with numbers that might be undefined. -/
def real (l : Leg ℝ) : Leg Partial where
  velocity := l.velocity.real
  dt := .real l.dt
  rate := .real l.rate
  model := l.model
  threshold := .real l.threshold

section

variable {α : Type} [Scalar α]

def speed (l : Leg α) : α := l.velocity.flat.length

def share (l : Leg α) : α := l.model.share l.rate l.dt

/-- Nothing turns in the leg. -/
def Still (l : Leg α) : Prop :=
  (l.speed ≤ l.threshold ∨ Scalar.agrees l.speed 0 = true ∨ l.dt ≤ 0) ∨ l.share ≤ 0

instance (l : Leg α) : Decidable l.Still := inferInstanceAs (Decidable (_ ∨ _))

end

theorem speed_real (l : Leg ℝ) : l.real.speed = .real l.speed := l.velocity.flat.length_real

theorem share_real (l : Leg ℝ) : l.real.share = .real l.share := l.model.share_real l.rate l.dt

theorem still_real_iff (l : Leg ℝ) : l.real.Still ↔ l.Still := by
  unfold Still
  rw [speed_real, share_real, Partial.zero_eq, Partial.agrees_real]
  exact Iff.rfl

theorem speed_ne_zero {l : Leg ℝ} (turns : ¬ l.Still) : l.speed ≠ 0 :=
  fun none => turns (.inl (.inr (.inl (Scalar.agrees_real_iff.mpr none))))

end Leg

namespace Heading

section

variable {α : Type} [Scalar α]

/-- The heading of a new character, with a direction or without. -/
def start (direction? : Option (Vec3 α)) : Heading α := direction?.elim initial ofDirection

/-- The turn of a leg; `none` if it does not turn. -/
def follow? (h : Heading α) (l : Leg α) : Option (Heading α) :=
  h.turn? l.velocity l.dt l.rate l.model l.threshold

def follow (h : Heading α) (l : Leg α) : Heading α :=
  h.turn l.velocity l.dt l.rate l.model l.threshold

/-- The heading after the first `n` legs of a run. -/
def after (h : Heading α) (legs : Nat → Leg α) (n : Nat) : Heading α := stateAt follow h legs n

/-- A leg turns along the blend toward the direction of its velocity. -/
theorem follow?_eq (h : Heading α) (l : Leg α) :
    h.follow? l =
      if l.Still then none
      else some (along (h.blend (l.velocity.flat / l.speed) l.share)) := by
  have guard : (l.speed ≤ l.threshold ∨ Scalar.agrees l.speed 0 = true ∨ l.dt ≤ 0) ↔
      (decide (l.speed ≤ l.threshold) || Scalar.agrees l.speed 0 || decide (l.dt ≤ 0)) = true := by
    simp only [Bool.or_eq_true, decide_eq_true_eq, or_assoc]
  by_cases stays : l.speed ≤ l.threshold ∨ Scalar.agrees l.speed 0 = true ∨ l.dt ≤ 0
  · have still : l.Still := .inl stays
    rw [if_pos still]
    exact if_pos (guard.mp stays)
  · refine (if_neg (guard.not.mp stays)).trans ?_
    by_cases small : l.share ≤ 0
    · have still : l.Still := .inr small
      rw [if_pos still]
      exact if_pos small
    · have moves : ¬ l.Still := not_or.mpr ⟨stays, small⟩
      rw [if_neg moves]
      exact if_neg small

theorem follow_of_none {h : Heading α} {l : Leg α} (still : h.follow? l = none) :
    h.follow l = h := by
  unfold follow turn
  rw [show h.turn? _ _ _ _ _ = none from still]
  rfl

theorem follow_of_some {h h' : Heading α} {l : Leg α} (turns : h.follow? l = some h') :
    h.follow l = h' := by
  unfold follow turn
  rw [show h.turn? _ _ _ _ _ = some h' from turns]
  rfl

end

/-! ### Oriented headings -/

variable {h h' : Heading ℝ} {l : Leg ℝ}

theorem negligible_pos : (0 : ℝ) < negligible := by norm_num [negligible]

/-- A vector that is not negligible has a direction. -/
theorem length_ne_zero_of_not_negligible {v : Vec3 ℝ} (long : ¬ v.lengthSq < negligible) :
    v.length ≠ 0 := by
  intro none
  rw [← Vec3.length_sq, none] at long
  exact long (by simpa using negligible_pos)

section

variable {v : Vec3 ℝ} (level : v.y = 0) (directed : v.length ≠ 0)

include level directed

theorem facing_along : (along v).facing.y = 0 ∧ (along v).facing.length = 1 := by
  constructor
  · change v.normalize.y = 0
    rw [Vec3.normalize, Vec3.mul_y, level, zero_mul]
  · exact Vec3.length_normalize (lt_of_le_of_ne v.length_nonneg directed.symm)

/-- The perpendicular has its length before it is brought to it. -/
theorem length_up_cross_along : (Vec3.up.cross (along v).facing).length = 1 := by
  obtain ⟨facing_level, unit⟩ := facing_along level directed
  rw [Vec3.length_up_cross facing_level, unit]

/-- The heading along a horizontal vector that has a direction. -/
theorem oriented_along : (along v).Oriented := by
  obtain ⟨facing_level, unit⟩ := facing_along level directed
  exact ⟨facing_level, unit, Vec3.normalize_of_unit (length_up_cross_along level directed)⟩

end

/-- A heading is set along a vector only if there is a direction to it. -/
theorem ofDirection_cases (d : Vec3 ℝ) :
    (d.flat.lengthSq < negligible ∧ ofDirection d = initial) ∨
      (ofDirection d = along d.flat ∧ d.flat.length ≠ 0) := by
  unfold ofDirection
  split
  · rename_i short
    exact .inl ⟨short, rfl⟩
  · rename_i long
    exact .inr ⟨rfl, length_ne_zero_of_not_negligible long⟩

theorem oriented_start (direction? : Option (Vec3 ℝ)) : (start direction?).Oriented := by
  cases direction? with
  | none => exact oriented_initial
  | some d =>
      change (ofDirection d).Oriented
      rcases ofDirection_cases d with ⟨-, begins⟩ | ⟨begins, directed⟩
      · rw [begins]
        exact oriented_initial
      · rw [begins]
        exact oriented_along rfl directed

namespace Oriented

theorem right_level (oriented : h.Oriented) : h.right.y = 0 := by
  rw [oriented.right_eq, Vec3.up_cross oriented.level]

theorem dot_eq_zero (oriented : h.Oriented) : h.facing.dot h.right = 0 := by
  rw [oriented.right_eq, Vec3.up_cross oriented.level, Vec3.dot]
  ring

/-- What a turn moves toward is horizontal and has a direction, on the chord or off it. -/
theorem blend (oriented : h.Oriented) {target : Vec3 ℝ} (level : target.y = 0) (share : ℝ) :
    (h.blend target share).y = 0 ∧ (h.blend target share).length ≠ 0 := by
  unfold Heading.blend
  dsimp only
  split
  · refine ⟨oriented.right_level, ?_⟩
    rw [oriented.right_unit]
    exact one_ne_zero
  · rename_i long
    refine ⟨?_, length_ne_zero_of_not_negligible long⟩
    simp [Vec3.lerp, oriented.level, level]

end Oriented

/-- A turn has a speed to divide by, and what it moves toward is horizontal and has a direction. -/
theorem Oriented.turns (oriented : h.Oriented) (turns : h.follow? l = some h') :
    ∃ v : Vec3 ℝ, h' = along v ∧ l.speed ≠ 0 ∧ v.y = 0 ∧ v.length ≠ 0 := by
  rw [follow?_eq] at turns
  split at turns
  · cases turns
  · rename_i moves
    have level : (l.velocity.flat / l.speed).y = 0 := zero_div _
    obtain ⟨blend_level, directed⟩ := oriented.blend level l.share
    exact ⟨_, (Option.some.inj turns).symm, Leg.speed_ne_zero moves, blend_level, directed⟩

theorem Oriented.follow (oriented : h.Oriented) (l : Leg ℝ) : (h.follow l).Oriented := by
  cases turns : h.follow? l with
  | none => rwa [follow_of_none turns]
  | some h' =>
      obtain ⟨v, rfl, -, level, directed⟩ := oriented.turns turns
      rw [follow_of_some turns]
      exact oriented_along level directed

theorem Oriented.after (oriented : h.Oriented) (legs : Nat → Leg ℝ) (n : Nat) :
    (h.after legs n).Oriented := by
  refine stateAt_keeps Oriented n.zero_le oriented ?_
  intro k _ _ before
  exact before.follow (legs k)

/-! ### Nothing undefined -/

/-- The same heading with numbers that might be undefined. -/
def real (h : Heading ℝ) : Heading Partial := ⟨h.facing.real, h.right.real⟩

theorem along_real {v : Vec3 ℝ} (level : v.y = 0) (directed : v.length ≠ 0) :
    along v.real = (along v).real := by
  have right : (Vec3.up.cross v.normalize).length ≠ 0 :=
    (length_up_cross_along level directed).trans_ne one_ne_zero
  rw [along, Vec3.normalize_real_iff.mpr directed, Vec3.up_cross_real,
    Vec3.normalize_real_iff.mpr right]
  rfl

theorem blend_real (h : Heading ℝ) (target : Vec3 ℝ) (share : ℝ) :
    h.real.blend target.real (.real share) = (h.blend target share).real := by
  have small : (h.facing.real.lerp target.real (.real share)).lengthSq < negligible ↔
      (h.facing.lerp target share).lengthSq < negligible := Iff.rfl
  unfold blend
  dsimp only [real]
  rw [if_congr small rfl rfl]
  split <;> rfl

theorem start_real (direction? : Option (Vec3 ℝ)) :
    start (direction?.map Vec3.real) = (start direction?).real := by
  cases direction? with
  | none => rfl
  | some d =>
      have small : d.real.flat.lengthSq < negligible ↔ d.flat.lengthSq < negligible := Iff.rfl
      change ofDirection d.real = (ofDirection d).real
      unfold ofDirection
      rw [if_congr small rfl rfl]
      split
      · rfl
      · rename_i long
        exact along_real rfl (length_ne_zero_of_not_negligible long)

/-- An oriented heading turns alike: it stays for the same reasons, and otherwise there is a speed
to divide by and a direction to turn to. -/
theorem Oriented.follow_real (oriented : h.Oriented) (l : Leg ℝ) :
    h.real.follow l.real = (h.follow l).real := by
  by_cases still : l.Still
  · have stays : h.follow? l = none := by rw [follow?_eq, if_pos still]
    have stays' : h.real.follow? l.real = none := by
      rw [follow?_eq, if_pos (l.still_real_iff.mpr still)]
    rw [follow_of_none stays, follow_of_none stays']
  · have turns := h.follow?_eq l
    have turns' := h.real.follow?_eq l.real
    rw [if_neg still] at turns
    rw [if_neg (l.still_real_iff.not.mpr still)] at turns'
    have level : (l.velocity.flat / l.speed).y = 0 := zero_div _
    obtain ⟨blend_level, directed⟩ := oriented.blend level l.share
    have target : l.real.velocity.flat / l.real.speed = (l.velocity.flat / l.speed).real := by
      rw [Leg.speed_real]
      exact l.velocity.flat.div_real (Leg.speed_ne_zero still)
    rw [follow_of_some turns, follow_of_some turns', target, Leg.share_real, blend_real,
      along_real blend_level directed]

theorem Oriented.after_real (oriented : h.Oriented) (legs : Nat → Leg ℝ) (n : Nat) :
    h.real.after (fun k => (legs k).real) n = (h.after legs n).real := by
  induction n with
  | zero => rfl
  | succ n ih =>
      change (h.real.after (fun k => (legs k).real) n).follow (legs n).real =
        ((h.after legs n).follow (legs n)).real
      rw [ih]
      exact (oriented.after legs n).follow_real (legs n)

/-- However a heading starts and whatever legs follow: it is oriented, nothing that is brought to
length one on the way is without a length, nothing is divided by zero, and a leg that does not turn
leaves the heading as it is. Over numbers for which a division by zero is undefined the run goes the
same way. -/
theorem oriented_after (direction? : Option (Vec3 ℝ)) (legs : Nat → Leg ℝ) (n : Nat) :
    let h := (start direction?).after legs n
    h.facing.length = 1 ∧ h.right.length = 1 ∧ h.facing.y = 0 ∧ h.right.y = 0 ∧
    h.right = Vec3.up.cross h.facing ∧ h.facing.dot h.right = 0 ∧
    (∀ d, direction? = some d →
      (d.flat.lengthSq < negligible ∧ start direction? = initial) ∨
      (start direction? = along d.flat ∧ d.flat.length ≠ 0 ∧
        (Vec3.up.cross d.flat.normalize).length ≠ 0)) ∧
    (∀ h', h.follow? (legs n) = some h' → ∃ v : Vec3 ℝ, h' = along v ∧ (legs n).speed ≠ 0 ∧
      v.length ≠ 0 ∧ (Vec3.up.cross v.normalize).length ≠ 0) ∧
    (h.follow? (legs n) = none → (start direction?).after legs (n + 1) = h) ∧
    (start (direction?.map Vec3.real)).after (fun k => (legs k).real) n = h.real := by
  intro h
  have oriented : h.Oriented := (oriented_start direction?).after legs n
  refine ⟨oriented.unit, oriented.right_unit, oriented.level, oriented.right_level,
    oriented.right_eq, oriented.dot_eq_zero, ?_, ?_, ?_, ?_⟩
  · rintro d rfl
    rcases ofDirection_cases d with short | ⟨begins, directed⟩
    · exact .inl short
    · exact .inr ⟨begins, directed, (length_up_cross_along rfl directed).trans_ne one_ne_zero⟩
  · intro h' turns
    obtain ⟨v, along_v, divides, level, directed⟩ := oriented.turns turns
    exact ⟨v, along_v, divides, directed,
      (length_up_cross_along level directed).trans_ne one_ne_zero⟩
  · intro still
    exact follow_of_none still
  · rw [start_real]
    exact (oriented_start direction?).after_real legs n

/-- Half of a turn to the opposite direction, with a threshold that lets everything pass. -/
noncomputable def halfway : Leg ℝ := ⟨⟨0, 0, -4⟩, 1, 0.5, .linear, -1⟩

theorem oriented_after_halfway :
    let h := (start none : Heading ℝ).after (fun _ => halfway) 1
    h.facing.length = 1 ∧ h.right = Vec3.up.cross h.facing ∧
      ∃ v : Vec3 ℝ, h = along v ∧ v.length ≠ 0 := by
  intro h
  have speed_nonneg : 0 ≤ halfway.speed := Vec3.length_nonneg _
  have moves : ¬ halfway.Still := by
    rintro ((slow | none | still) | less)
    · change halfway.speed ≤ -1 at slow
      linarith
    · have empty := Vec3.length_eq_zero_iff.mp (Scalar.agrees_real_iff.mp none)
      have back : (-4 : ℝ) = 0 := congrArg Vec3.z empty
      linarith
    · change (1 : ℝ) ≤ 0 at still
      linarith
    · simp only [Leg.share, halfway, TurnModel.share, Scalar.nonneg_real,
        Scalar.clampUnit_real] at less
      norm_num at less
  have turns := (start none : Heading ℝ).follow?_eq halfway
  rw [if_neg moves] at turns
  obtain ⟨unit, -, -, -, right, -⟩ := oriented_after none (fun _ => halfway) 1
  obtain ⟨-, -, -, -, -, -, -, directed, -⟩ := oriented_after none (fun _ => halfway) 0
  obtain ⟨v, along_v, -, some, -⟩ := directed _ turns
  exact ⟨unit, right, v, (follow_of_some turns).trans along_v, some⟩

end Heading

end CharacterMotion
