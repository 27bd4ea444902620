import CharacterMotion.Proofs.Binary32.Direction
import CharacterMotion.Proofs.Binary32.Share
import CharacterMotion.Proofs.Exact.Orientation

/-!
Headings in single precision. A heading that begins with two directions keeps two directions, as
long as velocities and lengths of frames are finite (`Heading.Sound.after`). The velocities may be
so large that their lengths are infinite, or so small that their squares vanish: the target of a
turn has small components all the same (`Leg.Finite.short_target`), and it need not have a length of
one, since the guard of the turn looks at the point on the chord.

So it is the direction given at first that decides. A heading set along a vector whose squared
length is infinite has nothing but zeros to face along (`Heading.not_usable_ofDirection`), and all
the others are sound (`Heading.sound_ofDirection`).
-/

namespace CharacterMotion

open Binary32

/-! ### Usable vectors -/

/-- No component is infinite or a NaN, and not all of them are zero. -/
structure Vec3.Usable (v : Vec3 Float32) : Prop where
  x : Scalar.isFinite v.x
  y : Scalar.isFinite v.y
  z : Scalar.isFinite v.z
  nonzero : v.isZero = false

theorem Binary32.Bearing.usable {v : Vec3 Float32} (bearing : Bearing v) : v.Usable := by
  refine ⟨bearing.x, bearing.y, bearing.z, eq_false_of_ne_true fun none => ?_⟩
  rw [Vec3.isZero, Bool.and_eq_true, Bool.and_eq_true] at none
  have none_x := (agrees_zero_iff bearing.x).mp none.1.1
  have none_z := (agrees_zero_iff bearing.z).mp none.2
  obtain ⟨low, -⟩ := bearing.exactSq_bounds
  rw [exactSq, none_x, none_z] at low
  linarith

/-! ### Targets -/

namespace Binary32

variable {x length : Float32}

/-- A part of a length divided by that length, which may be infinite. -/
theorem div_bounded (finite : Scalar.isFinite x) (nonneg : 0 ≤ length)
    (some : ¬ Scalar.agrees length 0 = true)
    (part : Scalar.isFinite length → 0 < real length → |real x| ≤ 4 * real length) :
    Scalar.isFinite (x / length) ∧ |real (x / length)| ≤ 2 ^ 3 := by
  rcases isFinite_or_infinite nonneg with finite' | infinite
  · rw [agrees_zero_iff finite'] at some
    have pos : 0 < real length := ((nonneg_iff finite').mp nonneg).lt_of_ne' some
    refine (result_div finite finite' some).bounded ?_ (by norm_num)
    rw [abs_div, abs_of_pos pos, div_lt_iff₀ pos]
    have le := part finite' pos
    linarith
  · obtain ⟨quotient, none⟩ := infinite.div finite
    rw [none, abs_zero]
    exact ⟨quotient, by positivity⟩

theorem zero_div_of_some (nonneg : 0 ≤ length) (some : ¬ Scalar.agrees length 0 = true) :
    Scalar.isFinite (0 / length) ∧ real (0 / length) = 0 := by
  rcases isFinite_or_infinite nonneg with finite' | infinite
  · rw [agrees_zero_iff finite'] at some
    have result := result_div isFinite_zero finite' some
    rw [real_zero, zero_div] at result
    exact result.eq_zero
  · exact infinite.div isFinite_zero

end Binary32

/-- The horizontal velocity and the length of the frame are finite. -/
structure Leg.Finite (l : Leg Float32) : Prop where
  x : Scalar.isFinite l.velocity.x
  z : Scalar.isFinite l.velocity.z
  dt : Scalar.isFinite l.dt

namespace Leg.Finite

variable {l : Leg Float32} (finite : l.Finite)

include finite

theorem short_target (moves : ¬ l.Still) : Short 3 (l.velocity.flat / l.speed) := by
  have level := level_flat finite.x finite.z
  have nonneg : 0 ≤ l.speed := level.nonneg_length
  have some : ¬ Scalar.agrees l.speed 0 = true := fun none => moves (.inl (.inr (.inl none)))
  obtain ⟨finite_x, le_x⟩ := div_bounded finite.x nonneg some
    fun finite' pos => (level.abs_le_length finite' pos).1
  obtain ⟨finite_z, le_z⟩ := div_bounded finite.z nonneg some
    fun finite' pos => (level.abs_le_length finite' pos).2
  obtain ⟨finite_y, flat⟩ := zero_div_of_some nonneg some
  exact ⟨⟨finite_x, finite_y, finite_z, flat⟩, le_x, le_z⟩

theorem share_bounded (moves : ¬ l.Still) :
    Scalar.isFinite l.share ∧ |Binary32.real l.share| ≤ 2 := by
  have passes : 0 < l.dt := by
    by_contra still
    exact moves (.inl (.inr (.inr ((not_pos_iff_of_isFinite finite.dt).mp still))))
  exact l.model.share_bounded l.rate finite.dt passes

end Leg.Finite

/-! ### Chords -/

namespace Binary32

section

variable {a b s : Float32} (finite_s : Scalar.isFinite s) (le_s : |real s| ≤ 2)

include finite_s le_s

theorem one_sub_bounded : Scalar.isFinite (1 - s) ∧ |real (1 - s)| ≤ 2 ^ 2 := by
  have result := result_sub (x := 1) rfl finite_s
  rw [real_one] at result
  refine result.bounded ?_ (by norm_num)
  rw [abs_le] at le_s
  rw [abs_lt]
  constructor <;> linarith

/-- A component of a point on a chord, or not far off it. -/
theorem lerp_bounded (finite_a : Scalar.isFinite a) (le_a : |real a| ≤ 2 ^ 1)
    (finite_b : Scalar.isFinite b) (le_b : |real b| ≤ 2 ^ 3) :
    Scalar.isFinite (a * (1 - s) + b * s) ∧ |real (a * (1 - s) + b * s)| ≤ 2 ^ 6 := by
  obtain ⟨finite_r, le_r⟩ := one_sub_bounded finite_s le_s
  have less_p : |real a * real (1 - s)| < 2 ^ 4 := by
    rw [abs_mul]
    calc |real a| * |real (1 - s)| ≤ 2 ^ 1 * 2 ^ 2 :=
          mul_le_mul le_a le_r (abs_nonneg _) (by positivity)
      _ < 2 ^ 4 := by norm_num
  have less_q : |real b * real s| < 2 ^ 5 := by
    rw [abs_mul]
    calc |real b| * |real s| ≤ 2 ^ 3 * 2 :=
          mul_le_mul le_b le_s (abs_nonneg _) (by positivity)
      _ < 2 ^ 5 := by norm_num
  obtain ⟨finite_p, le_p⟩ := (result_mul finite_a finite_r).bounded less_p (by norm_num)
  obtain ⟨finite_q, le_q⟩ := (result_mul finite_b finite_s).bounded less_q (by norm_num)
  refine (result_add finite_p finite_q).bounded ?_ (by norm_num)
  have triangle := abs_add_le (real (a * (1 - s))) (real (b * s))
  linarith

theorem lerp_of_zero (finite_a : Scalar.isFinite a) (zero_a : real a = 0)
    (finite_b : Scalar.isFinite b) (zero_b : real b = 0) :
    Scalar.isFinite (a * (1 - s) + b * s) ∧ real (a * (1 - s) + b * s) = 0 := by
  obtain ⟨finite_r, -⟩ := one_sub_bounded finite_s le_s
  obtain ⟨finite_p, zero_p⟩ := real_zero_mul zero_a finite_a finite_r
  obtain ⟨finite_q, zero_q⟩ := real_zero_mul zero_b finite_b finite_s
  have result := result_add finite_p finite_q
  rw [zero_p, zero_q, add_zero] at result
  exact result.eq_zero

theorem Short.lerp {v w : Vec3 Float32} (short : Short 1 v) (short' : Short 3 w) :
    Short 6 (v.lerp w s) := by
  obtain ⟨finite_x, le_x⟩ :=
    lerp_bounded finite_s le_s short.x short.le_x short'.x short'.le_x
  obtain ⟨finite_z, le_z⟩ :=
    lerp_bounded finite_s le_s short.z short.le_z short'.z short'.le_z
  obtain ⟨finite_y, flat⟩ := lerp_of_zero finite_s le_s short.y short.flat short'.y short'.flat
  exact ⟨⟨finite_x, finite_y, finite_z, flat⟩, le_x, le_z⟩

end

end Binary32

/-! ### Headings -/

namespace Heading

/-- Both vectors of a heading can be used as directions. -/
structure Usable (h : Heading Float32) : Prop where
  facing : h.facing.Usable
  right : h.right.Usable

/-- Both vectors of a heading are horizontal and of length one, up to rounding. -/
structure Sound (h : Heading Float32) : Prop where
  facing : Bearing h.facing
  right : Bearing h.right

theorem Sound.usable {h : Heading Float32} (sound : h.Sound) : h.Usable :=
  ⟨sound.facing.usable, sound.right.usable⟩

theorem sound_initial : (initial : Heading Float32).Sound := ⟨bearing_forward, bearing_right⟩

/-- The heading along a vector that has a direction. -/
theorem sound_along {v : Vec3 Float32} (directed : Directed v) : (along v).Sound :=
  ⟨directed.normalize, directed.normalize.directed_up_cross.normalize⟩

section

variable {d : Vec3 Float32} (finite_x : Scalar.isFinite d.x) (finite_z : Scalar.isFinite d.z)

include finite_x finite_z

theorem sound_ofDirection (finite : Scalar.isFinite d.flat.lengthSq) : (ofDirection d).Sound := by
  unfold ofDirection
  split
  · exact sound_initial
  · rename_i long
    exact sound_along ((level_flat finite_x finite_z).directed finite long)

/-- What is left of too long a vector is no direction. -/
theorem not_usable_ofDirection (long : ¬ Scalar.isFinite d.flat.lengthSq) :
    ¬ (ofDirection d).Usable := by
  have level := level_flat finite_x finite_z
  have heads : ofDirection d = along d.flat := if_neg ((level.infinite_lengthSq long).not_lt rfl)
  intro usable
  have some := usable.facing.nonzero
  rw [heads] at some
  exact Bool.false_ne_true (some.symm.trans (level.isZero_normalize long))

end

namespace Sound

variable {h : Heading Float32} {l : Leg Float32} (sound : h.Sound)

include sound

/-- What a turn goes to has a direction: the right-hand side where the point on the chord has
none. -/
theorem directed_blend (finite : l.Finite) (moves : ¬ l.Still) :
    Directed (h.blend (l.velocity.flat / l.speed) l.share) := by
  obtain ⟨finite_s, le_s⟩ := finite.share_bounded moves
  have short := sound.facing.short.lerp finite_s le_s (finite.short_target moves)
  unfold Heading.blend
  dsimp only
  split
  · exact sound.right.directed
  · rename_i long
    exact short.directed (short.isFinite_lengthSq (by norm_num)) long

theorem follow (finite : l.Finite) : (h.follow l).Sound := by
  have turns := h.follow?_eq l
  split at turns <;> rename_i moves
  · rwa [follow_of_none turns]
  · rw [follow_of_some turns]
    exact sound_along (sound.directed_blend finite moves)

theorem after {legs : Nat → Leg Float32} (finite : ∀ k, (legs k).Finite) (n : Nat) :
    (h.after legs n).Sound := by
  refine stateAt_keeps Sound n.zero_le sound ?_
  intro k _ _ before
  exact before.follow (finite k)

end Sound

/-- Whether a heading stays usable is decided by the direction that it is given at first. -/
theorem usable_after_iff {d : Vec3 Float32} (finite_x : Scalar.isFinite d.x)
    (finite_z : Scalar.isFinite d.z) {legs : Nat → Leg Float32} (finite : ∀ k, (legs k).Finite) :
    (∀ n, ((ofDirection d).after legs n).Usable) ↔ Scalar.isFinite d.flat.lengthSq := by
  constructor
  · intro usable
    by_contra long
    exact not_usable_ofDirection finite_x finite_z long (usable 0)
  · intro fits n
    exact ((sound_ofDirection finite_x finite_z fits).after finite n).usable

end Heading

end CharacterMotion
