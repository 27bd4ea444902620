import CharacterMotion.Physics.Scene
import CharacterMotion.Proofs.Exact.Solid

/-!
The ray straight down, over the real numbers.

A body stops the ray at all depths at which the ray is inside it (`depths`), and what a cast answers
is the first of them, or nothing if there is none (`IsFirst`). Of a column, a ball and a box this is
what the formulas say (`Shape.isFirst_below?`). Bounds are looked at before shapes, and that loses
nothing: whatever is in the body is in its bounds, in the loosened bounds, and in those of the whole
scene, and bounds that the ray enters are met (`Bounds.metBelow_of_depths`). So a cast through a
scene of balls and boxes answers the first of all depths at which something that the prober sees
stops the ray (`Scene.isFirst_castDown?`).
-/

namespace CharacterMotion

/-- The point straight below, at some depth. -/
noncomputable def Vec3.lowered (p : Vec3 ℝ) (depth : ℝ) : Vec3 ℝ := p - (up : Vec3 ℝ) * depth

namespace Vec3

variable (p c : Vec3 ℝ) (t : ℝ)

@[simp] theorem lowered_x : (p.lowered t).x = p.x := by simp [lowered, up]
@[simp] theorem lowered_y : (p.lowered t).y = p.y - t := by simp [lowered, up]
@[simp] theorem lowered_z : (p.lowered t).z = p.z := by simp [lowered, up]

theorem lowered_sub : p.lowered t - c = (p - c).lowered t := by
  ext <;> simp [sub_right_comm]

theorem lengthSq_lowered : (p.lowered t).lengthSq = p.lengthSq - p.y ^ 2 + (p.y - t) ^ 2 := by
  simp only [lengthSq_eq, lowered_x, lowered_y, lowered_z]
  ring

end Vec3

namespace Physics

/-! ### The first of some depths -/

/-- What is found is the least of the depths, and nothing is found only if there are none. -/
def IsFirst (found? : Option ℝ) (depths : Set ℝ) : Prop := found?.elim (depths = ∅) (IsLeast depths)

namespace IsFirst

variable {found? other? : Option ℝ} {s t : Set ℝ} {d : ℝ}

theorem eq_some_iff (first : IsFirst found? s) : found? = some d ↔ IsLeast s d := by
  cases found? with
  | none =>
      have empty : s = ∅ := first
      refine iff_of_false (by simp) fun least => ?_
      rw [empty] at least
      exact least.1
  | some e =>
      have least : IsLeast s e := first
      rw [Option.some.injEq]
      exact ⟨fun same => same ▸ least, least.unique⟩

theorem isSome_iff (first : IsFirst found? s) : found?.isSome = true ↔ s.Nonempty := by
  cases found? with
  | none =>
      have empty : s = ∅ := first
      simp [empty]
  | some e =>
      have least : IsLeast s e := first
      exact iff_of_true rfl ⟨e, least.1⟩

theorem of_iffs (least : ∀ d, found? = some d ↔ IsLeast s d)
    (some_iff : found?.isSome = true ↔ s.Nonempty) : IsFirst found? s := by
  cases found? with
  | none => exact Set.not_nonempty_iff_eq_empty.mp fun any => nomatch some_iff.mpr any
  | some e => exact (least e).mp rfl

/-- What is found beside other depths is found without them exactly if none of them comes before all
that is left. -/
theorem of_union_iff (first : IsFirst found? (s ∪ t)) :
    IsFirst found? s ↔ ∀ e ∈ t, ∃ d ∈ s, d ≤ e := by
  cases found? with
  | none =>
      obtain ⟨none_left, none_right⟩ := Set.union_empty_iff.mp first
      exact iff_of_true none_left (by simp [none_right])
  | some d =>
      have least : IsLeast (s ∪ t) d := first
      constructor
      · intro left e later
        have left' : IsLeast s d := left
        exact ⟨d, left'.1, least.2 (.inr later)⟩
      · intro earlier
        refine (⟨?_, fun e mem => least.2 (.inl mem)⟩ : IsLeast s d)
        rcases least.1 with left | right
        · exact left
        · obtain ⟨e, mem, le⟩ := earlier d right
          rwa [le.antisymm (least.2 (.inl mem))] at mem

theorem nearer? (first : IsFirst found? s) (second : IsFirst other? t) :
    IsFirst (Scene.nearer? found? other?) (s ∪ t) := by
  cases found? with
  | none =>
      have empty : s = ∅ := first
      rwa [empty, Set.empty_union]
  | some d =>
      cases other? with
      | none =>
          have empty : t = ∅ := second
          rwa [empty, Set.union_empty]
      | some e =>
          have least : IsLeast (s ∪ t) (min d e) := IsLeast.union first second
          rwa [← Scalar.smaller_real] at least

end IsFirst

theorem isFirst_Icc (low high : ℝ) :
    IsFirst (if low ≤ high then some low else none) (Set.Icc low high) := by
  split <;> rename_i ordered
  · exact isLeast_Icc ordered
  · exact Set.Icc_eq_empty ordered

/-- The depths at which a ray straight down is inside a body. -/
def depths (origin : Vec3 ℝ) (reach : ℝ) (inside : Vec3 ℝ → Prop) : Set ℝ :=
  {t | 0 ≤ t ∧ t ≤ reach ∧ inside (origin.lowered t)}

/-- What a ray has met is what a longer ray meets. -/
theorem IsFirst.longer {origin : Vec3 ℝ} {inside : Vec3 ℝ → Prop} {reach longer : ℝ}
    {found? wider? : Option ℝ} (first : IsFirst found? (depths origin reach inside))
    (wide : IsFirst wider? (depths origin longer inside)) (le : reach ≤ longer) {d : ℝ}
    (found : found? = some d) : wider? = some d := by
  obtain ⟨⟨nonneg, within, here⟩, least⟩ := first.eq_some_iff.mp found
  refine wide.eq_some_iff.mpr ⟨⟨nonneg, within.trans le, here⟩, ?_⟩
  rintro e ⟨e_nonneg, -, there⟩
  rcases le_total e reach with short | beyond
  · exact least ⟨e_nonneg, short, there⟩
  · exact within.trans beyond

/-! ### Columns and shapes -/

theorem Column.isFirst_below? {c : Column ℝ} (ordered : c.bottom ≤ c.top) (y reach : ℝ) :
    IsFirst (c.below? y reach) {t | 0 ≤ t ∧ t ≤ reach ∧ c.bottom ≤ y - t ∧ y - t ≤ c.top} := by
  have same : {t | 0 ≤ t ∧ t ≤ reach ∧ c.bottom ≤ y - t ∧ y - t ≤ c.top} =
      Set.Icc (max 0 (y - c.top)) (min reach (y - c.bottom)) := by
    ext t
    simp only [Set.mem_ofPred_eq, Set.mem_Icc, max_le_iff, le_min_iff]
    constructor
    · rintro ⟨nonneg, within, above, below⟩
      exact ⟨⟨nonneg, by linarith⟩, within, by linarith⟩
    · rintro ⟨⟨nonneg, below⟩, within, above⟩
      exact ⟨nonneg, within, by linarith, by linarith⟩
  have earlier : y - c.top ≤ y - c.bottom := by linarith
  rw [same, below?]
  simp only [neg_sub, Scalar.upper_real, Scalar.lower_real, min_eq_left earlier,
    max_eq_left earlier]
  exact isFirst_Icc ..

namespace Shape

variable {p : Vec3 ℝ} {reach : ℝ}

/-- Balls and boxes, with sizes that are not negative. -/
def Plain : Shape ℝ → Prop
  | .ball radius => 0 ≤ radius
  | .box half => 0 ≤ half.x ∧ 0 ≤ half.y ∧ 0 ≤ half.z
  | _ => False

theorem isFirst_below?_box {half : Vec3 ℝ} (nonneg : 0 ≤ half.y) :
    IsFirst ((box half).below? p reach) (depths p reach fun q => (box half).contains q = true) := by
  simp only [depths, contains_box_iff, Vec3.lowered_x, Vec3.lowered_y, Vec3.lowered_z, below?,
    boxColumn?, Bool.or_eq_true, decide_eq_true_eq]
  split <;> rename_i outside
  · refine Set.eq_empty_of_forall_notMem ?_
    rintro t ⟨-, -, ⟨left, right⟩, -, back, front⟩
    rcases outside with ((h | h) | h) | h <;> linarith
  · simp only [not_or, not_lt] at outside
    obtain ⟨⟨⟨left, right⟩, back⟩, front⟩ := outside
    simpa [left, right, back, front] using
      Column.isFirst_below? (c := ⟨-half.y, half.y⟩) (neg_le_self nonneg) p.y reach

theorem contains_ball_lowered_iff {radius t : ℝ} :
    (ball radius).contains (p.lowered t) = true ↔
      (p.y - t) ^ 2 ≤ p.y * p.y - (p.lengthSq - radius * radius) := by
  rw [contains_ball_iff, Vec3.lengthSq_lowered]
  constructor <;> intro h <;> linarith

theorem sq_sub_le_iff {y t k : ℝ} (nonneg : 0 ≤ k) :
    (y - t) ^ 2 ≤ k ↔ y - √k ≤ t ∧ t ≤ y + √k := by
  rw [Real.sq_le nonneg]
  constructor <;> rintro ⟨h, h'⟩ <;> constructor <;> linarith

/-- The ray is inside a ball between the two roots of a quadratic equation. -/
theorem isFirst_below?_ball {radius : ℝ} (nonneg : 0 ≤ reach) :
    IsFirst ((ball radius).below? p reach)
      (depths p reach fun q => (ball radius).contains q = true) := by
  simp only [depths, contains_ball_lowered_iff, below?, ballBelow?, Scalar.sqrt_real]
  generalize p.lengthSq - radius * radius = excess
  split <;> rename_i beyond
  · -- The whole ball is above the start of the ray.
    refine Set.eq_empty_of_forall_notMem ?_
    rintro t ⟨t_nonneg, -, inside⟩
    nlinarith [beyond.1, beyond.2]
  split <;> rename_i missed
  · refine Set.eq_empty_of_forall_notMem ?_
    rintro t ⟨-, -, inside⟩
    linarith [sq_nonneg (p.y - t)]
  have leaves : 0 ≤ p.y + √(p.y * p.y - excess) := by
    rcases le_or_gt 0 p.y with above | below
    · positivity
    · have held : excess ≤ 0 := not_lt.mp fun out => beyond ⟨out, below⟩
      linarith [Real.neg_sqrt_le_of_sq_le (x := p.y) (y := p.y * p.y - excess) (by linarith)]
  simp only [sq_sub_le_iff (not_lt.mp missed)]
  split <;> rename_i started
  · exact ⟨⟨le_rfl, nonneg, started, leaves⟩, fun t ⟨t_nonneg, _⟩ => t_nonneg⟩
  split <;> rename_i near
  · refine ⟨⟨(not_le.mp started).le, near, le_rfl, ?_⟩, fun t ⟨_, _, entered, _⟩ => entered⟩
    linarith [Real.sqrt_nonneg (p.y * p.y - excess)]
  · refine Set.eq_empty_of_forall_notMem ?_
    rintro t ⟨-, within, entered, -⟩
    exact near (entered.trans within)

/-- What is met of a ball or a box is the first point of it on the ray. -/
theorem isFirst_below? {s : Shape ℝ} (plain : s.Plain) (nonneg : 0 ≤ reach) :
    IsFirst (s.below? p reach) (depths p reach fun q => s.contains q = true) := by
  cases s with
  | ball radius => exact isFirst_below?_ball nonneg
  | box half => exact isFirst_below?_box plain.2.1
  | _ => exact plain.elim

end Shape

/-! ### Bounds -/

namespace Bounds

variable {b : Bounds ℝ} {origin q : Vec3 ℝ} {reach : ℝ}

/-- Whether a point lies in the bounds. -/
def Holds (b : Bounds ℝ) (q : Vec3 ℝ) : Prop :=
  (b.low.x ≤ q.x ∧ q.x ≤ b.high.x) ∧ (b.low.y ≤ q.y ∧ q.y ≤ b.high.y) ∧
    b.low.z ≤ q.z ∧ q.z ≤ b.high.z

theorem holds_around_iff {centre extent : Vec3 ℝ} :
    (around centre extent).Holds q ↔ |(q - centre).x| ≤ extent.x ∧ |(q - centre).y| ≤ extent.y ∧
      |(q - centre).z| ≤ extent.z := by
  have side (x c e : ℝ) : c - e ≤ x ∧ x ≤ c + e ↔ |x - c| ≤ e := by
    rw [abs_le]
    constructor <;> rintro ⟨h, h'⟩ <;> constructor <;> linarith
  exact and_congr (side ..) (and_congr (side ..) (side ..))

theorem metBelow_iff :
    b.metBelow origin reach = true ↔ (b.low.x ≤ origin.x ∧ origin.x ≤ b.high.x) ∧
      (b.low.z ≤ origin.z ∧ origin.z ≤ b.high.z) ∧
        ((Column.mk b.low.y b.high.y).below? origin.y reach).isSome = true := by
  have any (d? : Option ℝ) : d?.any Scalar.belowGreatest = d?.isSome := by cases d? <;> rfl
  simp only [metBelow, Bool.and_eq_true, decide_eq_true_eq, Scalar.capped_real, any, and_assoc]

/-- Bounds that the ray enters are met. -/
theorem metBelow_of_depths {t : ℝ} (entered : t ∈ depths origin reach b.Holds) :
    b.metBelow origin reach = true := by
  obtain ⟨nonneg, within, x, y, z⟩ := entered
  simp only [Vec3.lowered_x, Vec3.lowered_y, Vec3.lowered_z] at x y z
  have first := Column.isFirst_below? (c := ⟨b.low.y, b.high.y⟩) (y.1.trans y.2) origin.y reach
  exact metBelow_iff.mpr ⟨x, z, first.isSome_iff.mpr ⟨t, nonneg, within, y⟩⟩

/-- A ray of negative length meets nothing. -/
theorem reach_nonneg_of_metBelow (met : b.metBelow origin reach = true) : 0 ≤ reach := by
  have found := (metBelow_iff.mp met).2.2
  simp only [Column.below?, Scalar.upper_real, Scalar.lower_real] at found
  split at found <;> rename_i entered
  · exact (le_max_left ..).trans (entered.trans (min_le_left ..))
  · exact absurd found Bool.false_ne_true

theorem Holds.loosen (held : b.Holds q) : b.loosen.Holds q := by
  obtain ⟨⟨low_x, high_x⟩, ⟨low_y, high_y⟩, low_z, high_z⟩ := held
  have hundredth : (0.01 : ℝ) = 1 / 100 := by norm_num
  rw [Bounds.loosen, if_pos (low_x.trans high_x)]
  simp only [Holds, Vec3.sub_x, Vec3.sub_y, Vec3.sub_z, Vec3.add_x, Vec3.add_y, Vec3.add_z,
    Vec3.mul_x, Vec3.mul_y, Vec3.mul_z, hundredth]
  refine ⟨⟨?_, ?_⟩, ⟨?_, ?_⟩, ?_, ?_⟩ <;> linarith

theorem holds_join {c : Bounds ℝ} (held : b.Holds q ∨ c.Holds q) : (b.join c).Holds q := by
  simp only [Holds, join, Scalar.lower_real, Scalar.upper_real, min_le_iff, le_max_iff]
  rcases held with ⟨x, y, z⟩ | ⟨x, y, z⟩
  · exact ⟨⟨.inl x.1, .inl x.2⟩, ⟨.inl y.1, .inl y.2⟩, .inl z.1, .inl z.2⟩
  · exact ⟨⟨.inr x.1, .inr x.2⟩, ⟨.inr y.1, .inr y.2⟩, .inr z.1, .inr z.2⟩

/-- A body without bounds may be anywhere. -/
def MayHold (b? : Option (Bounds ℝ)) (q : Vec3 ℝ) : Prop := ∀ b ∈ b?, b.Holds q

theorem mayHold_join? {a? b? : Option (Bounds ℝ)} (held : MayHold a? q ∨ MayHold b? q) :
    MayHold (join? a? b?) q := by
  rintro c joined
  obtain ⟨a, some_a, rest⟩ := Option.bind_eq_some_iff.mp joined
  obtain ⟨b, some_b, ⟨⟩⟩ := Option.bind_eq_some_iff.mp rest
  exact holds_join (held.imp (· a some_a) (· b some_b))

/-- The bounds of all bodies hold what the bounds of one of them hold. -/
theorem mayHold_foldl_join? {bs : List (Option (Bounds ℝ))} {b? : Option (Bounds ℝ)}
    (held : ∃ c? ∈ b? :: bs, MayHold c? q) : MayHold (bs.foldl join? b?) q := by
  induction bs generalizing b? with
  | nil =>
      obtain ⟨c?, mem, held⟩ := held
      rwa [List.mem_singleton.mp mem] at held
  | cons c? bs ih =>
      refine ih ?_
      obtain ⟨d?, mem, held⟩ := held
      rcases List.mem_cons.mp mem with rfl | mem
      · exact ⟨_, List.mem_cons_self, mayHold_join? (.inl held)⟩
      rcases List.mem_cons.mp mem with rfl | mem
      · exact ⟨_, List.mem_cons_self, mayHold_join? (.inr held)⟩
      · exact ⟨d?, List.mem_cons_of_mem _ mem, held⟩

theorem all_metBelow_of_depths {b? : Option (Bounds ℝ)} {t : ℝ}
    (entered : t ∈ depths origin reach (MayHold b?)) : b?.all (·.metBelow origin reach) = true := by
  obtain ⟨nonneg, within, held⟩ := entered
  cases b? with
  | none => rfl
  | some b => exact metBelow_of_depths ⟨nonneg, within, held b rfl⟩

end Bounds

/-- Balls and boxes have bounds, and these hold all their points. -/
theorem Shape.exists_bounds? {s : Shape ℝ} (plain : s.Plain) (centre : Vec3 ℝ) :
    ∃ b, s.bounds? centre = some b ∧ ∀ q, s.contains (q - centre) = true → b.Holds q := by
  cases s with
  | ball radius =>
      refine ⟨_, rfl, fun q inside => Bounds.holds_around_iff.mpr ?_⟩
      have near := contains_ball_iff.mp inside
      rw [Vec3.lengthSq_eq, ← sq] at near
      generalize q - centre = p at near ⊢
      refine ⟨?_, ?_, ?_⟩ <;> refine abs_le_of_sq_le_sq ?_ plain <;>
        linarith [sq_nonneg p.x, sq_nonneg p.y, sq_nonneg p.z]
  | box half =>
      refine ⟨_, rfl, fun q inside => Bounds.holds_around_iff.mpr ?_⟩
      obtain ⟨x, y, z⟩ := contains_box_iff.mp inside
      simp only [boxExtent, zero_mul, zero_add, add_zero]
      exact ⟨abs_le.mpr x, abs_le.mpr y, abs_le.mpr z⟩
  | _ => exact plain.elim

/-! ### Obstacles and scenes -/

namespace Obstacle

/-- Whether a point belongs to the collider in its place. -/
def Occupies (o : Obstacle ℝ) (q : Vec3 ℝ) : Prop := o.shape.contains (q - o.centre) = true

theorem isFirst_below? {o : Obstacle ℝ} (plain : o.shape.Plain) (origin : Vec3 ℝ) (reach : ℝ) :
    IsFirst (o.below? origin reach) (depths origin reach o.Occupies) := by
  obtain ⟨b, bounds, holds⟩ := Shape.exists_bounds? plain o.centre
  have all (d? : Option ℝ) : d?.filter Scalar.belowGreatest = d? := by cases d? <;> rfl
  rw [below?, bounds?, bounds, Option.all_some, all]
  split <;> rename_i met
  · have first := Shape.isFirst_below? (p := origin - o.centre) plain
      (Bounds.reach_nonneg_of_metBelow met)
    simpa only [depths, Occupies, Vec3.lowered_sub] using first
  · refine Set.eq_empty_of_forall_notMem fun t ⟨nonneg, within, inside⟩ => met ?_
    exact Bounds.metBelow_of_depths ⟨nonneg, within, (holds _ inside).loosen⟩

end Obstacle

namespace Scene

variable {scene : Scene ℝ} {prober : Nat} {groups? : Option Groups}

/-- Whether something that the prober sees is at a point. -/
def Stops (scene : Scene ℝ) (prober : Nat) (groups? : Option Groups) (q : Vec3 ℝ) : Prop :=
  ∃ o ∈ scene.obstacles, o.seenBy prober groups? = true ∧ o.Occupies q

theorem isFirst_foldl_nearer? {ι : Type} {found : ι → Option ℝ} {s : ι → Set ℝ} {is : List ι}
    (first : ∀ i ∈ is, IsFirst (found i) (s i)) {found? : Option ℝ} {t : Set ℝ}
    (start : IsFirst found? t) :
    IsFirst ((is.map found).foldl nearer? found?) (t ∪ {d | ∃ i ∈ is, d ∈ s i}) := by
  induction is generalizing found? t with
  | nil => simpa using start
  | cons i is ih =>
      have rest := ih (fun j mem => first j (List.mem_cons_of_mem i mem))
        (start.nearer? (first i List.mem_cons_self))
      have same : t ∪ s i ∪ {d | ∃ j ∈ is, d ∈ s j} = t ∪ {d | ∃ j ∈ i :: is, d ∈ s j} := by
        ext d
        simp [or_assoc]
      rwa [same] at rest

theorem mayHold_bounds? {o : Obstacle ℝ} (mem : o ∈ scene.obstacles) (plain : o.shape.Plain)
    {q : Vec3 ℝ} (at_point : o.Occupies q) : Bounds.MayHold scene.bounds? q := by
  obtain ⟨b, bounds, holds⟩ := Shape.exists_bounds? plain o.centre
  have held : Bounds.MayHold (some b) q := by
    rintro _ ⟨⟩
    exact holds q at_point
  have there : some b ∈ scene.obstacles.map (·.bounds?) := List.mem_map.mpr ⟨o, mem, bounds⟩
  unfold bounds?
  split <;> rename_i all
  · simp [all] at there
  · exact Bounds.mayHold_foldl_join? ⟨some b, all ▸ there, held⟩

/-- A cast finds the first point at which something stops the ray. Only what the prober sees has to
be a ball or a box. -/
theorem isFirst_castDown?
    (plain : ∀ o ∈ scene.obstacles, o.seenBy prober groups? = true → o.shape.Plain)
    (origin : Vec3 ℝ) (reach : ℝ) :
    IsFirst (scene.castDown? prober groups? origin reach)
      (depths origin reach (scene.Stops prober groups?)) := by
  unfold castDown?
  split <;> rename_i met
  · have same : depths origin reach (scene.Stops prober groups?) =
        ∅ ∪ {d | ∃ o ∈ scene.obstacles.filter (·.seenBy prober groups?),
          d ∈ depths origin reach o.Occupies} := by
      ext d
      simp only [depths, Stops, Set.empty_union, List.mem_filter, Set.mem_ofPred_eq]
      constructor
      · rintro ⟨nonneg, within, o, mem, seen, at_point⟩
        exact ⟨o, ⟨mem, seen⟩, nonneg, within, at_point⟩
      · rintro ⟨o, ⟨mem, seen⟩, nonneg, within, at_point⟩
        exact ⟨nonneg, within, o, mem, seen, at_point⟩
    rw [same]
    refine isFirst_foldl_nearer? (fun o seen => ?_) rfl
    obtain ⟨mem, seen⟩ := List.mem_filter.mp seen
    exact Obstacle.isFirst_below? (plain o mem seen) origin reach
  · refine Set.eq_empty_of_forall_notMem ?_
    rintro t ⟨nonneg, within, o, mem, seen, at_point⟩
    have held := mayHold_bounds? mem (plain o mem seen) at_point
    exact met (Bounds.all_metBelow_of_depths ⟨nonneg, within, held⟩)

end Scene

end Physics

end CharacterMotion
