import CharacterMotion.Binary32.Scalar
import CharacterMotion.Proofs.Exact.Descent
import CharacterMotion.Proofs.Exact.LowestPoint
import CharacterMotion.Proofs.Physics.Phases

/-!
What a character finds below itself.

A probe takes down the first point at which the ray is inside a collider that it sees. It should see
what belongs to others, is no sensor, and is in groups that meet those of the character (`Ground`).
The character's own collider is left out by its rigid body, and so it is left out only if it is part
of one: a collider that came into the scene without a rigid body stops the ray of its own character
(`Loose`). What the probe takes down is the ground after all exactly if the ground comes first
wherever the own collider is met (`Space.finds_ground`); and a character that starts inside its own
loose collider is on the ground wherever it is (`Space.grounded_by_itself`).

Scenes are those of `Obstacle`: a collider stands upright and unscaled at the place of the character
it belongs to. Nothing is said of colliders that are turned, scaled, or attached at a distance.
-/

namespace CharacterMotion.Physics

namespace Obstacle

/-- Solid, and in groups that have to do with the character's, if it is in any. -/
def Solid (o : Obstacle ℝ) (groups? : Option Groups) : Prop :=
  o.sensor = false ∧ ∀ groups ∈ groups?, groups.meets o.groups = true

/-- What belongs to others is seen if it is solid, what is the prober's own only if it is part of no
rigid body as well. -/
theorem seenBy_iff {o : Obstacle ℝ} {prober : Nat} {groups? : Option Groups} :
    o.seenBy prober groups? = true ↔
      o.Solid groups? ∧ o.owner ≠ prober ∨
        o.Solid groups? ∧ o.owner = prober ∧ o.ofRigidBody = false := by
  have left_out : (!(o.ofRigidBody && o.owner == prober)) = true ↔
      o.owner ≠ prober ∨ o.owner = prober ∧ o.ofRigidBody = false := by
    by_cases own : o.owner = prober <;> simp [own]
  rw [seenBy, Bool.and_eq_true, Bool.and_eq_true, left_out, Option.all_eq_true, Bool.not_eq_true',
    ← and_or_left, Solid]
  tauto

end Obstacle

namespace Scene

variable {scene : Scene ℝ} {id : Nat} {groups? : Option Groups}

/-- Whether the ground that a character may stand on is at a point: something solid of others. -/
def Ground (scene : Scene ℝ) (id : Nat) (groups? : Option Groups) (q : Vec3 ℝ) : Prop :=
  ∃ o ∈ scene.obstacles, (o.Solid groups? ∧ o.owner ≠ id) ∧ o.Occupies q

/-- Whether a solid collider of the character itself is at a point that is part of no rigid body. -/
def Loose (scene : Scene ℝ) (id : Nat) (groups? : Option Groups) (q : Vec3 ℝ) : Prop :=
  ∃ o ∈ scene.obstacles, (o.Solid groups? ∧ o.owner = id ∧ o.ofRigidBody = false) ∧ o.Occupies q

theorem stops_iff {q : Vec3 ℝ} :
    scene.Stops id groups? q ↔ scene.Ground id groups? q ∨ scene.Loose id groups? q := by
  simp only [Stops, Ground, Loose, Obstacle.seenBy_iff, or_and_right, and_or_left, exists_or]

end Scene

namespace Space

section Sensed

variable {α : Type} {s : Space α} {id : Nat} {c : Character α (Parts α)}

/-- The same space, where the probe of one character has another tolerance. -/
def tolerate (s : Space α) (id : Nat) (tolerance : α) : Space α :=
  s.modify id fun c =>
    { c with body := { c.body with probe? := c.body.probe?.map ({ · with tolerance }) } }

theorem get?_tolerate (there : s.get? id = some c) (tolerance : α) :
    (s.tolerate id tolerance).get? id = some
      { c with body := { c.body with probe? := c.body.probe?.map ({ · with tolerance }) } } := by
  refine (s.world.get?_modify id id _).trans ?_
  rw [if_pos rfl]
  exact congrArg _ there

variable [Scalar α]

/-- The probe of a character after it has looked down. -/
def sensed? (s : Space α) (id : Nat) : Option (Probe α) :=
  (s.senseGround.1.get? id).bind fun c => c.body.probe?

theorem sensed?_eq {scene : Scene α} {probe : Probe α} {position : Vec3 α}
    (looking : s.scene? = some scene) (there : s.get? id = some c)
    (probed : c.body.probe? = some probe) (placed : c.body.position? = some position) :
    s.sensed? id = some (probe.record
      (scene.castDown? id c.body.groups? position (probe.reach c.body.shape?))) := by
  obtain ⟨world, scene?⟩ := s
  subst looking
  have sensed : (senseGround ⟨world, some scene⟩).1.get? id = _ :=
    (get?_mapBodies _ (fun id body => body.sense scene id) id).trans (congrArg _ there)
  rw [sensed?, sensed, Option.map_some, Option.bind_some, Parts.sense, probed, placed]

/-- A collider of a character in the scene that has just been brought up to date is part of a rigid
body if it was before, or if it is new and the character has a rigid body. -/
theorem ofRigidBody_sync {before scene : Scene α} (synced : s.scene? = some before)
    (up_to_date : s.sync.scene? = some scene) {o : Obstacle α} (mem : o ∈ scene.obstacles) :
    ∃ c, s.get? o.owner = some c ∧
      o.ofRigidBody = (before.of? o.owner).elim c.body.rigidBody?.isSome (·.ofRigidBody) := by
  rw [sync, synced] at up_to_date
  cases up_to_date
  obtain ⟨⟨id, c⟩, entry, made⟩ := List.mem_filterMap.mp mem
  obtain ⟨shape, -, rfl⟩ := Option.map_eq_some_iff.mp made
  exact ⟨c, s.world.roster.get?_eq_some_iff.mpr entry, rfl⟩

end Sensed

section Exact

variable {s : Space ℝ} {scene : Scene ℝ} {id : Nat} {c : Character ℝ (Parts ℝ)} {probe : Probe ℝ}
  {position : Vec3 ℝ}

/-- A collider that came into the scene with a rigid body is nowhere met by its own character. -/
theorem not_loose_sync {before : Scene ℝ} (synced : s.scene? = some before)
    (up_to_date : s.sync.scene? = some scene) (there : s.get? id = some c)
    (attached : (before.of? id).elim c.body.rigidBody?.isSome (·.ofRigidBody) = true)
    (groups? : Option Groups) (q : Vec3 ℝ) : ¬ scene.Loose id groups? q := by
  rintro ⟨o, mem, ⟨-, rfl, loose⟩, -⟩
  obtain ⟨c', there', part⟩ := ofRigidBody_sync synced up_to_date mem
  cases there.symm.trans there'
  rw [loose, attached] at part
  exact Bool.false_ne_true part

/-- What a probe takes down. -/
theorem isFirst_sensed? (looking : s.scene? = some scene) (there : s.get? id = some c)
    (probed : c.body.probe? = some probe) (placed : c.body.position? = some position)
    (plain : ∀ o ∈ scene.obstacles, o.seenBy id c.body.groups? = true → o.shape.Plain) :
    ∃ found, s.sensed? id = some found ∧ found.tolerance = probe.tolerance ∧
      found.onGround = found.hit?.isSome ∧
      IsFirst found.hit? (depths position (probe.reach c.body.shape?)
        (scene.Stops id c.body.groups?)) :=
  ⟨_, sensed?_eq looking there probed placed, rfl, rfl, Scene.isFirst_castDown? plain ..⟩

/-- A character that starts inside its own loose collider is on the ground, wherever it is. -/
theorem grounded_by_itself (looking : s.scene? = some scene) (there : s.get? id = some c)
    (probed : c.body.probe? = some probe) (placed : c.body.position? = some position)
    (plain : ∀ o ∈ scene.obstacles, o.seenBy id c.body.groups? = true → o.shape.Plain)
    (nonneg : 0 ≤ probe.reach c.body.shape?)
    (inside : scene.Loose id c.body.groups? position) :
    ∃ found, s.sensed? id = some found ∧ found.onGround = true ∧ found.hit? = some 0 := by
  obtain ⟨found, sensed, -, contact, first⟩ := isFirst_sensed? looking there probed placed plain
  have start : position.lowered 0 = position := by ext <;> simp
  have hit : found.hit? = some 0 := by
    refine first.eq_some_iff.mpr ⟨⟨le_rfl, nonneg, ?_⟩, fun d later => later.1⟩
    rw [start]
    exact Scene.stops_iff.mpr (.inr inside)
  refine ⟨found, sensed, ?_, hit⟩
  rw [contact, hit]
  rfl

/-- In a scene of upright colliders, what a probe takes down is the first point of the ground or of
the own loose collider on the ray. It is the first point of the ground exactly if the ground is met
no later wherever the own collider is, as it always is if the own collider is part of a rigid body.
With a greater tolerance contact is not lost and the distance stays the same. -/
theorem finds_ground (looking : s.scene? = some scene) (there : s.get? id = some c)
    (probed : c.body.probe? = some probe) (placed : c.body.position? = some position)
    (plain : ∀ o ∈ scene.obstacles, o.seenBy id c.body.groups? = true → o.shape.Plain) :
    let reach := c.body.shape?.elim 0 Shape.bottomOffset + max probe.tolerance 0
    let ground := depths position reach (scene.Ground id c.body.groups?)
    let loose := depths position reach (scene.Loose id c.body.groups?)
    ∃ found, s.sensed? id = some found ∧ found.tolerance = probe.tolerance ∧
      found.onGround = found.hit?.isSome ∧
      IsFirst found.hit? (ground ∪ loose) ∧
      ((∀ d, found.hit? = some d ↔ IsLeast ground d) ∧ (found.onGround = true ↔ ground.Nonempty) ↔
        ∀ e ∈ loose, ∃ d ∈ ground, d ≤ e) ∧
      ∀ tolerance, probe.tolerance ≤ tolerance →
        ∃ wider, (s.tolerate id tolerance).sensed? id = some wider ∧
          (found.onGround = true → wider.onGround = true) ∧
          ∀ d, found.hit? = some d → wider.hit? = some d := by
  intro reach ground loose
  have length : probe.reach c.body.shape? = reach := probe.reach_real _
  obtain ⟨found, sensed, kept, contact, first⟩ := isFirst_sensed? looking there probed placed plain
  have parts : depths position (probe.reach c.body.shape?) (scene.Stops id c.body.groups?) =
      ground ∪ loose := by
    rw [length]
    ext d
    simp only [ground, loose, depths, Scene.stops_iff, Set.mem_union, Set.mem_ofPred_eq]
    tauto
  have both : IsFirst found.hit? (ground ∪ loose) := parts ▸ first
  refine ⟨found, sensed, kept, contact, both, ?_, fun tolerance le => ?_⟩
  · rw [← both.of_union_iff, contact]
    exact ⟨fun iffs => .of_iffs iffs.1 iffs.2, fun only =>
      ⟨fun d => only.eq_some_iff, only.isSome_iff⟩⟩
  · have probed' : c.body.probe?.map ({ · with tolerance }) = some { probe with tolerance } :=
      congrArg _ probed
    obtain ⟨wider, widely, -, contact', wide⟩ := isFirst_sensed? (s := s.tolerate id tolerance)
      looking (get?_tolerate there tolerance) probed' placed plain
    have longer : probe.reach c.body.shape? ≤
        ({ probe with tolerance } : Probe ℝ).reach c.body.shape? := by
      rw [length, Probe.reach_real]
      exact (add_le_add_iff_left _).mpr (max_le_max_right 0 le)
    refine ⟨wider, widely, fun grounded => ?_, fun d => first.longer wide longer⟩
    rw [contact] at grounded
    obtain ⟨d, hit⟩ := Option.isSome_iff_exists.mp grounded
    rw [contact', first.longer wide longer hit]
    rfl

end Exact

/-- A ball with a probe, some height above the origin. -/
def hovering {α : Type} [Scalar α] (height : α) (rigidBody? : Option RigidBody) :
    Character α (Parts α) :=
  .ofBody { Parts.empty with
    position? := some ⟨0, height, 0⟩
    probe? := some .standard
    shape? := some (.ball 0.5)
    rigidBody? }

/-- Some characters, with a scene in which their colliders are new. -/
def populated {α : Type} [Scalar α] (cs : List (Character α (Parts α))) : Space α :=
  (⟨⟨.ofList cs, .absent⟩, some .empty⟩ : Space α).sync

/-- A large floor, the top of which is at the height of the origin. -/
def floor {α : Type} [Scalar α] : Character α (Parts α) :=
  .ofBody { Parts.empty with
    position? := some ⟨0, -0.5, 0⟩
    shape? := some (.box ⟨10.0, 0.5, 10.0⟩) }

/-- A ball on a rigid body, close to the floor. The floor is met a little below the ball, also by a
ray that reaches farther. -/
theorem finds_ground_floor :
    let s : Space ℝ := populated [hovering 0.55 (some .dynamic), floor]
    ∃ found, s.sensed? 0 = some found ∧ found.onGround = true ∧ found.hit? = some 0.55 ∧
      ∃ wider, (s.tolerate 0 1).sensed? 0 = some wider ∧ wider.hit? = some 0.55 := by
  intro s
  let obstacles : List (Obstacle ℝ) := [⟨0, true, .ball 0.5, ⟨0, 0.55, 0⟩, false, .all⟩,
    ⟨1, false, .box ⟨10.0, 0.5, 10.0⟩, ⟨0, -0.5, 0⟩, false, .all⟩]
  have looking : s.scene? = some ⟨obstacles⟩ := rfl
  have plain : ∀ o ∈ obstacles, o.seenBy 0 none = true → o.shape.Plain := by
    rintro o mem seen
    rcases List.mem_pair.mp mem with rfl | rfl
    · exact absurd seen (by decide)
    · refine ⟨?_, ?_, ?_⟩ <;> norm_num
  obtain ⟨found, sensed, -, contact, -, exactly, wide⟩ :=
    finds_ground (c := hovering 0.55 (some .dynamic)) looking rfl rfl rfl plain
  have attached (q : Vec3 ℝ) : ¬ Scene.Loose ⟨obstacles⟩ 0 none q :=
    not_loose_sync (s := ⟨⟨.ofList [hovering 0.55 (some .dynamic), floor], .absent⟩, some .empty⟩)
      (c := hovering 0.55 (some .dynamic)) rfl looking rfl rfl none q
  obtain ⟨hits, -⟩ := exactly.mpr fun e ⟨_, _, loose⟩ => (attached _ loose).elim
  have hit : found.hit? = some 0.55 := by
    refine (hits _).mpr ⟨⟨?_, ?_, ?_⟩, ?_⟩
    · norm_num
    · change (0.55 : ℝ) ≤ 0.5 + max 0.1 0
      norm_num
    · refine ⟨_, .tail _ (.head _), ⟨⟨rfl, nofun⟩, by decide⟩, Shape.contains_box_iff.mpr ?_⟩
      norm_num
    · rintro t ⟨-, -, o, mem, ⟨-, foreign⟩, inside⟩
      rcases List.mem_pair.mp mem with rfl | rfl
      · exact absurd rfl foreign
      · have below := (Shape.contains_box_iff.mp inside).2.1.2
        norm_num at below ⊢
        exact below
  have greater : (Probe.standard : Probe ℝ).tolerance ≤ 1 := by
    change (0.1 : ℝ) ≤ 1
    norm_num
  obtain ⟨wider, widely, -, same⟩ := wide 1 greater
  refine ⟨found, sensed, ?_, hit, wider, widely, same _ hit⟩
  rw [contact, hit]
  rfl

/-- A ball without a rigid body, five above the floor. The ray ends long before the floor, and the
ball is on the ground all the same; in single precision as well, where the same ball on a rigid body
finds nothing. -/
theorem grounded_in_the_air :
    (let s : Space ℝ := populated [hovering 5 none, floor]
      ∃ scene found, s.scene? = some scene ∧ s.sensed? 0 = some found ∧
        found.onGround = true ∧ found.hit? = some 0 ∧
        (Probe.standard : Probe ℝ).reach (some (.ball 0.5)) = 0.6 ∧
        depths ⟨0, 5, 0⟩ 0.6 (scene.Ground 0 none) = ∅) ∧
    (populated [hovering 5 none, floor] : Space Float32).sensed? 0 = some ⟨0.1, true, some 0⟩ ∧
    (populated [hovering 5 (some .dynamic), floor] : Space Float32).sensed? 0 =
      some ⟨0.1, false, none⟩ := by
  refine ⟨?_, by decide +kernel, by decide +kernel⟩
  intro s
  let own : Obstacle ℝ := ⟨0, false, .ball 0.5, ⟨0, 5, 0⟩, false, .all⟩
  let below : Obstacle ℝ := ⟨1, false, .box ⟨10.0, 0.5, 10.0⟩, ⟨0, -0.5, 0⟩, false, .all⟩
  have looking : s.scene? = some ⟨[own, below]⟩ := rfl
  have plain : ∀ o ∈ [own, below], o.seenBy 0 none = true → o.shape.Plain := by
    rintro o mem -
    rcases List.mem_pair.mp mem with rfl | rfl
    · change (0 : ℝ) ≤ 0.5
      norm_num
    · refine ⟨?_, ?_, ?_⟩ <;> norm_num [below]
  have inside : Scene.Loose ⟨[own, below]⟩ 0 none ⟨0, 5, 0⟩ := by
    refine ⟨own, .head _, ⟨⟨rfl, nofun⟩, rfl, rfl⟩, Shape.contains_ball_iff.mpr ?_⟩
    rw [Vec3.lengthSq_eq]
    norm_num [own]
  have length : (Probe.standard : Probe ℝ).reach (some (.ball 0.5)) = 0.6 := by
    rw [Probe.reach_real]
    change (0.5 : ℝ) + max 0.1 0 = 0.6
    norm_num
  have nonneg : 0 ≤ (Probe.standard : Probe ℝ).reach (some (.ball 0.5)) := by
    rw [length]
    norm_num
  obtain ⟨found, sensed, contact, hit⟩ :=
    grounded_by_itself (c := hovering 5 none) looking rfl rfl rfl plain nonneg inside
  refine ⟨⟨[own, below]⟩, found, looking, sensed, contact, hit, length, ?_⟩
  refine Set.eq_empty_of_forall_notMem ?_
  rintro t ⟨-, in_reach, o, mem, ⟨-, foreign⟩, met⟩
  rcases List.mem_pair.mp mem with rfl | rfl
  · exact foreign rfl
  · have top := (Shape.contains_box_iff.mp met).2.1.2
    norm_num [below] at top in_reach
    linarith

end Space

end CharacterMotion.Physics
