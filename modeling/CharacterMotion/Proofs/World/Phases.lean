import CharacterMotion.World.Step

/-!
What the phases of a step do to one character. Each phase changes every character by a rule that
looks at that character alone (`get?_forwardIntents`, `get?_updateControllers`,
`get?_syncMarkers`), although two of them first make a list of what is to be done and then work
through it, reading and writing the whole world.

The argument for both lists is the same: they are drawn from a roster, so no character is on a list
twice, and what is done for one entry touches the character of that entry only
(`get?_foldl_plan`).
-/

namespace CharacterMotion

/-- Running phases in order is folding over them. -/
theorem Phase.fst_sequence {σ ν : Type} (fs : List (Phase σ ν)) (s : σ) :
    (Phase.sequence fs s).1 = fs.foldl (fun s f => (f s).1) s := by
  induction fs generalizing s with
  | nil => rfl
  | cons f fs ih => exact ih (f s).1

/-! ### What is in a roster -/

namespace Roster

variable {β : Type}

theorem get?_eq_some_iff (r : Roster β) {id : Nat} {b : β} :
    r.get? id = some b ↔ (id, b) ∈ r.entries := by
  obtain ⟨entries, distinct⟩ := r
  unfold get?
  dsimp only
  induction entries with
  | nil => simp
  | cons p ps ih =>
      obtain ⟨i, x⟩ := p
      rw [List.map_cons, List.nodup_cons] at distinct
      by_cases same : id = i
      · subst same
        have absent : (id, b) ∉ ps := fun mem => distinct.1 (List.mem_map.mpr ⟨_, mem, rfl⟩)
        simp [absent, eq_comm]
      · rw [List.lookup_cons, beq_false_of_ne same, ih distinct.2]
        simp [same]

end Roster

namespace World

variable {α β : Type}

theorem get?_modify (w : World α β) (id other : Nat) (f : Character α β → Character α β) :
    (w.modify id f).get? other = if other = id then (w.get? other).map f else w.get? other :=
  w.roster.get?_modify id other f

/-! ### Working through a list -/

section Plan

variable {δ : Type} {key : δ → Nat} {change : δ → Character α β → Character α β}
  {act : World α β → δ → World α β}

/-- Acting for one entry of a list changes the character of that entry. -/
def ActsOn (key : δ → Nat) (change : δ → Character α β → Character α β)
    (act : World α β → δ → World α β) : Prop :=
  ∀ w d id, (act w d).get? id = if id = key d then (w.get? id).map (change d) else w.get? id

theorem get?_foldl_of_ne (acts : ActsOn key change act) {ds : List δ} {id : Nat}
    (other : ∀ d ∈ ds, id ≠ key d) (w : World α β) : (ds.foldl act w).get? id = w.get? id := by
  induction ds generalizing w with
  | nil => rfl
  | cons d ds ih =>
      rw [List.foldl_cons, ih fun d mem => other d (List.mem_cons_of_mem _ mem), acts,
        if_neg (other d List.mem_cons_self)]

theorem get?_foldl_of_mem (acts : ActsOn key change act) {ds : List δ}
    (distinct : (ds.map key).Nodup) {d : δ} (mem : d ∈ ds) (w : World α β) :
    (ds.foldl act w).get? (key d) = (w.get? (key d)).map (change d) := by
  induction ds generalizing w with
  | nil => cases mem
  | cons e es ih =>
      rw [List.map_cons, List.nodup_cons] at distinct
      rw [List.foldl_cons]
      rcases List.mem_cons.mp mem with rfl | later
      · have other : ∀ e ∈ es, key d ≠ key e :=
          fun e mem same => distinct.1 (same ▸ List.mem_map_of_mem mem)
        rw [get?_foldl_of_ne acts other, acts, if_pos rfl]
      · have other : key d ≠ key e :=
          fun same => distinct.1 (same ▸ List.mem_map_of_mem later)
        rw [ih distinct.2 later, acts, if_neg other]

theorem map_key_sublist {plan : Nat → Character α β → Option δ}
    (keyed : ∀ id c d, plan id c = some d → key d = id) (entries : List (Nat × Character α β)) :
    ((entries.filterMap fun p => plan p.1 p.2).map key).Sublist (entries.map Prod.fst) := by
  induction entries with
  | nil => exact .slnil
  | cons p ps ih =>
      rw [List.filterMap_cons]
      cases planned : plan p.1 p.2 with
      | none => exact ih.cons p.1
      | some d =>
          dsimp only
          rw [List.map_cons, List.map_cons, keyed _ _ _ planned]
          exact ih.cons_cons p.1

theorem clock_foldl (keeps : ∀ w d, (act w d).clock = w.clock) (ds : List δ) (w : World α β) :
    (ds.foldl act w).clock = w.clock := by
  induction ds generalizing w with
  | nil => rfl
  | cons d ds ih => exact (ih (act w d)).trans (keeps w d)

/-- A list that is drawn from the roster of a world, with at most one entry for each character, does
to a character what its own entry says, if it has one. -/
theorem get?_foldl_plan (acts : ActsOn key change act)
    (plan : Nat → Character α β → Option δ) (keyed : ∀ id c d, plan id c = some d → key d = id)
    (w : World α β) (id : Nat) :
    ((w.roster.entries.filterMap fun p => plan p.1 p.2).foldl act w).get? id =
      (w.get? id).map fun c => (plan id c).elim c (change · c) := by
  have distinct : ((w.roster.entries.filterMap fun p => plan p.1 p.2).map key).Nodup :=
    (map_key_sublist keyed w.roster.entries).nodup w.roster.distinct
  have found {d : δ} (mem : d ∈ w.roster.entries.filterMap fun p => plan p.1 p.2) :
      ∃ c, w.get? (key d) = some c ∧ plan (key d) c = some d := by
    obtain ⟨⟨i, c⟩, entry, planned⟩ := List.mem_filterMap.mp mem
    obtain rfl := keyed i c d planned
    exact ⟨c, w.roster.get?_eq_some_iff.mpr entry, planned⟩
  cases there : w.get? id with
  | none =>
      refine (get?_foldl_of_ne acts ?_ w).trans there
      rintro d mem rfl
      obtain ⟨c, some_c, -⟩ := found mem
      rw [there] at some_c
      cases some_c
  | some c =>
      cases planned : plan id c with
      | none =>
          rw [get?_foldl_of_ne acts ?_ w, there]
          · simp [planned]
          · rintro d mem rfl
            obtain ⟨c', some_c, planned'⟩ := found mem
            rw [there] at some_c
            cases some_c
            rw [planned] at planned'
            cases planned'
      | some d =>
          have mem : d ∈ w.roster.entries.filterMap fun p => plan p.1 p.2 :=
            List.mem_filterMap.mpr ⟨(id, c), w.roster.get?_eq_some_iff.mp there, planned⟩
          obtain rfl := keyed id c d planned
          rw [get?_foldl_of_mem acts distinct mem, there]
          simp [planned]

end Plan

/-! ### Intents -/

theorem get?_forwardIntents [Scalar α] (w : World α β) (id : Nat) :
    (forwardIntents w).1.get? id = (w.get? id).map fun c => c.forward.1 :=
  w.roster.get?_map _ id

/-! ### Controllers -/

end World

namespace Character

variable {α β : Type} [Scalar α] [Body α β]

/-- Runs a controller on a character and its body, and stores it if the character has one. -/
def runWith (c : Character α β) (dt : α) (tuning : Tuning α) (controller : Controller α) :
    Character α β :=
  let frame := controller.advance dt tuning c.reading
  (frame.commands.foldl obey c).store frame.controller

end Character

namespace World

variable {α β : Type}

theorem get?_obeyAll [Body α β] (w : World α β) (id other : Nat) (commands : List (Command α)) :
    (w.obeyAll id commands).get? other =
      if other = id then (w.get? other).map (commands.foldl Character.obey) else w.get? other := by
  unfold obeyAll
  induction commands generalizing w with
  | nil => simp
  | cons command commands ih =>
      rw [List.foldl_cons, ih, get?_modify]
      split
      · rw [Option.map_map]
        rfl
      · rfl

theorem get?_updateOne [Scalar α] [Body α β] (dt : α) (w : World α β) (d : Due α) (id : Nat) :
    (updateOne dt d w).1.get? id =
      if id = d.id then (w.get? id).map (·.runWith dt d.tuning d.controller) else w.get? id := by
  unfold updateOne runOn
  dsimp only
  rw [get?_modify, get?_obeyAll]
  split
  · rename_i same
    subst same
    unfold reading
    cases w.get? d.id <;> rfl
  · rfl

theorem get?_updateControllers [Scalar α] [Body α β] (w : World α β) (id : Nat) :
    (updateControllers w).1.get? id =
      (w.get? id).map fun c => c.controller?.elim c
        (c.runWith w.clock.stepLength (c.tuning?.getD .standard)) := by
  unfold updateControllers due
  rw [Phase.fst_sequence, List.foldl_map]
  refine (get?_foldl_plan (get?_updateOne w.clock.stepLength) (fun id c => c.controller?.map
    fun controller => ⟨id, c.tuning?.getD .standard, controller⟩) ?_ w id).trans ?_
  · rintro id c d planned
    obtain ⟨controller, -, rfl⟩ := Option.map_eq_some_iff.mp planned
    rfl
  · congr 1
    funext c
    cases c.controller? <;> rfl

/-! ### Markers -/

theorem get?_syncMarkers (w : World α β) (id : Nat) :
    (syncMarkers w).1.get? id = (w.get? id).map fun c => c.markerChange?.elim c c.mark := by
  have acts : ActsOn Prod.fst (fun p c => c.mark p.2)
      (fun (w : World α β) p => w.modify p.1 (·.mark p.2)) :=
    fun w p id => w.get?_modify p.1 id _
  refine (get?_foldl_plan acts (fun id c => c.markerChange?.map fun change => (id, change))
    ?_ w id).trans ?_
  · rintro id c d planned
    obtain ⟨change, -, rfl⟩ := Option.map_eq_some_iff.mp planned
    rfl
  · congr 1
    funext c
    cases c.markerChange? <;> rfl

/-! ### The step -/

theorem tick_eq [Scalar α] [Body α β] (w : World α β) :
    (tick w).1 = (syncMarkers (updateControllers (forwardIntents w).1).1).1 := by
  rw [tick, Phase.fst_sequence]
  rfl

theorem clock_updateOne [Scalar α] [Body α β] (dt : α) (w : World α β) (d : Due α) :
    (updateOne dt d w).1.clock = w.clock := by
  change (List.foldl _ w _).clock = w.clock
  refine clock_foldl ?_ ..
  exact fun _ _ => rfl

theorem clock_tick [Scalar α] [Body α β] (w : World α β) : (tick w).1.clock = w.clock := by
  have updated (w : World α β) : (updateControllers w).1.clock = w.clock := by
    unfold updateControllers
    rw [Phase.fst_sequence, List.foldl_map]
    exact clock_foldl (clock_updateOne _) ..
  rw [tick_eq]
  refine Eq.trans ?_ (updated (forwardIntents w).1)
  refine clock_foldl ?_ ..
  exact fun _ _ => rfl

end World

end CharacterMotion
