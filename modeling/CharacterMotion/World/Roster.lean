/-!
A finite collection of things with distinct numbers, in some order of visiting.

What a roster holds is seen through `get?`; the equations below say what each operation does to it.
The order in which `visit` goes through the roster is the order of its entries, and it shows in the
collected reports only.
-/

namespace CharacterMotion

structure Roster (β : Type) where
  entries : List (Nat × β)
  distinct : (entries.map Prod.fst).Nodup

namespace Roster

variable {β γ ν : Type}

/-- Numbers the things of a list from zero. -/
def ofList (bs : List β) : Roster β where
  entries := bs.zipIdx.map fun p => (p.2, p.1)
  distinct := by
    have : (bs.zipIdx.map fun p => (p.2, p.1)).map Prod.fst = List.range' 0 bs.length := by
      rw [List.map_map, ← List.zipIdx_map_snd 0 bs]
      rfl
    rw [this]
    exact List.nodup_range'

instance : Inhabited (Roster β) := ⟨ofList []⟩

def get? (r : Roster β) (id : Nat) : Option β := r.entries.lookup id

/-- Changes every thing, by a rule that may look at its number. -/
def mapIdx (r : Roster β) (f : Nat → β → γ) : Roster γ where
  entries := r.entries.map fun p => (p.1, f p.1 p.2)
  distinct := by
    have : (r.entries.map fun p => (p.1, f p.1 p.2)).map Prod.fst = r.entries.map Prod.fst := by
      rw [List.map_map]
      rfl
    rw [this]
    exact r.distinct

def map (r : Roster β) (f : β → γ) : Roster γ := r.mapIdx fun _ => f

/-- Changes one thing, if it is there. -/
def modify (r : Roster β) (id : Nat) (f : β → β) : Roster β :=
  r.mapIdx fun i b => if i = id then f b else b

def erase (r : Roster β) (id : Nat) : Roster β where
  entries := r.entries.filter fun p => p.1 != id
  distinct := r.distinct.sublist (List.filter_sublist.map _)

/-- Visits everything once, collecting what the visits report. -/
def visit (r : Roster β) (f : β → β × List ν) : Roster β × List ν :=
  (r.map fun b => (f b).1, r.entries.flatMap fun p => (f p.2).2)

/-! ### What an operation does to the contents -/

theorem get?_mapIdx (r : Roster β) (f : Nat → β → γ) (id : Nat) :
    (r.mapIdx f).get? id = (r.get? id).map (f id) := by
  simp only [get?, mapIdx]
  induction r.entries with
  | nil => rfl
  | cons p ps ih =>
      obtain ⟨i, b⟩ := p
      by_cases h : id = i
      · simp [h]
      · simp [List.lookup_cons, beq_false_of_ne h, ih]

@[simp] theorem get?_map (r : Roster β) (f : β → γ) (id : Nat) :
    (r.map f).get? id = (r.get? id).map f :=
  r.get?_mapIdx (fun _ => f) id

theorem get?_modify (r : Roster β) (id other : Nat) (f : β → β) :
    (r.modify id f).get? other = if other = id then (r.get? other).map f else r.get? other := by
  rw [modify, get?_mapIdx]
  by_cases h : other = id
  · simp [h]
  · simp [h]

theorem get?_erase (r : Roster β) (id other : Nat) :
    (r.erase id).get? other = if other = id then none else r.get? other := by
  simp only [get?, erase]
  induction r.entries with
  | nil => simp
  | cons p ps ih =>
      obtain ⟨i, b⟩ := p
      by_cases hi : i = id
      · rw [List.filter_cons_of_neg (by simp [hi]), ih]
        by_cases ho : other = id
        · simp [ho]
        · simp [ho, List.lookup_cons, beq_false_of_ne fun h => ho (h.trans hi)]
      · rw [List.filter_cons_of_pos (by simp [hi])]
        by_cases ho : other = i
        · simp [ho, hi]
        · simp [List.lookup_cons, beq_false_of_ne ho, ih]

end Roster

end CharacterMotion
