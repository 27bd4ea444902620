import CharacterMotion.Proofs.Controller.Components
import CharacterMotion.World.Character
import Mathlib.Data.List.Induction

/-!
What an intent comes to want. Between two steps of a world an intent is written to, and what it
wants may be taken out of it (`Intent.Deed`). Of the deeds that concern a jump, or the gait, the
last one decides: a jump is wanted if one stands written that nothing has withdrawn since
(`jump_undergoAll`), and so is a gait (`gait?_undergoAll`). The direction alone adds up, deed by
deed (`direction_undergoAll`).

Passing the intent on gives the controller all of it at once (`takeAll_ordersOf`), and leaves the
direction behind and nothing else (`forward_of`).
-/

namespace CharacterMotion

/-- An event stands in a history if it is there and nothing after it withdraws it. -/
def Stands {ι : Type} (withdraws : ι → Bool) (events : List ι) (e : ι) : Prop :=
  ∃ before after, events = before ++ e :: after ∧ ∀ later ∈ after, withdraws later = false

section

variable {σ ι : Type} {withdraws : ι → Bool} {e : ι}

theorem not_stands_nil : ¬ Stands withdraws [] e := by
  rintro ⟨before, after, split, -⟩
  cases before <;> cases split

theorem stands_concat_iff {events : List ι} {last : ι} :
    Stands withdraws (events ++ [last]) e ↔
      last = e ∨ (withdraws last = false ∧ Stands withdraws events e) := by
  constructor
  · rintro ⟨before, after, split, kept⟩
    rcases after.eq_nil_or_concat with rfl | ⟨after, x, rfl⟩
    · exact .inl (List.head_eq_of_cons_eq (List.append_inj' split rfl).2)
    · right
      rw [List.concat_eq_append, ← List.cons_append, ← List.append_assoc] at split
      obtain ⟨same, single⟩ := List.append_inj' split rfl
      obtain rfl : last = x := List.head_eq_of_cons_eq single
      rw [List.concat_eq_append] at kept
      refine ⟨kept last (List.mem_append_right _ List.mem_cons_self), before, after, same, ?_⟩
      intro later mem
      exact kept later (List.mem_append_left _ mem)
  · rintro (rfl | ⟨kept, before, after, rfl, none_after⟩)
    · exact ⟨events, [], rfl, fun _ mem => nomatch mem⟩
    · refine ⟨before, after ++ [last], by simp, ?_⟩
      intro later mem
      rcases List.mem_append.mp mem with mem | mem
      · exact none_after later mem
      · rwa [List.mem_singleton.mp mem]

/-- What one event alone brings about, and withdrawing events alone end, holds after a history in
which such an event stands, and after one without withdrawal if it held before. -/
theorem foldl_iff_stands {step : σ → ι → σ} (holds : σ → Prop)
    (set : ∀ s i, holds (step s i) ↔ i = e ∨ (withdraws i = false ∧ holds s)) (s : σ)
    (events : List ι) :
    holds (events.foldl step s) ↔
      Stands withdraws events e ∨ ((∀ i ∈ events, withdraws i = false) ∧ holds s) := by
  induction events using List.reverseRecOn with
  | nil => simp [not_stands_nil]
  | append_singleton events last ih =>
      rw [List.foldl_append, List.foldl_cons, List.foldl_nil, set, ih, stands_concat_iff]
      simp only [List.mem_append, List.mem_singleton]
      constructor
      · rintro (same | ⟨kept, stands | ⟨none_before, held⟩⟩)
        · exact .inl (.inl same)
        · exact .inl (.inr ⟨kept, stands⟩)
        · refine .inr ⟨?_, held⟩
          rintro i (mem | rfl)
          · exact none_before i mem
          · exact kept
      · rintro ((same | ⟨kept, stands⟩) | ⟨none_withdraws, held⟩)
        · exact .inl same
        · exact .inr ⟨kept, .inl stands⟩
        · exact .inr ⟨none_withdraws last (.inr rfl),
            .inr ⟨fun i mem => none_withdraws i (.inl mem), held⟩⟩

end

/-! ### Deeds -/

namespace Intent

variable {α : Type}

/-- What happens to an intent between two steps. -/
inductive Deed (α : Type) where
  | write (w : Write α)
  | takeJump
  | takeGait
  deriving DecidableEq, Repr

namespace Deed

def jump : Deed α := .write .jump

def gait (g : Gait) : Deed α := .write (.gait g)

/-- Whether a jump that was wanted before is wanted no more. -/
def withdrawsJump : Deed α → Bool
  | .write .clear => true
  | .takeJump => true
  | _ => false

/-- Whether a gait that was wanted before is wanted no more, be it that another one is. -/
def withdrawsGait : Deed α → Bool
  | .write .clear => true
  | .write (.gait _) => true
  | .takeGait => true
  | _ => false

variable [Scalar α]

/-- The held direction after a deed. -/
def redirect (v : Vec3 α) : Deed α → Vec3 α
  | .write .clear => 0
  | .write (.setDirection u) => u
  | .write (.addDirection u) => v + u
  | .write .clearDirection => 0
  | _ => v

end Deed

variable [Scalar α]

def undergo (i : Intent α) : Deed α → Intent α
  | .write w => i.write w
  | .takeJump => i.takeJump.2
  | .takeGait => i.takeGait.2

def undergoAll (i : Intent α) (deeds : List (Deed α)) : Intent α := deeds.foldl undergo i

theorem direction_undergo (i : Intent α) (d : Deed α) :
    (i.undergo d).direction = Deed.redirect i.direction d := by
  cases d with
  | write w => cases w <;> rfl
  | takeJump => rfl
  | takeGait => rfl

theorem direction_undergoAll (i : Intent α) (deeds : List (Deed α)) :
    (i.undergoAll deeds).direction = deeds.foldl Deed.redirect i.direction := by
  induction deeds generalizing i with
  | nil => rfl
  | cons d deeds ih =>
      rw [List.foldl_cons, ← direction_undergo]
      exact ih (i.undergo d)

theorem jump_undergo (i : Intent α) (d : Deed α) :
    (i.undergo d).jump = true ↔ d = .jump ∨ (d.withdrawsJump = false ∧ i.jump = true) := by
  cases d with
  | write w => cases w <;> simp [undergo, write, Deed.jump, Deed.withdrawsJump, empty]
  | takeJump => simp [undergo, takeJump, Deed.jump, Deed.withdrawsJump]
  | takeGait => simp [undergo, takeGait, Deed.jump, Deed.withdrawsJump]

theorem gait?_undergo (g : Gait) (i : Intent α) (d : Deed α) :
    (i.undergo d).gait? = some g ↔
      d = .gait g ∨ (d.withdrawsGait = false ∧ i.gait? = some g) := by
  cases d with
  | write w => cases w <;> simp [undergo, write, Deed.gait, Deed.withdrawsGait, empty]
  | takeJump => simp [undergo, takeJump, Deed.gait, Deed.withdrawsGait]
  | takeGait => simp [undergo, takeGait, Deed.gait, Deed.withdrawsGait]

/-- A jump is wanted in the end if a request for one stands, however often it was made. -/
theorem jump_undergoAll {i : Intent α} (idle : i.jump = false) (deeds : List (Deed α)) :
    (i.undergoAll deeds).jump = true ↔ Stands Deed.withdrawsJump deeds .jump := by
  refine (foldl_iff_stands (fun i => i.jump = true) jump_undergo i deeds).trans ?_
  simp [idle]

/-- The gait that is wanted in the end is the one of the request that stands. -/
theorem gait?_undergoAll {i : Intent α} (idle : i.gait? = none) (deeds : List (Deed α)) (g : Gait) :
    (i.undergoAll deeds).gait? = some g ↔ Stands Deed.withdrawsGait deeds (.gait g) := by
  refine (foldl_iff_stands (fun i => i.gait? = some g) (gait?_undergo g) i deeds).trans ?_
  simp [idle]

end Intent

/-! ### Passing an intent on -/

variable {α : Type} [Scalar α]

/-- A controller that has been told an intent: the wanted gait if there is one, the held direction
unless it is zero, and a jump if one is wanted. -/
theorem Controller.takeAll_ordersOf (k : Controller α) (i : Intent α) :
    (k.takeAll (Character.ordersOf i)).1 = { k with
      gait := i.gait?.getD k.gait
      direction := if i.direction.isZero then k.direction else i.direction
      jumpRequested := k.jumpRequested || i.jump } := by
  obtain ⟨direction, jump, gait?⟩ := i
  rw [takeAll_eq_fold]
  cases gait? <;> cases zero : direction.isZero <;> cases jump <;>
    simp [Character.ordersOf, Order.lastGait, Order.lastDirection, Order.gait?, Order.direction?,
      Order.isJump, zero]

namespace Character

variable {β : Type}

theorem countP_isJump_ordersOf (i : Intent α) :
    (ordersOf i).countP Order.isJump = i.jump.toNat := by
  obtain ⟨direction, jump, gait?⟩ := i
  cases gait? <;> cases zero : direction.isZero <;> cases jump <;>
    simp [ordersOf, Order.isJump, zero]

theorem forward_of {c : Character α β} {k : Controller α} {i : Intent α}
    (owned : c.controller? = some k) (intended : c.intent? = some i) :
    c.forward.1 = { c with
      controller? := some (k.takeAll (ordersOf i)).1
      intent? := some { i with jump := false, gait? := none } } := by
  unfold forward
  rw [intended, owned]
  rfl

end Character

end CharacterMotion
