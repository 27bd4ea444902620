import CharacterMotion.Proofs.Gate.Run

/-!
Launches and landings take turns. A gate reports a landing only while a jump is outstanding, and the
report ends the jump; it launches only when none is outstanding any more, and the launch leaves one.
So the events of a run that starts fresh are a launch, a landing, a launch and so on, and whether a
jump is outstanding is the parity of their number (`chronicle_history`).

A step goes through its landing before its launch and can report both. What a step may report is
listed once (`Leads`), and the law follows from that list alone, for whatever steps keep to it.
-/

namespace CharacterMotion

/-- What happens to a jump. -/
inductive JumpEvent where
  | launch
  | landing
  deriving DecidableEq, Repr

namespace JumpEvent

/-- The event number `k` if launches and landings take turns and a launch is the first. -/
def turn (k : Nat) : JumpEvent := if k % 2 = 0 then .launch else .landing

/-- Launches and landings take turns, beginning with a launch. -/
def Alternate (events : List JumpEvent) : Prop := events = (List.range events.length).map turn

instance (events : List JumpEvent) : Decidable (Alternate events) :=
  inferInstanceAs (Decidable (_ = _))

/-- The events of the first `n` steps, given those of each step. -/
def history (eventsAt : Nat → List JumpEvent) (n : Nat) : List JumpEvent :=
  (List.range n).flatMap eventsAt

theorem history_succ (eventsAt : Nat → List JumpEvent) (n : Nat) :
    history eventsAt (n + 1) = history eventsAt n ++ eventsAt n := by
  simp [history, List.range_succ]

/-- What a step may report, from whether a jump is outstanding before it to whether one is after. -/
inductive Leads : Bool → List JumpEvent → Bool → Prop
  | nothing (outstanding : Bool) : Leads outstanding [] outstanding
  | launch : Leads false [.launch] true
  | landing : Leads true [.landing] false
  | relaunch : Leads true [.landing, .launch] true

/-- Events that take turns, where a jump is outstanding after every other one. -/
structure Chronicle (events : List JumpEvent) (outstanding : Bool) : Prop where
  alternate : Alternate events
  parity : events.length % 2 = outstanding.toNat

theorem chronicle_nil : Chronicle [] false := ⟨rfl, rfl⟩

/-- Of events that take turns, the launches are ahead by one or not at all. -/
theorem Alternate.count_launch {events : List JumpEvent} (alternate : Alternate events) :
    events.count .launch = events.count .landing + events.length % 2 := by
  rw [alternate, List.length_map, List.length_range]
  generalize events.length = n
  induction n with
  | zero => rfl
  | succ n ih =>
      rw [List.range_succ, List.map_append, List.count_append, List.count_append, ih]
      rcases Nat.mod_two_eq_zero_or_one n with even | odd
      · simp [turn, even, Nat.add_mod]
      · simp [turn, odd, Nat.add_mod]

namespace Chronicle

variable {events more : List JumpEvent} {before after : Bool}

theorem count_launch (chronicle : Chronicle events before) :
    events.count .launch = events.count .landing + before.toNat := by
  rw [chronicle.alternate.count_launch, chronicle.parity]

/-- The event whose turn it is goes on with the chronicle. -/
theorem concat (chronicle : Chronicle events before) :
    Chronicle (events ++ [turn events.length]) !before where
  alternate := by
    have kept : events = (List.range events.length).map turn := chronicle.alternate
    simp only [Alternate, List.length_append, List.length_singleton, List.range_succ,
      List.map_append, List.map_singleton, ← kept]
  parity := by
    have parity := chronicle.parity
    rw [List.length_append, List.length_singleton]
    cases before <;> simp only [Bool.toNat_false, Bool.toNat_true, Bool.not_false,
      Bool.not_true] at parity ⊢ <;> omega

theorem turn_length (chronicle : Chronicle events before) :
    turn events.length = if before then .landing else .launch := by
  unfold turn
  rw [chronicle.parity]
  cases before <;> rfl

theorem append (chronicle : Chronicle events before) (leads : Leads before more after) :
    Chronicle (events ++ more) after := by
  have next := chronicle.concat
  rw [chronicle.turn_length] at next
  cases leads with
  | nothing => rwa [List.append_nil]
  | launch => exact next
  | landing => exact next
  | relaunch =>
      have last := next.concat
      rw [next.turn_length, List.append_assoc] at last
      exact last

end Chronicle

/-- A run of steps, each of which reports what it may, has a chronicle. -/
theorem chronicle_history (eventsAt : Nat → List JumpEvent) (outstanding : Nat → Bool)
    (start : outstanding 0 = false)
    (leads : ∀ n, Leads (outstanding n) (eventsAt n) (outstanding (n + 1))) (n : Nat) :
    Chronicle (history eventsAt n) (outstanding n) := by
  induction n with
  | zero =>
      rw [start]
      exact chronicle_nil
  | succ n ih =>
      rw [history_succ]
      exact ih.append (leads n)

end JumpEvent

namespace JumpGate

open JumpEvent (Leads)

/-- The events of a step, in the order in which it goes through them. -/
def Outcome.events (o : Outcome) : List JumpEvent :=
  (if o.landed then [.landing] else []) ++ (if o.launched then [.launch] else [])

/-- A landing is reported of an outstanding jump only, and a launch only when none is left. -/
theorem leads_events : ∀ {outstanding touches launched : Bool},
    (launched = true → (outstanding && !touches) = false) →
      Leads outstanding (Outcome.events ⟨touches && outstanding, launched⟩)
        (launched || (outstanding && !touches))
  | false, false, false, _ | false, true, false, _ => .nothing false
  | false, false, true, _ | false, true, true, _ => .launch
  | true, false, false, _ => .nothing true
  | true, false, true, allowed => nomatch allowed rfl
  | true, true, false, _ => .landing
  | true, true, true, _ => .relaunch

variable {α : Type} [Scalar α]

theorem leads_step (g : JumpGate α) (i : Input α) (cooldown : α) (rule : LandingRule) :
    Leads g.outstanding (g.step i cooldown rule).2.events
      (g.step i cooldown rule).1.outstanding := by
  have allowed : (g.step i cooldown rule).2.launched = true →
      (g.outstanding && !g.touchesDown i rule) = false := by
    intro launched
    rw [launched_step] at launched
    simp only [Bool.and_eq_true, Bool.not_eq_true'] at launched
    exact launched.2.2
  have leads := leads_events allowed
  rwa [← landed_step, ← outstanding_step] at leads

/-- The events of the first `n` steps of a run. -/
def history (g : JumpGate α) (rounds : Nat → Round α) (n : Nat) : List JumpEvent :=
  JumpEvent.history (fun k => (g.outcomeAt rounds k).events) n

theorem chronicle_history {g : JumpGate α} (start : g.outstanding = false)
    (rounds : Nat → Round α) (n : Nat) :
    JumpEvent.Chronicle (g.history rounds n) (g.before rounds n).outstanding :=
  JumpEvent.chronicle_history _ (fun n => (g.before rounds n).outstanding) start
    (fun n => (g.before rounds n).leads_step ..) n

end JumpGate

end CharacterMotion
