import CharacterMotion.Binary32.Scalar
import CharacterMotion.Proofs.Controller.Run
import CharacterMotion.Proofs.Gate.Alternation

/-!
What the log tells of jumps: a launch, a landing, a launch and so on, however frames, rules and
cooldowns change (`launches_and_landings_alternate`). The notices of a frame tell what its gate made
of it, in the order in which the gate goes through its stages, and a frame in which no time passes
tells of no jump (`jumpEvents_perform`). Orders add notices of their own, and none of these is of a
jump.
-/

namespace CharacterMotion

variable {α : Type}

/-- What a notice tells of a jump. -/
def Notice.jumpEvent? : Notice α → Option JumpEvent
  | .landed => some .landing
  | .launched _ => some .launch
  | _ => none

/-- What a frame tells of jumps, in the order of its notices. -/
def Frame.jumpEvents (f : Frame α) : List JumpEvent := f.notices.filterMap Notice.jumpEvent?

namespace Controller

theorem filterMap_jumpEvent?_changeGait (c : Controller α) (g : Gait) :
    (c.changeGait g).2.filterMap Notice.jumpEvent? = [] := by
  unfold changeGait
  split <;> rfl

theorem filterMap_jumpEvent?_take (c : Controller α) (o : Order α) :
    (c.take o).2.filterMap Notice.jumpEvent? = [] := by
  cases o with
  | gait g => exact c.filterMap_jumpEvent?_changeGait g
  | gaitIndex i =>
      simp only [take]
      cases Gait.ofIndex? i with
      | none => exact c.filterMap_jumpEvent?_changeGait default
      | some g => exact c.filterMap_jumpEvent?_changeGait g
  | direction v => rfl
  | jump => rfl

/-- Orders tell of no jump. -/
theorem filterMap_jumpEvent?_takeAll (c : Controller α) (os : List (Order α)) :
    (c.takeAll os).2.filterMap Notice.jumpEvent? = [] := by
  induction os generalizing c with
  | nil => rfl
  | cons o os ih =>
      change ((c.take o).2 ++ ((c.take o).1.takeAll os).2).filterMap Notice.jumpEvent? = []
      rw [List.filterMap_append, filterMap_jumpEvent?_take, ih, List.append_nil]

variable [Scalar α]

theorem filterMap_jumpEvent?_notices (c : Controller α) (t : Tuning α) (outcome : JumpGate.Outcome)
    (started : Bool) :
    (c.notices t outcome started).filterMap Notice.jumpEvent? = outcome.events := by
  obtain ⟨landed, launched⟩ := outcome
  cases landed <;> cases launched <;> cases started <;> rfl

theorem jumpEvents_frame (c : Controller α) (dt : α) (t : Tuning α) (r : Reading α) :
    (c.frame dt t r).jumpEvents = if 0 < dt then (c.gateStep dt t r).2.events else [] := by
  rw [Frame.jumpEvents, notices_frame, filterMap_jumpEvent?_notices]
  unfold moved
  split <;> rfl

theorem jumpEvents_advance (c : Controller α) (dt : α) (t : Tuning α) (r : Reading α) :
    (c.advance dt t r).jumpEvents = (c.frame (elapsed dt) t r).jumpEvents := by
  unfold advance elapsed
  split <;> rfl

/-- A frame tells of jumps what its gate made of it, if time passes. -/
theorem jumpEvents_perform (c : Controller α) (q : Cue α) :
    (c.perform q).jumpEvents =
      if 0 < elapsed q.dt then (c.gate.play (c.roundOf q)).2.events else [] := by
  have told : (c.perform q).jumpEvents =
      ((c.takeAll q.orders).1.advance q.dt q.tuning q.reading).jumpEvents := by
    simp only [perform, Frame.jumpEvents, List.filterMap_append, filterMap_jumpEvent?_takeAll,
      List.nil_append]
  rw [told, jumpEvents_advance, jumpEvents_frame, gateStep_told]

theorem leads_perform (c : Controller α) (q : Cue α) :
    JumpEvent.Leads c.gate.outstanding (c.perform q).jumpEvents
      (c.perform q).controller.gate.outstanding := by
  rw [jumpEvents_perform, gate_perform]
  split
  · exact c.gate.leads_step ..
  · exact .nothing _

/-- What the first `n` frames of a run tell of jumps. -/
def jumpHistory (c : Controller α) (cues : Nat → Cue α) (n : Nat) : List JumpEvent :=
  JumpEvent.history (fun k => (c.frameAt cues k).jumpEvents) n

theorem chronicle_jumpHistory {c : Controller α} (start : c.gate.outstanding = false)
    (cues : Nat → Cue α) (n : Nat) :
    JumpEvent.Chronicle (c.jumpHistory cues n) (c.before cues n).gate.outstanding :=
  JumpEvent.chronicle_history _ (fun n => (c.before cues n).gate.outstanding) start
    (fun n => (c.before cues n).leads_perform _) n

end Controller

/-- Launches and landings take turns, beginning with a launch, and the launches are ahead by one
exactly while a jump is outstanding: in the runs of a fresh gate, whatever its rounds, and in what
the notices of a controller at rest tell, whatever it is given. A frame in which no time passes
tells of no jump. -/
theorem launches_and_landings_alternate [Scalar α] :
    (∀ (rounds : Nat → JumpGate.Round α) (n : Nat),
      let events := JumpGate.fresh.history rounds n
      JumpEvent.Alternate events ∧ events.count .launch =
        events.count .landing + (JumpGate.fresh.before rounds n).outstanding.toNat) ∧
    ∀ (heading : Heading α) (gait : Gait) (cues : Nat → Cue α) (n : Nat),
      let c := Controller.resting heading gait
      let events := c.jumpHistory cues n
      JumpEvent.Alternate events ∧ events.count .launch =
        events.count .landing + (c.before cues n).gate.outstanding.toNat ∧
      (¬ 0 < elapsed (cues n).dt → (c.frameAt cues n).jumpEvents = []) := by
  refine ⟨fun rounds n => ?_, fun heading gait cues n => ?_⟩
  · have chronicle := JumpGate.chronicle_history (g := .fresh) rfl rounds n
    exact ⟨chronicle.alternate, chronicle.count_launch⟩
  · intro c events
    have chronicle := Controller.chronicle_jumpHistory (c := c) rfl cues n
    refine ⟨chronicle.alternate, chronicle.count_launch, fun still => ?_⟩
    exact (c.before cues n).jumpEvents_perform (cues n) |>.trans (if_neg still)

/-- A jump is requested all the time, under either rule in turn. Contact is missing in one frame,
and another one has a length that is no number. -/
def skip (n : Nat) : Cue Float32 :=
  ⟨[.jump], if n = 2 then 0.0 / 0.0 else 0.25,
    { Tuning.standard with
      landingRule := if n % 2 = 0 then .groundedDescending else .contactEdge }, ⟨n != 1, none⟩⟩

theorem launches_and_landings_alternate_skip :
    let c : Controller Float32 := .fresh
    c.jumpHistory skip 5 = [.launch, .landing, .launch] ∧
      JumpEvent.Alternate (c.jumpHistory skip 5) ∧
      ¬ 0 < elapsed (skip 2).dt ∧ (c.frameAt skip 2).jumpEvents = [] := by
  intro c
  have alternates := (launches_and_landings_alternate (α := Float32)).2 .initial default skip
  have still : ¬ 0 < elapsed (skip 2).dt := by decide +kernel
  exact ⟨by decide +kernel, (alternates 5).1, still, (alternates 2).2.2 still⟩

end CharacterMotion
