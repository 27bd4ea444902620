import CharacterMotion.Binary32.Scalar
import CharacterMotion.Proofs.World.Phases
import Mathlib.Logic.Function.Iterate

/-!
Steps of a world, character by character. After any number of steps every character is what the
same number of its own steps make of it (`get?_ticks`). A step of a character (`stepAlone`) looks
at nothing but the character and the length of the step, so that it does not matter who else is
in the world, in what state they are, and in which order they are visited.
-/

namespace CharacterMotion

variable {α β : Type}

/-- Whether a command concerns the animation and not the body. -/
def Command.isClip : Command α → Bool
  | .setClip _ => true
  | _ => false

namespace Controller

variable [Scalar α]

/-- A frame gives commands to the body, and then shows its clip. -/
theorem commands_frame (c : Controller α) (dt : α) (t : Tuning α) (r : Reading α) :
    ∃ bodily : List (Command α), (∀ command ∈ bodily, command.isClip = false) ∧
      (c.frame dt t r).commands = bodily ++ [.setClip (c.frame dt t r).controller.clip] := by
  refine ⟨_, ?_, rfl⟩
  intro command mem
  rcases List.mem_cons.mp mem with rfl | mem
  · rfl
  rcases List.mem_cons.mp mem with rfl | mem
  · split <;> rfl
  · split at mem
    · rw [List.mem_singleton.mp mem]
      rfl
    · cases mem

theorem commands_advance (c : Controller α) (dt : α) (t : Tuning α) (r : Reading α) :
    ∃ bodily : List (Command α), (∀ command ∈ bodily, command.isClip = false) ∧
      (c.advance dt t r).commands = bodily ++ [.setClip (c.advance dt t r).controller.clip] := by
  unfold advance
  split
  · exact c.commands_frame dt t r
  · exact c.commands_frame 0 t r

end Controller

namespace Character

/-- Passing the intent on concerns the intent, and the controller if there is one. -/
theorem forward_eq [Scalar α] (c : Character α β) : ∃ controller? intent?,
    c.forward.1 = { c with controller?, intent? } ∧ controller?.isSome = c.controller?.isSome := by
  unfold forward
  split
  · rename_i owned
    exact ⟨_, _, rfl, owned ▸ rfl⟩
  · exact ⟨c.controller?, c.intent?, rfl, rfl⟩

theorem markerChange?_eq (c : Character α β) : ∃ grounded airborne,
    c.markerChange?.elim c c.mark = { c with grounded, airborne } := by
  cases c.markerChange? with
  | none => exact ⟨c.grounded, c.airborne, rfl⟩
  | some change =>
      cases change with
      | touchDown => exact ⟨true, false, rfl⟩
      | takeOff => exact ⟨false, true, rfl⟩

variable [Body α β]

theorem foldl_obey_of_bodily {commands : List (Command α)}
    (bodily : ∀ command ∈ commands, command.isClip = false) (c : Character α β) :
    commands.foldl obey c = { c with body := commands.foldl Body.obey c.body } := by
  induction commands generalizing c with
  | nil => rfl
  | cons command commands ih =>
      have first : c.obey command = { c with body := Body.obey c.body command } := by
        cases command with
        | setClip clip => cases bodily _ List.mem_cons_self
        | _ => rfl
      rw [List.foldl_cons, first, ih fun command mem => bodily command (List.mem_cons_of_mem _ mem)]
      rfl

variable [Scalar α]

/-- One frame of a controller on the own body: the controller is stored, the clip goes to the
animation, and all other commands go to the body in their order. -/
def runAlone (c : Character α β) (dt : α) (controller : Controller α) : Character α β :=
  let frame := controller.advance dt (c.tuning?.getD .standard) c.reading
  { c with
    controller? := some frame.controller
    animation? := c.animation?.map (·.display frame.controller.clip)
    body := (frame.commands.filter (!·.isClip)).foldl Body.obey c.body }

/-- One step of a character on its own: the intent is passed on, the controller runs, and the
markers follow. -/
def stepAlone (dt : α) (c : Character α β) : Character α β :=
  let told := c.forward.1
  let run := told.controller?.elim told (told.runAlone dt)
  run.markerChange?.elim run run.mark

theorem runWith_eq_runAlone {c : Character α β} {controller : Controller α}
    (owned : c.controller? = some controller) (dt : α) :
    c.runWith dt (c.tuning?.getD .standard) controller = c.runAlone dt controller := by
  obtain ⟨bodily, concerns, commands⟩ :=
    controller.commands_advance dt (c.tuning?.getD .standard) c.reading
  have filtered : bodily.filter (!·.isClip) = bodily :=
    List.filter_eq_self.mpr fun command mem => by rw [concerns command mem]; rfl
  unfold runWith runAlone
  dsimp only
  rw [commands, List.foldl_append, foldl_obey_of_bodily concerns, List.filter_append, filtered]
  simp [obey, store, owned, Command.isClip]

theorem stepAlone_of_no_controller {c : Character α β} (dt : α) (absent : c.controller? = none) :
    c.stepAlone dt = c := by
  have told : c.forward.1 = c := by
    unfold forward
    rw [absent]
    cases c.intent? <;> rfl
  unfold stepAlone
  simp only [told, absent, Option.elim_none, markerChange?]

/-- A step of a character with a controller, by its parts: what the frame of the controller leaves,
once it has been told the intent. -/
theorem stepAlone_of_told {c : Character α β} {heard : Controller α}
    (told : c.forward.1.controller? = some heard) (dt : α) :
    let frame := heard.advance dt (c.tuning?.getD .standard) c.reading
    ∃ grounded airborne, c.stepAlone dt = { c with
      controller? := some frame.controller
      intent? := c.forward.1.intent?
      animation? := c.animation?.map (·.display frame.controller.clip)
      body := (frame.commands.filter (!·.isClip)).foldl Body.obey c.body
      grounded, airborne } := by
  intro frame
  have ran : c.forward.1.controller?.elim c.forward.1 (c.forward.1.runAlone dt) =
      c.forward.1.runAlone dt heard := by
    rw [told]
    rfl
  obtain ⟨grounded, airborne, marks⟩ := (c.forward.1.runAlone dt heard).markerChange?_eq
  obtain ⟨controller?, intent?, forwarded, -⟩ := c.forward_eq
  refine ⟨grounded, airborne, ?_⟩
  unfold stepAlone
  dsimp only
  rw [ran, marks, forwarded]
  rfl

end Character

namespace World

variable [Scalar α] [Body α β]

theorem get?_tick (w : World α β) (id : Nat) :
    (tick w).1.get? id = (w.get? id).map (Character.stepAlone w.clock.stepLength) := by
  rw [tick_eq, get?_syncMarkers, get?_updateControllers, get?_forwardIntents, Option.map_map,
    Option.map_map]
  congr 1
  funext c
  unfold Character.stepAlone
  have ran : c.forward.1.controller?.elim c.forward.1
      (c.forward.1.runWith w.clock.stepLength (c.forward.1.tuning?.getD .standard)) =
      c.forward.1.controller?.elim c.forward.1 (c.forward.1.runAlone w.clock.stepLength) := by
    cases owned : c.forward.1.controller? with
    | none => rfl
    | some controller => exact Character.runWith_eq_runAlone owned _
  dsimp only [Function.comp]
  rw [← ran]
  rfl

/-- The world after a number of steps. -/
def ticks (w : World α β) (n : Nat) : World α β := (fun w => (tick w).1)^[n] w

theorem clock_ticks (w : World α β) (n : Nat) : (w.ticks n).clock = w.clock := by
  induction n with
  | zero => rfl
  | succ n ih =>
      rw [ticks, Function.iterate_succ_apply', clock_tick]
      exact ih

theorem get?_ticks_eq (w : World α β) (n id : Nat) :
    (w.ticks n).get? id = (w.get? id).map (Character.stepAlone w.clock.stepLength)^[n] := by
  induction n with
  | zero => exact Option.map_id'.symm
  | succ n ih =>
      have again : w.ticks (n + 1) = (tick (w.ticks n)).1 := Function.iterate_succ_apply' ..
      rw [again, get?_tick, clock_ticks, ih, Option.map_map, Function.iterate_succ']

/-- Steps of a world are steps of its characters, each on its own. A character without a controller
is left as it is, and what becomes of any other does not depend on the rest of the world. -/
theorem get?_ticks (w : World α β) (n id : Nat) :
    (w.ticks n).get? id = (w.get? id).map (Character.stepAlone w.clock.stepLength)^[n] ∧
    (∀ c, w.get? id = some c → c.controller? = none → (w.ticks n).get? id = some c) ∧
    ∀ w' : World α β, (w'.clock.stepLength : α) = w.clock.stepLength → w'.get? id = w.get? id →
      (w'.ticks n).get? id = (w.ticks n).get? id := by
  refine ⟨w.get?_ticks_eq n id, fun c there absent => ?_, fun w' step same => ?_⟩
  · rw [get?_ticks_eq, there, Option.map_some,
      Function.iterate_fixed (Character.stepAlone_of_no_controller _ absent)]
  · rw [get?_ticks_eq, get?_ticks_eq, step, same]

/-- A character that is to walk forward and to jump. -/
def walker : Character Float32 (Puppet Float32) :=
  { Character.ofBody ⟨true, none, []⟩ with
    controller? := some .fresh
    intent? := some ⟨.forward, true, some .walk⟩
    animation? := some (.new .idle) }

/-- A character that nothing controls. -/
def bystander : Character Float32 (Puppet Float32) :=
  { Character.ofBody ⟨false, some .up, []⟩ with intent? := some ⟨.right, true, none⟩ }

/-- In three steps the walker takes the gait that it is told to and launches, and its body gets three
commands a step; the body goes on reporting contact, so the walker is marked as standing. The
bystander does not change, and it makes no difference whom they are among. -/
theorem get?_ticks_walker :
    let w : World Float32 (Puppet Float32) := ⟨.ofList [bystander, walker], .unset⟩
    let w' : World Float32 (Puppet Float32) := ⟨.ofList [walker, walker, bystander], .absent⟩
    let moved := (Character.stepAlone w.clock.stepLength)^[3] walker
    (w.ticks 3).get? 1 = some moved ∧
      (w.ticks 3).get? 0 = some bystander ∧ (w'.ticks 3).get? 1 = (w.ticks 3).get? 1 ∧
      moved.controller?.map (·.gait) = some .walk ∧
      moved.controller?.map (·.gate.outstanding) = some true ∧
      moved.intent? = some ⟨.forward, false, none⟩ ∧
      moved.body.journal.length = 9 ∧ moved.grounded = true ∧ moved.airborne = false := by
  intro w w' moved
  have same_step : (w'.clock.stepLength : Float32) = w.clock.stepLength := by decide +kernel
  have fields : moved.controller?.map (·.gait) = some .walk ∧
      moved.controller?.map (·.gate.outstanding) = some true ∧
      moved.intent? = some ⟨.forward, false, none⟩ ∧
      moved.body.journal.length = 9 ∧ moved.grounded = true ∧ moved.airborne = false := by
    decide +kernel
  exact ⟨(w.get?_ticks 3 1).1, (w.get?_ticks 3 0).2.1 bystander rfl rfl,
    (w.get?_ticks 3 1).2.2 w' same_step rfl, fields⟩

end World

end CharacterMotion
