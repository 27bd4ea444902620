import CharacterMotion.Proofs.Binary32.Magnitude
import CharacterMotion.World.Step

/-!
The fixed step is a right length of a frame in single precision, whatever the clock is set to: its
whole seconds fit a word, so that nothing on the way to seconds leaves the range of the format, and
a step that is not positive gives way to the sixtieth of a second. So time passes in every step of a
world (`Clock.passes_stepLength`).
-/

namespace CharacterMotion

theorem Span.isFinite_inSeconds (s : Span) : Scalar.isFinite (s.inSeconds : Float32) = true := by
  have seconds : Binary32.Below 67 (Scalar.ofNat s.seconds.toNat : Float32) :=
    .ofNat 64 s.seconds.toNat_lt (by omega)
  have nanoseconds : Binary32.Below 33 (Scalar.ofNat s.nanoseconds : Float32) :=
    .ofNat 30 (s.lt_second.trans (by decide)) (by omega)
  have billion : Binary32.Whole (Scalar.ofNat 1000000000 : Float32).toModel.unpack := by decide
  have fraction := nanoseconds.div billion (by omega) (by omega)
  exact (seconds.add (fraction.mono (by omega)) (by omega) (by omega)).isFinite

namespace Clock

theorem stepLength_cases (c : Clock) :
    (∃ s : Span, 0 < (s.inSeconds : Float32) ∧ (c.stepLength : Float32) = s.inSeconds) ∨
      (c.stepLength : Float32) = 1 / 60.0 := by
  unfold stepLength
  cases c.step? with
  | none => exact .inr rfl
  | some s =>
      dsimp only
      split
      · rename_i pos
        exact .inl ⟨s, pos, rfl⟩
      · exact .inr rfl

/-- Time passes in a step, by a length that is finite. -/
theorem passes_stepLength (c : Clock) :
    0 < (c.stepLength : Float32) ∧ Scalar.isFinite (c.stepLength : Float32) = true := by
  rcases c.stepLength_cases with ⟨s, pos, length⟩ | length
  · rw [length]
    exact ⟨pos, s.isFinite_inSeconds⟩
  · rw [length]
    decide +kernel

theorem isTimestep_stepLength (c : Clock) : isTimestep (c.stepLength : Float32) = true := by
  obtain ⟨pos, finite⟩ := c.passes_stepLength
  rw [isTimestep, finite, Bool.true_and]
  exact decide_eq_true (Binary32.nonneg_of_pos pos)

end Clock

end CharacterMotion
