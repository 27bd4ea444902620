import CharacterMotion.Binary32.Scalar
import CharacterMotion.Physics.Character
import CharacterMotion.Physics.Step
import CharacterMotion.World.Access
import CharacterMotion.Proofs.Controller.SingleJump
import CharacterMotion.Proofs.Exact.SpeedBound
import CharacterMotion.Proofs.Exact.Reversal
import CharacterMotion.Proofs.World.Independence
import CharacterMotion.Proofs.Gate.Readiness
import CharacterMotion.Proofs.Controller.Cooldown
import CharacterMotion.Proofs.Binary32.Basic
import CharacterMotion.Proofs.Gate.Spacing
import CharacterMotion.Proofs.World.Markers
import CharacterMotion.Proofs.Physics.Phases
import CharacterMotion.Proofs.Physics.Balance
import CharacterMotion.Proofs.Controller.Components
import CharacterMotion.Proofs.Controller.Rising
import CharacterMotion.Proofs.Controller.Separation
import CharacterMotion.Proofs.Controller.EmptyFrames
import CharacterMotion.Proofs.Controller.IdleTurns
import CharacterMotion.Proofs.Physics.Forces
import CharacterMotion.Proofs.Physics.Retention
import CharacterMotion.Proofs.Binary32.Magnitude
import CharacterMotion.Proofs.World.StepLength
import CharacterMotion.Proofs.World.Wishes
import CharacterMotion.Proofs.World.Requests
import CharacterMotion.Proofs.Controller.Commit
import CharacterMotion.Proofs.Physics.Coherence
import CharacterMotion.Proofs.Exact.Orientation
import CharacterMotion.Proofs.Controller.Alternation
import CharacterMotion.Proofs.Exact.VerticalSpeed
import CharacterMotion.Proofs.Exact.FrameRate
import CharacterMotion.Proofs.Controller.FiniteMotion
import CharacterMotion.Proofs.Exact.ShorterArc
import CharacterMotion.Proofs.Controller.Undisturbed
import CharacterMotion.Proofs.Exact.Braking
import CharacterMotion.Proofs.Exact.Convergence
import CharacterMotion.Proofs.Binary32.Direction
import CharacterMotion.Proofs.Binary32.Share
import CharacterMotion.Proofs.Binary32.Orientation
import CharacterMotion.Proofs.Controller.UsableHeading
import CharacterMotion.Proofs.Exact.Aim
import CharacterMotion.Proofs.Exact.Descent
import CharacterMotion.Proofs.Exact.Footing
import CharacterMotion.Proofs.Exact.Yaw
import CharacterMotion.Proofs.Controller.CheckedFrames
import CharacterMotion.Proofs.Gate.Timer
