import Machining.Datum
import Machining.Execution.Run
import Machining.Geometry.Duration
import Machining.Geometry.Extent
import Machining.Playback.Session
import Machining.Program.Sample
import Machining.Proofs.Execution.Emission
import Machining.Proofs.Execution.Continuity
import Machining.Proofs.Program.CommandClass
import Machining.Proofs.Execution.CommandEffect
import Machining.Proofs.Execution.Composition
import Machining.Proofs.Execution.LastWord
import Machining.Proofs.Execution.SpindleSpeed
import Machining.Proofs.Program.LineOrder
import Machining.Proofs.Execution.Correspondence
import Machining.Proofs.Geometry.Estimate
import Machining.Proofs.Number.Order
import Machining.Proofs.Number.Extremes
import Machining.Proofs.Playback.Order
import Machining.Proofs.Machine.Account
import Machining.Proofs.Playback.Operation
import Machining.Proofs.Playback.Loading
import Machining.Proofs.Playback.Stepping
import Machining.Proofs.Playback.Invariant
import Machining.Proofs.Playback.Playthrough
import Machining.Proofs.Playback.Timing
import Machining.Proofs.Playback.Refinement
import Machining.Proofs.Playback.Notices
import Machining.Proofs.Playback.Soundness
import Machining.Proofs.Playback.Controls
import Machining.Proofs.Playback.Following
import Machining.Proofs.Playback.SpindleAgreement
import Machining.Proofs.Number.NumeralGrammar
import Machining.Proofs.Program.WordGrammar
import Machining.Proofs.Program.LineLocality
import Machining.Proofs.Playback.Console
import Machining.Proofs.Playback.Positioning
import Machining.Proofs.Number.Definedness
import Machining.Proofs.Number.Conversion
import Machining.Proofs.Execution.Failure
import Machining.Proofs.Execution.SpindleReview
import Machining.Proofs.Program.LexicalNoise
import Machining.Proofs.Program.Gathering
import Machining.Proofs.Playback.Acceptance
import Machining.Proofs.Geometry.ArcLength
import Machining.Proofs.Playback.Estimation
import Machining.Proofs.Execution.Display
import Machining.Proofs.Geometry.Box
import Machining.Proofs.Playback.Coverage
import Machining.Proofs.Geometry.ArcValidity
import Machining.Proofs.Number.Representation
import Machining.Proofs.Geometry.ArcDuality
import Machining.Proofs.Geometry.UnknownPlane
import Machining.Proofs.Machine.ConfiguredTravel
import Machining.Proofs.Number.WholeNumbers
import Machining.Proofs.Number.WholeText
import Machining.Proofs.Program.Printing
