import Multipath.Call
import Multipath.Circuit.Cooldown
import Multipath.Circuit.Health
import Multipath.Circuit.Rebuild
import Multipath.Circuit.View
import Multipath.Clock
import Multipath.Command.Line
import Multipath.Command.Options
import Multipath.Command.Run
import Multipath.Counter
import Multipath.Decimal.Binary
import Multipath.Decimal.Layout
import Multipath.Decimal.Reading
import Multipath.Decimal.Shortest
import Multipath.Event
import Multipath.Files.Path
import Multipath.Files.Tree
import Multipath.Handover
import Multipath.Journal
import Multipath.Main
import Multipath.Proofs.Accepted
import Multipath.Proofs.Amounts
import Multipath.Proofs.Backoff
import Multipath.Proofs.Balance
import Multipath.Proofs.Bursts
import Multipath.Proofs.Checks
import Multipath.Proofs.Choice
import Multipath.Proofs.Climb
import Multipath.Proofs.Commands
import Multipath.Proofs.Completion
import Multipath.Proofs.Counting
import Multipath.Proofs.Deadlines
import Multipath.Proofs.Deeds
import Multipath.Proofs.Demands
import Multipath.Proofs.Diary
import Multipath.Proofs.Distinct
import Multipath.Proofs.Documents
import Multipath.Proofs.Doubles
import Multipath.Proofs.Draws
import Multipath.Proofs.Exclusion
import Multipath.Proofs.Extremes
import Multipath.Proofs.Fewest
import Multipath.Proofs.Folders
import Multipath.Proofs.Fractions
import Multipath.Proofs.Growth
import Multipath.Proofs.Independence
import Multipath.Proofs.Intake
import Multipath.Proofs.Landing
import Multipath.Proofs.Lifecycle
import Multipath.Proofs.Measured
import Multipath.Proofs.Mileage
import Multipath.Proofs.Odometer
import Multipath.Proofs.Overlay
import Multipath.Proofs.Partial
import Multipath.Proofs.Pick
import Multipath.Proofs.Points
import Multipath.Proofs.Posture
import Multipath.Proofs.Probes
import Multipath.Proofs.Proportions
import Multipath.Proofs.Punctual
import Multipath.Proofs.Quarantine
import Multipath.Proofs.Ramp
import Multipath.Proofs.Recovery
import Multipath.Proofs.Requests
import Multipath.Proofs.RoundTrip
import Multipath.Proofs.Runs
import Multipath.Proofs.Service
import Multipath.Proofs.Settled
import Multipath.Proofs.Shares
import Multipath.Proofs.Sharing
import Multipath.Proofs.Simulated
import Multipath.Proofs.Slot
import Multipath.Proofs.Starts
import Multipath.Proofs.Strays
import Multipath.Proofs.Strides
import Multipath.Proofs.Timeline
import Multipath.Proofs.Traffic
import Multipath.Proofs.Untroubled
import Multipath.Proofs.Verdicts
import Multipath.Proofs.Weights
import Multipath.Proofs.Windows
import Multipath.Random.Generator
import Multipath.Random.Keystream
import Multipath.Scheduler.Basic
import Multipath.Scheduler.Operation
import Multipath.Scheduler.Pick
import Multipath.Scheduler.Turn
import Multipath.Selection
import Multipath.Settings.Basic
import Multipath.Settings.Check
import Multipath.Settings.File
import Multipath.Settings.Stored
import Multipath.Settings.Template
import Multipath.Simulation.Network
import Multipath.Simulation.Run
import Multipath.Simulation.Summary
import Multipath.Text.Json
import Multipath.Text.Moment
import Multipath.Text.Pieces
import Multipath.Toml.Node
import Multipath.Toml.Quoted
import Multipath.Toml.Scalar
import Multipath.Toml.Statement
import Multipath.Toml.Writer
