import PolledTls.Address
import PolledTls.Bytes
import PolledTls.Config
import PolledTls.Connection
import PolledTls.Error
import PolledTls.Event
import PolledTls.Event.Log
import PolledTls.Net.Greeting
import PolledTls.Net.Loopback
import PolledTls.Net.Session
import PolledTls.Outbox
import PolledTls.Outbox.Move
import PolledTls.Platform
import PolledTls.Scripted
import PolledTls.Scripted.Bench
import PolledTls.Sim.Clock
import PolledTls.Sim.Draws
import PolledTls.Sim.Drill
import PolledTls.Sim.Drill.Check
import PolledTls.Sim.Exercise
import PolledTls.Sim.Network
import PolledTls.Sim.Slots
import PolledTls.Stages
import PolledTls.Status
import PolledTls.Text
import PolledTls.Text.Hidden
import PolledTls.Time
import PolledTls.Time.Span
import PolledTls.Trail
import PolledTls.Trial
import PolledTls.Proofs.Alike
import PolledTls.Proofs.Belonging
import PolledTls.Proofs.Bounds
import PolledTls.Proofs.Conduct
import PolledTls.Proofs.Course
import PolledTls.Proofs.Handling
import PolledTls.Proofs.Handover
import PolledTls.Proofs.Heard
import PolledTls.Proofs.History
import PolledTls.Proofs.Holdings
import PolledTls.Proofs.Insertion
import PolledTls.Proofs.Naming
import PolledTls.Proofs.OpenCompletion
import PolledTls.Proofs.OpenTimeout
import PolledTls.Proofs.Origin
import PolledTls.Proofs.Parallel
import PolledTls.Proofs.Protocol
import PolledTls.Proofs.Punctual
import PolledTls.Proofs.Reception
import PolledTls.Proofs.Refusal
import PolledTls.Proofs.Release
import PolledTls.Proofs.Renewal
import PolledTls.Proofs.Replay
import PolledTls.Proofs.Representation
import PolledTls.Proofs.SendOrder
import PolledTls.Proofs.SendTimeout
import PolledTls.Proofs.Sim.Advances
import PolledTls.Proofs.Sim.Books
import PolledTls.Proofs.Sim.Chunking
import PolledTls.Proofs.Sim.Drill
import PolledTls.Proofs.Sim.Exercise
import PolledTls.Proofs.Sim.Inbound
import PolledTls.Proofs.Sim.Opening
import PolledTls.Proofs.Sim.Ownership
import PolledTls.Proofs.Sim.Pacing
import PolledTls.Proofs.Sim.Reaching
import PolledTls.Proofs.Sim.Rig
import PolledTls.Proofs.Sim.Script
import PolledTls.Proofs.Sim.Sending
import PolledTls.Proofs.Sim.Tally
import PolledTls.Proofs.Sim.Timekeeping
import PolledTls.Proofs.Sound
import PolledTls.Proofs.Stages
import PolledTls.Proofs.Step
import PolledTls.Proofs.Step.Callbacks
import PolledTls.Proofs.Step.Kinds
import PolledTls.Proofs.Stream
import PolledTls.Proofs.Stream.Attempt
import PolledTls.Proofs.Stream.Flow
import PolledTls.Proofs.Stream.Step
import PolledTls.Proofs.Taxonomy
import PolledTls.Proofs.Teardown
import PolledTls.Proofs.Tracks
import PolledTls.Proofs.Waiting
import PolledTls.Proofs.Wording
