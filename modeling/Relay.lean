import Relay.Agent
import Relay.Answer
import Relay.Config
import Relay.Conversation
import Relay.Conversation.Json
import Relay.Decimal.Shortest
import Relay.Digest
import Relay.Event
import Relay.Files.Path
import Relay.Files.Place
import Relay.Files.Store
import Relay.Files.Tree
import Relay.Flow
import Relay.Flow.Parse
import Relay.Flow.Plan
import Relay.Flow.Reading
import Relay.Flow.Validity
import Relay.History
import Relay.Journal
import Relay.Json.Datum
import Relay.Json.Read
import Relay.Json.Record
import Relay.Json.Scan
import Relay.Json.Skip
import Relay.Json.Value
import Relay.Memory
import Relay.Roster
import Relay.Run
import Relay.RunRecord
import Relay.Swarm
import Relay.SwarmError
import Relay.Table
import Relay.Terminal
import Relay.Text.Blank
import Relay.Text.Layout
import Relay.Text.Marks
import Relay.Text.Occurrence
import Relay.Text.Pieces
import Relay.Text.Printable
import Relay.Text.Quoted
import Relay.Timestamp
import Relay.World
import Relay.Proofs.Flow.Joined
import Relay.Proofs.Flow.Valid
import Relay.Proofs.Run.Parts
import Relay.Proofs.Journal.Growth
import Relay.Proofs.Run.Course
import Relay.Proofs.Run.Trace
import Relay.Proofs.Run.SideBySide
import Relay.Proofs.Run.Steady
import Relay.Proofs.Run.Composition
import Relay.Proofs.Run.Inlining
import Relay.Proofs.Flow.Leads
import Relay.Proofs.Run.Loops
import Relay.Proofs.Run.LeftOut
import Relay.Proofs.Run.Splicing
import Relay.Proofs.Run.Faults
import Relay.Proofs.Run.Nesting
import Relay.Proofs.Run.Replay
import Relay.Proofs.Files.Saved
import Relay.Proofs.Run.Record
import Relay.Proofs.Session.Operation
import Relay.Proofs.Session.Logs
import Relay.Proofs.Flow.Grammar
import Relay.Proofs.Flow.RoundTrip
import Relay.Proofs.Session.Renewal
import Relay.Proofs.Session.Refusal
import Relay.Proofs.Flow.Verdict
import Relay.Proofs.Run.Apart
import Relay.Proofs.Session.Apart
import Relay.Proofs.Run.Prompts
import Relay.Proofs.Session.Kinds
import Relay.Proofs.Session.Saving
import Relay.Proofs.Session.Batch
import Relay.Proofs.Run.Reports
import Relay.Proofs.Run.Barrier
import Relay.Proofs.Session.Verbosity
import Relay.Proofs.Run.Wording
import Relay.Proofs.Run.Hoisting
import Relay.Proofs.Session.Building
import Relay.Proofs.Session.Forms
import Relay.Proofs.Text.Lines
import Relay.Proofs.Session.Sequence
import Relay.Proofs.Run.Replies
import Relay.Proofs.Session.Humans
import Relay.Proofs.Files.Places
import Relay.Proofs.Files.Frame
import Relay.Proofs.Files.Room
import Relay.Proofs.Session.Documents
import Relay.Proofs.Json.Literals
import Relay.Proofs.Json.Numerals
import Relay.Proofs.Json.Skipping
import Relay.Proofs.Json.Objects
import Relay.Proofs.Json.Configurations
import Relay.Proofs.Session.Configured
import Relay.Proofs.Json.Messages
import Relay.Proofs.Session.Normalizing
import Relay.Proofs.Journal.Counts
import Relay.Proofs.Journal.Tracking
import Relay.Proofs.Roster.Changes
import Relay.Proofs.Run.Reach
import Relay.Proofs.Session.Reach
