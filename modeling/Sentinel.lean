import Sentinel.Dig.Walk
import Sentinel.Pipeline
import Sentinel.Record.FileStore
import Sentinel.Runner
import Sentinel.Proofs.Dig.Report
import Sentinel.Proofs.Path.Order
import Sentinel.Proofs.Content.Reachable
import Sentinel.Proofs.Content.Descent
import Sentinel.Proofs.Dig.Accepted
import Sentinel.Proofs.Dig.Coverage
import Sentinel.Proofs.Running
import Sentinel.Proofs.Outcome
import Sentinel.Proofs.Detection
import Sentinel.Proofs.Streaming.Seat
import Sentinel.Proofs.Streaming.Run
import Sentinel.Proofs.Streaming.Delivery
import Sentinel.Proofs.Dig.Change
import Sentinel.Dig.Crew
import Sentinel.Proofs.Dig.Incremental
import Sentinel.Proofs.Dig.Balance
import Sentinel.Proofs.Dig.Schedule
import Sentinel.Proofs.Streaming.Place
import Sentinel.Proofs.Streaming.Feed
import Sentinel.Proofs.Streaming.Flow
import Sentinel.Desk
import Sentinel.Proofs.Handlers.FanOut
import Sentinel.Proofs.Streaming.Isolation
import Sentinel.Proofs.Streaming.Removal
import Sentinel.Proofs.Streaming.Undelivered
import Sentinel.Proofs.Jobs.Intake
import Sentinel.Proofs.Dig.Defaults
import Sentinel.Proofs.Pattern.Anchored
import Sentinel.Proofs.Streaming.Findings
import Sentinel.Proofs.Dig.Refusal
import Sentinel.Proofs.Pipeline.Mailing
import Sentinel.Proofs.Pipeline.Assembly
import Sentinel.Proofs.Pipeline.Panics
import Sentinel.Proofs.Jobs.Codec
import Sentinel.Proofs.Json.Records
import Sentinel.Proofs.Sinks.Persisting
import Sentinel.Proofs.Dig.Reconciled
import Sentinel.Proofs.Pipeline.Gated
import Sentinel.Proofs.Json.Configuration
import Sentinel.Proofs.Sinks.Agreement
import Sentinel.Proofs.Dig.Candidates
import Sentinel.Proofs.Pipeline.Notified
import Sentinel.Proofs.Dig.Parameters
import Sentinel.Proofs.Content.Writing
import Sentinel.Proofs.Dig.Openable
import Sentinel.Proofs.Path.Joining
import Sentinel.Proofs.Sinks.DefaultMails
import Sentinel.Proofs.Streaming.Progress
import Sentinel.Content.Buffer
import Sentinel.Proofs.Content.Pieces
import Sentinel.Proofs.Scanning
