import MissionWorker.Bridge.Basic
import MissionWorker.Bridge.Error
import MissionWorker.Bridge.Exchange
import MissionWorker.Bridge.Settings
import MissionWorker.Child.Exit
import MissionWorker.Child.Handle
import MissionWorker.Child.Output
import MissionWorker.Child.Shutdown
import MissionWorker.CommandLine.Arguments
import MissionWorker.CommandLine.Basic
import MissionWorker.Config.Basic
import MissionWorker.Config.Bridge
import MissionWorker.Config.Duration
import MissionWorker.Config.Error
import MissionWorker.Config.Load
import MissionWorker.Config.Logging
import MissionWorker.Config.Overlay
import MissionWorker.Config.Supervisor
import MissionWorker.Config.Worker
import MissionWorker.Decimal.Layout
import MissionWorker.Decimal.Scaling
import MissionWorker.Decimal.Shortest
import MissionWorker.Decimal.Text
import MissionWorker.Document.Fault
import MissionWorker.Document.Record
import MissionWorker.Document.Source
import MissionWorker.Environment
import MissionWorker.Files
import MissionWorker.Json.Basic
import MissionWorker.Json.Reader
import MissionWorker.Json.Writer
import MissionWorker.Launch.Error
import MissionWorker.Launch.Resolver
import MissionWorker.Launch.Spec
import MissionWorker.Launch.Start
import MissionWorker.Main
import MissionWorker.Net.Address
import MissionWorker.Path
import MissionWorker.Probe
import MissionWorker.Recovery
import MissionWorker.Service.Boundary
import MissionWorker.Service.Endpoint
import MissionWorker.Service.Failure
import MissionWorker.Service.Grid
import MissionWorker.Service.Issue
import MissionWorker.Service.Mission
import MissionWorker.Service.Status
import MissionWorker.Supervisor.Error
import MissionWorker.Supervisor.Scenario
import MissionWorker.Supervisor.Session
import MissionWorker.Supervisor.State
import MissionWorker.Supervisor.Step
import MissionWorker.Supervisor.Task
import MissionWorker.Text.Blank
import MissionWorker.Text.Folding
import MissionWorker.Text.Printable
import MissionWorker.Text.Quoted
import MissionWorker.Text.Utf8
import MissionWorker.Url.Basic
import MissionWorker.Url.Domain
import MissionWorker.Url.Error
import MissionWorker.Url.Host
import MissionWorker.Url.Percent
import MissionWorker.Url.Punycode
import MissionWorker.Url.Reader
import MissionWorker.Yaml.Cursor
import MissionWorker.Yaml.Node
import MissionWorker.Yaml.Scalar
import MissionWorker.Yaml.Source
import MissionWorker.Yaml.Token
import MissionWorker.Proofs.Supervisor.Run
import MissionWorker.Proofs.Supervisor.Move
import MissionWorker.Proofs.Supervisor.Coherence
import MissionWorker.Proofs.Supervisor.Lifecycle
import MissionWorker.Proofs.Supervisor.SingleFlight
import MissionWorker.Proofs.Supervisor.Timing
import MissionWorker.Proofs.Supervisor.Monitoring
import MissionWorker.Proofs.Supervisor.Handover
import MissionWorker.Proofs.Supervisor.Custody
import MissionWorker.Proofs.Supervisor.Shutdown
import MissionWorker.Proofs.Supervisor.Restarts
import MissionWorker.Proofs.Supervisor.StaleReady
import MissionWorker.Proofs.Supervisor.Retries
import MissionWorker.Proofs.Supervisor.Readiness
import MissionWorker.Proofs.Supervisor.Sharing
import MissionWorker.Proofs.Bridge.Origin
import MissionWorker.Proofs.Bridge.Answers
import MissionWorker.Proofs.Bridge.Losses
import MissionWorker.Proofs.Bridge.RoundTrips
import MissionWorker.Proofs.Document.Record
import MissionWorker.Proofs.Service.Issues
import MissionWorker.Proofs.Text.Utf8
import MissionWorker.Proofs.Text.Lines
import MissionWorker.Proofs.Config.Readings
import MissionWorker.Proofs.Config.Overlay
import MissionWorker.Proofs.Net.Address
import MissionWorker.Proofs.Url.Host
import MissionWorker.Proofs.Bridge.Loopback
import MissionWorker.Proofs.Config.Heeded
import MissionWorker.Proofs.Supervisor.Submission
import MissionWorker.Proofs.Json.Members
import MissionWorker.Proofs.Document.Shape
import MissionWorker.Proofs.Service.Forms
import MissionWorker.Proofs.Document.Remains
import MissionWorker.Proofs.Yaml.Written
import MissionWorker.Proofs.Config.Partial
import MissionWorker.Proofs.Path
import MissionWorker.Proofs.Launch.Program
import MissionWorker.Proofs.Service.Accounts
import MissionWorker.Proofs.Supervisor.Chronicle
import MissionWorker.Proofs.Supervisor.Stopping
import MissionWorker.Proofs.Supervisor.Probing
import MissionWorker.Proofs.Supervisor.Patience
import MissionWorker.Proofs.Supervisor.Outcome
import MissionWorker.Proofs.Launch.ModulePath
import MissionWorker.Proofs.Probe
import MissionWorker.Proofs.Child.Observers
import MissionWorker.Proofs.Supervisor.Departures
import MissionWorker.Proofs.Child.Keeper
import MissionWorker.Proofs.Child.Escalation
import MissionWorker.Proofs.Child.Shutdown
import MissionWorker.Proofs.Child.Forwarding
