import EchoBackend.Address
import EchoBackend.CommandLine.PortNumber
import EchoBackend.CommandLine.Rejection
import EchoBackend.CommandLine.Request
import EchoBackend.Decimal.Binary64
import EchoBackend.Decimal.Shortest
import EchoBackend.Echo.Block
import EchoBackend.Echo.Incoming
import EchoBackend.Echo.Journal
import EchoBackend.Echo.Reply
import EchoBackend.Echo.ReplyReader
import EchoBackend.Echo.Server
import EchoBackend.Echo.Service
import EchoBackend.Echo.Timeline
import EchoBackend.Fleet
import EchoBackend.Http.Body
import EchoBackend.Http.Header
import EchoBackend.Http.Method
import EchoBackend.Http.Request
import EchoBackend.Http.RequestId
import EchoBackend.Http.Response
import EchoBackend.Http.Uri
import EchoBackend.Identity
import EchoBackend.Json.Fault
import EchoBackend.Json.Number
import EchoBackend.Json.Quoted
import EchoBackend.Json.Skip
import EchoBackend.Json.Text
import EchoBackend.Json.Token
import EchoBackend.Json.Value
import EchoBackend.Log.Directive
import EchoBackend.Log.Event
import EchoBackend.Log.Filter
import EchoBackend.Log.Level
import EchoBackend.Main
import EchoBackend.PortSearch
import EchoBackend.PortTable
import EchoBackend.Program
import EchoBackend.Proofs.Service.Answer
import EchoBackend.Proofs.Server.Contract
import EchoBackend.Proofs.Server.Discretion
import EchoBackend.Proofs.Server.Endings
import EchoBackend.Proofs.Server.Isolation
import EchoBackend.Proofs.Server.Turn
import EchoBackend.Proofs.Sorting
import EchoBackend.Proofs.StopSignal.Inbox
import EchoBackend.Proofs.StopSignal.Validity
import EchoBackend.Proofs.Timeline.Flight
import EchoBackend.Proofs.Timeline.Landing
import EchoBackend.Settings
import EchoBackend.Sink
import EchoBackend.Startup
import EchoBackend.StopSignal
import EchoBackend.SystemError
import EchoBackend.Text.Alphanumeric
import EchoBackend.Text.ControlSequence
import EchoBackend.Text.Escaped
import EchoBackend.Text.Flaw
import EchoBackend.Text.Hex
import EchoBackend.Text.Percent
import EchoBackend.Text.Printable
import EchoBackend.Text.Similarity
import EchoBackend.Text.Utf8
import EchoBackend.Timer
import EchoBackend.Trial
import EchoBackend.Wire.BodyReader
import EchoBackend.Wire.Connection
import EchoBackend.Wire.Head
import EchoBackend.Wire.Host
import EchoBackend.Wire.Part
import EchoBackend.Wire.Reader
import EchoBackend.Wire.Terms
import EchoBackend.Wire.Written
import EchoBackend.Proofs.StopSignal.Conservation
import EchoBackend.Proofs.StopSignal.Stopping
import EchoBackend.Proofs.Startup.Picking
import EchoBackend.Proofs.Fleet.Invariant
import EchoBackend.Proofs.Fleet.Exclusion
import EchoBackend.Proofs.Text.Decoding
import EchoBackend.Proofs.Text.Escapes
import EchoBackend.Proofs.Text.Subparts
import EchoBackend.Proofs.Json.Grammar
import EchoBackend.Proofs.Json.Numerals
import EchoBackend.Proofs.Json.Quoting
import EchoBackend.Proofs.Json.Acceptance
import EchoBackend.Proofs.Json.Nesting
import EchoBackend.Proofs.Echo.Members
import EchoBackend.Proofs.Echo.Arrangement
import EchoBackend.Proofs.Echo.RoundTrip
import EchoBackend.Proofs.Echo.Paths
import EchoBackend.Proofs.Text.Controls
import EchoBackend.Proofs.Http.Fields
import EchoBackend.Proofs.Block.Lines
import EchoBackend.Proofs.Block.Legibility
import EchoBackend.Proofs.Server.Legibility
import EchoBackend.Proofs.Text.Scanning
import EchoBackend.Proofs.CommandLine.Ports
import EchoBackend.Proofs.CommandLine.Grammar
import EchoBackend.Proofs.Startup.FirstFree
import EchoBackend.Proofs.Wire.Heads
import EchoBackend.Proofs.Wire.Framing
import EchoBackend.Proofs.Wire.Bodies
import EchoBackend.Proofs.Wire.Reading
import EchoBackend.Proofs.Wire.Served
import EchoBackend.Proofs.Wire.Lines
import EchoBackend.Proofs.Wire.Stopped
import EchoBackend.Proofs.Wire.Runs
import EchoBackend.Proofs.Wire.Requests
import EchoBackend.Proofs.Trial.Steps
import EchoBackend.Proofs.Trial.Record
import EchoBackend.Proofs.Trial.Connections
import EchoBackend.Proofs.Trial.Routed
import EchoBackend.Proofs.Program.Contract
import EchoBackend.Proofs.Program.Identity
import EchoBackend.Proofs.Http.Reading
import EchoBackend.Proofs.Http.Payload
import EchoBackend.Proofs.Server.Deadline
import EchoBackend.Probing
import EchoBackend.Proofs.Startup.Allocation
import EchoBackend.Proofs.Startup.Classification
import EchoBackend.Proofs.Block.Recovery
import EchoBackend.Proofs.Json.Finality
import EchoBackend.Proofs.Json.FinalValues
import EchoBackend.Proofs.Echo.Finality
import EchoBackend.Proofs.Echo.Delimitation
import EchoBackend.Proofs.Http.Identifiers
import EchoBackend.Proofs.Server.Tracing
import EchoBackend.Proofs.Http.Targets
import EchoBackend.Proofs.Server.Routing
import EchoBackend.Proofs.Text.Labels
import EchoBackend.Proofs.CommandLine.Usage
import EchoBackend.Proofs.Echo.Users
