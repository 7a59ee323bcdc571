import Switchover.AckSieve
import Switchover.Address
import Switchover.Ambient
import Switchover.Base64Url
import Switchover.Bytes
import Switchover.Call
import Switchover.ClientSettings
import Switchover.Clock
import Switchover.Context
import Switchover.Decimal
import Switchover.Demo.Application
import Switchover.Demo.Rehearsal
import Switchover.Demo.Settings
import Switchover.Demo.Visit
import Switchover.Desk
import Switchover.Duration
import Switchover.Engine.Limits
import Switchover.Frame.Header
import Switchover.Frame.Kind
import Switchover.Frame.Reader
import Switchover.Frame.Writer
import Switchover.Hpack.Decoder
import Switchover.Hpack.Encoder
import Switchover.Hpack.StaticTable
import Switchover.Hpack.Table
import Switchover.Http.Body
import Switchover.Http.Connection
import Switchover.Http.Fields
import Switchover.Http.Head
import Switchover.Http.Intake
import Switchover.Http.Lines
import Switchover.Http.Message
import Switchover.Http.Protocol
import Switchover.Http.Target
import Switchover.Opening
import Switchover.Pipe
import Switchover.Preface
import Switchover.Proofs.AckSieve.Feeding
import Switchover.Proofs.AckSieve.Progress
import Switchover.Proofs.AckSieve.Streams
import Switchover.Proofs.Base64Url
import Switchover.Proofs.Bytes
import Switchover.Proofs.ClientSettings
import Switchover.Proofs.ClientSettings.Language
import Switchover.Proofs.ClientSettings.Table
import Switchover.Proofs.Desk
import Switchover.Proofs.Frame.Header
import Switchover.Proofs.Frame.Pieces
import Switchover.Proofs.Frame.RoundTrip
import Switchover.Proofs.Frame.Spots
import Switchover.Proofs.Hpack.RoundTrip
import Switchover.Proofs.Http.Connection
import Switchover.Proofs.Http.Head
import Switchover.Proofs.Http.Protocol
import Switchover.Proofs.Opening.Legality
import Switchover.Proofs.Opening.Limits
import Switchover.Proofs.Opening.RoundTrip
import Switchover.Proofs.Preface
import Switchover.Proofs.Registry
import Switchover.Proofs.Roster.Acts
import Switchover.Proofs.Roster.Cancellation
import Switchover.Proofs.Roster.Registration
import Switchover.Proofs.Roster.Shutdown
import Switchover.Proofs.Roster.Signals
import Switchover.Proofs.Server.Contexts
import Switchover.Proofs.Server.Provenance
import Switchover.Proofs.Server.Serving
import Switchover.Proofs.Server.Shutdown
import Switchover.Proofs.Server.Tasks
import Switchover.Proofs.Server.Tracking
import Switchover.Proofs.Server.Turns
import Switchover.Proofs.Session
import Switchover.Proofs.Setting.Walk
import Switchover.Proofs.Stream.Backlog
import Switchover.Proofs.Stream.Closing
import Switchover.Proofs.Stream.Collected
import Switchover.Proofs.Stream.Delivery
import Switchover.Proofs.Stream.Fresh
import Switchover.Proofs.Stream.Nested
import Switchover.Proofs.Stream.Operations
import Switchover.Proofs.Stream.Recognition
import Switchover.Proofs.Stream.Recorded
import Switchover.Proofs.Stream.Replayed
import Switchover.Proofs.Stream.Retry
import Switchover.Proofs.Stream.Sides
import Switchover.Proofs.Stream.Sieved
import Switchover.Proofs.Stream.Sinks
import Switchover.Proofs.Stream.Stack
import Switchover.Proofs.Takeover
import Switchover.Proofs.Text
import Switchover.Proofs.Upgrade
import Switchover.Proofs.Upgrade.Respelling
import Switchover.Registry
import Switchover.Script.Application
import Switchover.Script.Desk
import Switchover.Script.Engine
import Switchover.Script.Report
import Switchover.Script.Stream
import Switchover.Script.Tasks
import Switchover.Script.Trial
import Switchover.Server
import Switchover.Server.Client
import Switchover.Server.Clients
import Switchover.Server.Serving
import Switchover.Service
import Switchover.Session
import Switchover.Setting
import Switchover.Shutdown
import Switchover.Stream.Duplex
import Switchover.Stream.Fresh
import Switchover.Stream.Replayed
import Switchover.Stream.Sieved
import Switchover.Stream.Sink
import Switchover.Takeover
import Switchover.Tracked
import Switchover.Upgrade
import Switchover.Utf8
