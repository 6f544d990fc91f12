import Telemetry.Base64
import Telemetry.Converter
import Telemetry.Counter
import Telemetry.Decimal.Positional
import Telemetry.Decimal.Shortest
import Telemetry.Digest
import Telemetry.Distribution
import Telemetry.Double
import Telemetry.Draft
import Telemetry.Gauge
import Telemetry.Hdr.Basic
import Telemetry.Hdr.Layout
import Telemetry.Hdr.Payload
import Telemetry.Hdr.Tally
import Telemetry.Histogram
import Telemetry.Ledger
import Telemetry.Meter
import Telemetry.Name
import Telemetry.PayloadMode
import Telemetry.Presentation
import Telemetry.Proofs.Catalogue
import Telemetry.Proofs.Draft.Alike
import Telemetry.Proofs.Draft.Outcome
import Telemetry.Proofs.Draft.Walk
import Telemetry.Proofs.Hdr.Counts
import Telemetry.Proofs.Hdr.Layout
import Telemetry.Proofs.Hdr.Payload
import Telemetry.Proofs.Hdr.Sound
import Telemetry.Proofs.Ledger
import Telemetry.Proofs.Meter
import Telemetry.Proofs.Reporter
import Telemetry.Proofs.Reservoir.Rotation
import Telemetry.Proofs.Reservoir.Sound
import Telemetry.Proofs.Run.Basic
import Telemetry.Proofs.Run.Delivery
import Telemetry.Proofs.Run.InStep
import Telemetry.Proofs.Run.Retry
import Telemetry.Proofs.Run.Step
import Telemetry.Proofs.Run.Twin
import Telemetry.Proofs.Run.View
import Telemetry.Proofs.Shown
import Telemetry.Proofs.Store
import Telemetry.Proofs.Writes
import Telemetry.Queue
import Telemetry.QueueCounters
import Telemetry.Registry
import Telemetry.Report.Basic
import Telemetry.Report.Wire
import Telemetry.Reporter
import Telemetry.Reservoir.Basic
import Telemetry.Reservoir.Binned
import Telemetry.Reservoir.Window
import Telemetry.Samples
import Telemetry.Settings.Basic
import Telemetry.Settings.Error
import Telemetry.Settings.Tree
import Telemetry.Span
import Telemetry.Stats
import Telemetry.Store
import Telemetry.Text.Blank
import Telemetry.Text.Caseless
import Telemetry.Text.CodeTable
import Telemetry.Text.Composition
import Telemetry.Text.Direction
import Telemetry.Text.Hex
import Telemetry.Text.Joining
import Telemetry.Text.Mark
import Telemetry.Text.Split
import Telemetry.TimeUnit
import Telemetry.Timer
import Telemetry.Transport
import Telemetry.Tree
import Telemetry.Url.Address
import Telemetry.Url.Basic
import Telemetry.Url.Domain
import Telemetry.Url.Error
import Telemetry.Url.HostChar
import Telemetry.Url.Parse
import Telemetry.Url.Percent
import Telemetry.Url.Punycode
import Telemetry.Wire.Field
import Telemetry.Wire.Varint
import Telemetry.Word
import Telemetry.World
import Telemetry.Zlib.Bits
import Telemetry.Zlib.Block
import Telemetry.Zlib.Codes
import Telemetry.Zlib.PrefixCode
import Telemetry.Zlib.Stream
import Telemetry.Zlib.Token
import Telemetry.Proofs.Wire.Field
import Telemetry.Proofs.Wire.Report
import Telemetry.Proofs.Hdr.Adding
import Telemetry.Proofs.Hdr.Precision
import Telemetry.Proofs.Hdr.Room
import Telemetry.Proofs.Reservoir.Flow
import Telemetry.Proofs.Reservoir.History
import Telemetry.Proofs.Reservoir.Payload
import Telemetry.Proofs.Queue.Fifo
import Telemetry.Proofs.Queue.Account
import Telemetry.Proofs.Registry.Shown
import Telemetry.Proofs.Registry.Call
import Telemetry.Proofs.Registry.Run
import Telemetry.Proofs.Draft.Met
import Telemetry.Proofs.Run.Accounting
import Telemetry.Proofs.Run.Lag
import Telemetry.Proofs.Digest
import Telemetry.Proofs.Draft.Drained
import Telemetry.Proofs.Draft.Stopped
import Telemetry.Proofs.Draft.Structure
import Telemetry.Proofs.Run.Kinds
import Telemetry.Proofs.Run.Sharing
import Telemetry.Proofs.Ledger.Run
import Telemetry.Proofs.Meter.Grid
import Telemetry.Proofs.Meter.Transparency
import Telemetry.Proofs.Histogram
import Telemetry.Proofs.Timer
import Telemetry.Proofs.Reservoir.Window
import Telemetry.Proofs.Hdr.Quantile
import Telemetry.Proofs.Reservoir.Quantile
import Telemetry.Proofs.Run.Filtered
import Telemetry.Proofs.Draft.Presented
import Telemetry.Proofs.Settings
import Telemetry.Proofs.Base64
import Telemetry.Proofs.Credentials
import Telemetry.Proofs.Reservoir.Recent
import Telemetry.Proofs.Reservoir.Backlog
