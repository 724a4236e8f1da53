import MeshTelemetry.Address.Basic
import MeshTelemetry.Address.Reader
import MeshTelemetry.Address.Resolve
import MeshTelemetry.Collector
import MeshTelemetry.Config.Basic
import MeshTelemetry.Config.Reader
import MeshTelemetry.Counters
import MeshTelemetry.Daemon
import MeshTelemetry.Datagram
import MeshTelemetry.Decimal.Format
import MeshTelemetry.Deflate.Inflate
import MeshTelemetry.Deflate.Stored
import MeshTelemetry.Event
import MeshTelemetry.GlobalStats
import MeshTelemetry.Intake
import MeshTelemetry.Interval
import MeshTelemetry.Json.Basic
import MeshTelemetry.Json.Numeral
import MeshTelemetry.Json.Reader
import MeshTelemetry.Json.Scan
import MeshTelemetry.Json.Skip
import MeshTelemetry.Json.Writer
import MeshTelemetry.Log.Filter
import MeshTelemetry.Log.Output
import MeshTelemetry.Main
import MeshTelemetry.Network
import MeshTelemetry.NodeId
import MeshTelemetry.Pipeline.Basic
import MeshTelemetry.Pipeline.Drain
import MeshTelemetry.Receiver
import MeshTelemetry.Registry
import MeshTelemetry.RequestSchedule
import MeshTelemetry.Response.Basic
import MeshTelemetry.Response.Reader
import MeshTelemetry.Response.Writer
import MeshTelemetry.StatsWorker
import MeshTelemetry.Text.Hex
import MeshTelemetry.Text.Quoted
import MeshTelemetry.Text.Utf8
import MeshTelemetry.Toml.Basic
import MeshTelemetry.Toml.Draft
import MeshTelemetry.Toml.Reader
import MeshTelemetry.Toml.Scan
import MeshTelemetry.Proofs.Pipeline.Handling
import MeshTelemetry.Proofs.Pipeline.Run
import MeshTelemetry.Proofs.Pipeline.LastWriter
import MeshTelemetry.Proofs.Pipeline.Invariant
import MeshTelemetry.Proofs.Receiver.Advance
import MeshTelemetry.Proofs.Receiver.Delivery
import MeshTelemetry.Proofs.Receiver.Ending
import MeshTelemetry.Proofs.Intake.Conservation
import MeshTelemetry.Proofs.Ticker
import MeshTelemetry.Proofs.RequestSchedule.Run
import MeshTelemetry.Proofs.RequestSchedule.Grid
import MeshTelemetry.Proofs.RequestSchedule.Accounting
import MeshTelemetry.Proofs.Json.Run
import MeshTelemetry.Proofs.Json.Strings
import MeshTelemetry.Proofs.Json.Numerals
import MeshTelemetry.Proofs.Json.Document
import MeshTelemetry.Proofs.Json.Reading
import MeshTelemetry.Proofs.Json.Items
import MeshTelemetry.Proofs.Json.Members
import MeshTelemetry.Proofs.Json.Values
import MeshTelemetry.Proofs.Json.Skipping
import MeshTelemetry.Proofs.Response.Reading
import MeshTelemetry.Proofs.Entries
import MeshTelemetry.Proofs.Response.Fields
import MeshTelemetry.Proofs.Response.Meaning
import MeshTelemetry.Proofs.Deflate.Stored
import MeshTelemetry.Proofs.Deflate.Extent
import MeshTelemetry.Proofs.Text
import MeshTelemetry.Proofs.Address.Scanning
import MeshTelemetry.Proofs.Address.Stages
import MeshTelemetry.Proofs.Pipeline.Forwarding
import MeshTelemetry.Proofs.Pipeline.Agreement
import MeshTelemetry.Proofs.GlobalStats
import MeshTelemetry.Proofs.Pipeline.Isolation
import MeshTelemetry.Proofs.Json.Recognition
import MeshTelemetry.Proofs.Json.Kept
import MeshTelemetry.Proofs.Json.Compact
import MeshTelemetry.Proofs.Response.Kept
import MeshTelemetry.Proofs.Response.RoundTrip
import MeshTelemetry.Proofs.RequestSchedule.Starting
import MeshTelemetry.Proofs.Tally
import MeshTelemetry.Proofs.GlobalStats.Sum
import MeshTelemetry.Proofs.GlobalStats.Exact
import MeshTelemetry.Proofs.GlobalStats.Update
import MeshTelemetry.Proofs.StatsWorker.Interleaving
import MeshTelemetry.Proofs.Collector.Requests
import MeshTelemetry.Proofs.Collector.Sharing
import MeshTelemetry.Proofs.Address.Canonical
import MeshTelemetry.Proofs.Address.RoundTrip
import MeshTelemetry.Proofs.Config.Record
import MeshTelemetry.Proofs.Config.Settings
