import QueryWatch.Binary.Format
import QueryWatch.Binary.Word
import QueryWatch.BuildError
import QueryWatch.Building
import QueryWatch.Config.Basic
import QueryWatch.Config.Decoder
import QueryWatch.Config.Malformed
import QueryWatch.Decimal.Layout
import QueryWatch.Decimal.Reading
import QueryWatch.Decimal.Shortest
import QueryWatch.Dispatcher
import QueryWatch.Encoding.Gauge
import QueryWatch.Encoding.Line
import QueryWatch.Encoding.LogLine
import QueryWatch.Encoding.Payload
import QueryWatch.Fanout
import QueryWatch.HostName.Basic
import QueryWatch.HostName.Direction
import QueryWatch.HostName.Forms.Ideographs
import QueryWatch.HostName.Forms.Letters
import QueryWatch.HostName.Forms.Presentation
import QueryWatch.HostName.Forms.Symbols
import QueryWatch.HostName.Joining
import QueryWatch.HostName.Mapping
import QueryWatch.HostName.Punycode
import QueryWatch.Json.Basic
import QueryWatch.Json.Parser
import QueryWatch.Json.Printer
import QueryWatch.KeyMap
import QueryWatch.Level
import QueryWatch.Logging.Directive
import QueryWatch.Logging.Filter
import QueryWatch.Logging.Pattern.CharacterSet
import QueryWatch.Logging.Pattern.Escape
import QueryWatch.Logging.Pattern.Shape
import QueryWatch.Logging.Record
import QueryWatch.Logging.Setup
import QueryWatch.Measurement
import QueryWatch.Modules
import QueryWatch.Periodic.Heartbeat
import QueryWatch.Periodic.Period
import QueryWatch.Periodic.RequestRate
import QueryWatch.PeriodicTask
import QueryWatch.Pipeline
import QueryWatch.QueryEvent
import QueryWatch.Rehearsal
import QueryWatch.Reporters
import QueryWatch.Signal
import QueryWatch.Sink.BusSink
import QueryWatch.Sink.Endpoint
import QueryWatch.Sink.Exchange
import QueryWatch.Sink.Fault
import QueryWatch.Sink.Flusher
import QueryWatch.Sink.GaugeSink
import QueryWatch.Sink.LogSink
import QueryWatch.Sink.MonitorSink
import QueryWatch.Sink.Network
import QueryWatch.Sink.TimeSeriesSink
import QueryWatch.SlowQuery.Decider
import QueryWatch.SlowQuery.Watcher
import QueryWatch.Text.Alphanumeric
import QueryWatch.Text.Pieces
import QueryWatch.Text.Combining
import QueryWatch.Text.Composition
import QueryWatch.Text.Digits
import QueryWatch.Text.Quoted
import QueryWatch.Text.Ranges
import QueryWatch.Text.Visible
import QueryWatch.TimeUnit
import QueryWatch.Toml.Document
import QueryWatch.Toml.Scalar
import QueryWatch.Toml.Tree
import QueryWatch.Turn
import QueryWatch.Url
import QueryWatch.Version
import QueryWatch.Wire.Field
import QueryWatch.Wire.Message
import QueryWatch.Proofs.Schedule
import QueryWatch.Proofs.TimeSeries.Traffic
import QueryWatch.Proofs.Calls
import QueryWatch.Proofs.TimeSeries.Conservation
import QueryWatch.Proofs.TimeSeries.Sequential
import QueryWatch.Proofs.Monitor.Reading
import QueryWatch.Proofs.Monitor.Dialogue
import QueryWatch.Proofs.Monitor.Connections
import QueryWatch.Proofs.Monitor.Ownership
import QueryWatch.Proofs.Monitor.Sequential
import QueryWatch.Proofs.Delivery.Attending
import QueryWatch.Proofs.Delivery.Calls
import QueryWatch.Proofs.Delivery.Fairness
import QueryWatch.Proofs.Generations.Outline
import QueryWatch.Proofs.Generations.Safety
import QueryWatch.Proofs.Generations.Shared
import QueryWatch.Proofs.Generations.Steps
import QueryWatch.Proofs.Generations.Moments
import QueryWatch.Proofs.Generations.Record
import QueryWatch.Proofs.Generations.Reloading
import QueryWatch.Proofs.Generations.Solo
import QueryWatch.Proofs.Generations.Sequential
import QueryWatch.Proofs.Wire.Fields
import QueryWatch.Proofs.Wire.RoundTrip
import QueryWatch.Proofs.Line.Escape
import QueryWatch.Proofs.Line.Fields
import QueryWatch.Proofs.Operations.Basic
import QueryWatch.Proofs.Operations.FreshStart
import QueryWatch.Proofs.Operations.Reloads
import QueryWatch.Proofs.Lifecycle.Numbered
import QueryWatch.Proofs.Lifecycle.Erasure
import QueryWatch.Proofs.Lifecycle.History
import QueryWatch.Proofs.Lifecycle.Known
import QueryWatch.Proofs.Lifecycle.Settled
import QueryWatch.Proofs.Lifecycle.Sightings
import QueryWatch.Proofs.Lifecycle.Chronicle
import QueryWatch.Proofs.Lifecycle.Account
import QueryWatch.Proofs.Line.Series
import QueryWatch.Proofs.Line.SlowQueries
import QueryWatch.Proofs.Line.Stream
import QueryWatch.Proofs.Operations.Misfits
import QueryWatch.Proofs.Operations.Discretion
import QueryWatch.Proofs.Monitor.Acknowledgments
import QueryWatch.Proofs.Monitor.Retries
import QueryWatch.Proofs.Reporters.Silence
import QueryWatch.Proofs.Config.Documents
import QueryWatch.Proofs.Gauge.Datagrams
import QueryWatch.Proofs.Json.Alike
import QueryWatch.Proofs.Json.Payloads
import QueryWatch.Proofs.Config.Unknown
import QueryWatch.Proofs.SlowQuery.Construction
import QueryWatch.Proofs.SlowQuery.Decisions
import QueryWatch.Proofs.Periodic.Loop
import QueryWatch.Proofs.Periodic.Cancelling
import QueryWatch.Proofs.RequestRate.Counting
import QueryWatch.Proofs.RequestRate.Conservation
import QueryWatch.Proofs.RequestRate.Sequential
import QueryWatch.Proofs.RequestRate.Timers
import QueryWatch.Proofs.Config.Given
import QueryWatch.Proofs.Reporters.Construction
import QueryWatch.Proofs.Time.Conversions
import QueryWatch.Proofs.Encoding.Enumeration
import QueryWatch.Proofs.Text.ByteOrder
import QueryWatch.Proofs.Encoding.Orderless
import QueryWatch.Proofs.Config.Names
import QueryWatch.Proofs.Config.OptionSet
import QueryWatch.Proofs.Config.Confinement
