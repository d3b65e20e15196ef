import QueryWatch.Sink.BusSink
import QueryWatch.Sink.LogSink
import QueryWatch.Sink.MonitorSink
import QueryWatch.Sink.TimeSeriesSink

namespace QueryWatch

open Sink

inductive BuiltinReporter
  | log (s : LogSink)
  | timeSeries (s : TimeSeriesSink)
  | gauge (s : GaugeSink)
  | bus (s : BusSink)
  | monitor (s : MonitorSink)

namespace BuiltinReporter

instance : ReporterUnit BuiltinReporter where
  kind
    | log s => ReporterUnit.kind s
    | timeSeries s => ReporterUnit.kind s
    | gauge s => ReporterUnit.kind s
    | bus s => ReporterUnit.kind s
    | monitor s => ReporterUnit.kind s
  report m
    | log s => (ReporterUnit.report m s).map log
    | timeSeries s => (ReporterUnit.report m s).map timeSeries
    | gauge s => (ReporterUnit.report m s).map gauge
    | bus s => (ReporterUnit.report m s).map bus
    | monitor s => (ReporterUnit.report m s).map monitor
  stop
    | log s => (ReporterUnit.stop s).map log
    | timeSeries s => (ReporterUnit.stop s).map timeSeries
    | gauge s => (ReporterUnit.stop s).map gauge
    | bus s => (ReporterUnit.stop s).map bus
    | monitor s => (ReporterUnit.stop s).map monitor
  kind_report m
    | log s => ReporterUnit.kind_report m s
    | timeSeries s => ReporterUnit.kind_report m s
    | gauge s => ReporterUnit.kind_report m s
    | bus s => ReporterUnit.kind_report m s
    | monitor s => ReporterUnit.kind_report m s
  kind_stop
    | log s => ReporterUnit.kind_stop s
    | timeSeries s => ReporterUnit.kind_stop s
    | gauge s => ReporterUnit.kind_stop s
    | bus s => ReporterUnit.kind_stop s
    | monitor s => ReporterUnit.kind_stop s

def isEnabled? : BuiltinReporter → Option Bool
  | log _ => none
  | timeSeries s => some s.isEnabled
  | gauge s => some s.isEnabled
  | bus s => some s.isEnabled
  | monitor s => some s.isEnabled

def registry : Registry ReporterEntry BuiltinReporter :=
  .ofList [("log", fun entry _ => .ofExcept ((LogSink.build entry).map log)),
    ("influxdb", fun entry site => (TimeSeriesSink.build entry site).map timeSeries),
    ("datadog", fun entry site => (GaugeSink.build entry site).map gauge),
    ("kafka", fun entry site => (BusSink.build entry site).map bus),
    ("riemann", fun entry site => (MonitorSink.build entry site).map monitor)]

end BuiltinReporter

end QueryWatch
