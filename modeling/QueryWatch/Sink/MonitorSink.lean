import QueryWatch.Building
import QueryWatch.Sink.Endpoint
import QueryWatch.Sink.GaugeSink
import QueryWatch.Turn

namespace QueryWatch.Sink

open Config

/-- Measurements go to a monitoring peer as events, one message each, and wait for the acknowledgment. An
attempt that fails is made once more on a new connection; then the event is dropped. -/
structure MonitorSink where
  kind : String
  hostname : String
  ttl : Binary32
  state : String
  endpoint : Option Endpoint
  stopped : Bool := false
  peer : Nat → Reaction

namespace MonitorSink

structure Options where
  host : Option String := none
  port : UInt16 := 5555
  ttl : Binary32 := .ofRatio false 30 1
  state : String := "ok"
  ackTimeoutMillis : UInt64 := 1000

def Options.record : Record Options where
  name := "RiemannOptions"
  start := {}
  fields :=
    [.of "host" (readOption readString) fun s o => { o with host := s },
      .of "port" readUInt16 fun n o => { o with port := n },
      .of "ttl" readBinary32 fun x o => { o with ttl := x },
      .of "state" readString fun s o => { o with state := s },
      .of "ackTimeoutMillis" readUInt64 fun n o => { o with ackTimeoutMillis := n }]

def build (entry : ReporterEntry) (site : Site) : Construction MonitorSink :=
  match Options.record.options entry.options with
  | .error e => ⟨.refused e, []⟩
  | .ok o =>
    if o.ackTimeoutMillis = 0 then ⟨.refused (.invalidOption "ackTimeoutMillis" .zero), []⟩
    else
      let sink : MonitorSink :=
        { kind := entry.kind, hostname := site.global.hostname, ttl := o.ttl, state := o.state
          endpoint := none, peer := site.network.reaction }
      match GaugeSink.nonEmpty o.host with
      | none => ⟨.built sink, [.notice (.reporterDisabled entry.kind "host")]⟩
      | some host =>
        let (resolved, signals) := GaugeSink.lookUp entry.kind host site.network
        ⟨.built { sink with endpoint := some { host, resolved } }, signals⟩

def isEnabled (s : MonitorSink) : Bool :=
  s.endpoint.isSome

/-- The event of a measurement: its tags become texts, its fields attributes. -/
def event (s : MonitorSink) (m : Measurement) : Wire.Event where
  time := some (m.timeNanos / 1000000000)
  timeMicros := some (m.timeNanos / 1000)
  state := some s.state
  service := some m.name
  host := some s.hostname
  tags := m.tags.entries.map fun e => e.1 ++ ":" ++ e.2
  ttl := some s.ttl
  attributes := m.fields.entries.map fun e => ⟨e.1, some e.2⟩
  metric := m.value

def frame (s : MonitorSink) (m : Measurement) : List UInt8 :=
  (Wire.Message.ofEvents [s.event m]).encodeFramed

def tries : Nat := 2

def attempt (peer : Nat → Reaction) (frame : List UInt8) :
    (tries : Nat) → Endpoint → List Attempt × Endpoint
  | 0, e => ([], e)
  | tries + 1, e =>
    let (a, e) := e.send peer frame
    if a.fault.isNone then ([a], e)
    else
      let (rest, e) := attempt peer frame tries e
      (a :: rest, e)

/-- What has to be told of the attempts for a measurement: the last one decides. -/
def tell (kind measurement : String) (attempts : List Attempt) : List Signal :=
  match attempts.getLast? with
  | some ⟨_, _, some fault⟩ =>
    [.counted (.reportFailures kind), .notice (.eventDropped kind measurement fault)]
  | some ⟨_, _, none⟩ => [.counted (.reports kind)]
  | none => []

def report (m : Measurement) (s : MonitorSink) : Turn MonitorSink :=
  match s.endpoint, s.stopped with
  | some e, false =>
    let (attempts, e) := attempt s.peer (s.frame m) tries e
    { unit := { s with endpoint := some e }, signals := tell s.kind m.name attempts }
  | _, _ => { unit := s }

def stop (s : MonitorSink) : Turn MonitorSink where
  unit := { s with stopped := true, endpoint := s.endpoint.map Endpoint.close }

@[simp] theorem kind_unit_report (m : Measurement) (s : MonitorSink) :
    (s.report m).unit.kind = s.kind := by
  unfold report
  split <;> rfl

instance : ReporterUnit MonitorSink where
  kind := kind
  report := report
  stop := stop
  kind_report := kind_unit_report

end MonitorSink

end QueryWatch.Sink
