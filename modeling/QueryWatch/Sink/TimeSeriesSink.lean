import QueryWatch.Building
import QueryWatch.Encoding.Line
import QueryWatch.Sink.Flusher
import QueryWatch.Turn

namespace QueryWatch.Sink

open Config

/-- A report puts one line into a queue and never waits; batches are written behind the back of the callers,
and a batch that cannot be written is lost. -/
structure TimeSeriesSink where
  kind : String
  flusher : Option Flusher
  /-- Whether the flusher lives; without it points vanish. -/
  alive : Bool := true
  flushMillis : Nat := 0
  dropped : Nat := 0
  stopped : Bool := false
  transfers : Nat := 0
  outcome : Nat → Option Fault

namespace TimeSeriesSink

structure Options where
  url : Option String := none
  database : String := "diagnostics"
  username : Option String := none
  password : Option String := none
  retentionPolicy : String := "autogen"
  batchSize : UInt64 := 1000
  flushPeriodMillis : UInt64 := 1000
  queueCapacity : UInt64 := 10000

def Options.record : Record Options where
  name := "InfluxOptions"
  start := {}
  fields :=
    [.of "url" (readOption readString) fun s o => { o with url := s },
      .of "database" readString fun s o => { o with database := s },
      .of "username" (readOption readString) fun s o => { o with username := s },
      .of "password" (readOption readString) fun s o => { o with password := s },
      .of "retentionPolicy" readString fun s o => { o with retentionPolicy := s },
      .of "batchSize" readSize fun n o => { o with batchSize := n },
      .of "flushPeriodMillis" readUInt64 fun n o => { o with flushPeriodMillis := n },
      .of "queueCapacity" readSize fun n o => { o with queueCapacity := n }]

/-- The address that batches go to: slashes at the end do not count. -/
def writeAddress (url : String) : String :=
  String.ofList ((url.toList.reverse.dropWhile (· = '/')).reverse ++ "/write".toList)

def zeroSize? (o : Options) : Option String :=
  if o.batchSize = 0 then some "batchSize"
  else if o.queueCapacity = 0 then some "queueCapacity"
  else if o.flushPeriodMillis = 0 then some "flushPeriodMillis"
  else none

def greatestCapacity : Nat := (UInt64.size - 1) / 8

/-- The greatest number of points that a batch can have room for: a point takes twenty-four bytes. -/
def greatestBatch : Nat := (UInt64.size / 2 - 1) / 24

def build (entry : ReporterEntry) (site : Site) : Construction TimeSeriesSink :=
  match Options.record.options entry.options with
  | .error e => ⟨.refused e, []⟩
  | .ok o =>
    let sink : TimeSeriesSink :=
      { kind := entry.kind, flusher := none, outcome := site.network.batch }
    match o.url.filter (· ≠ "") with
    | none => ⟨.built sink, [.notice (.reporterDisabled entry.kind "url")]⟩
    | some url =>
      match zeroSize? o, Url.check (writeAddress url) with
      | some option, _ => ⟨.refused (.invalidOption option .zero), []⟩
      | none, .error fault => ⟨.refused (.invalidOption "url" (.url fault)), []⟩
      | none, .ok () =>
        if greatestCapacity < o.queueCapacity.toNat then ⟨.panicked, []⟩
        else
          ⟨.built { sink with
              flusher := some
                { capacity := o.queueCapacity.toNat, batchSize := o.batchSize.toNat }
              alive := o.batchSize.toNat ≤ greatestBatch
              flushMillis := o.flushPeriodMillis.toNat }, []⟩

def isEnabled (s : TimeSeriesSink) : Bool :=
  s.flusher.isSome

def afterWriting (kind : String) (outcome : Nat → Option Fault) :
    (transfers : Nat) → (sizes : List Nat) → List Signal
  | _, [] => []
  | n, size :: sizes =>
    (match outcome n with
      | some fault => [.counted (.reportFailures kind), .notice (.batchLost kind size fault)]
      | none => []) ++ afterWriting kind outcome (n + 1) sizes

def settle (s : TimeSeriesSink) : Turn TimeSeriesSink :=
  match s.flusher, s.alive with
  | some f, true =>
    let (sizes, f) := f.settle f.rounds
    { unit := { s with flusher := some f, transfers := s.transfers + sizes.length }
      signals := afterWriting s.kind s.outcome s.transfers sizes }
  | _, _ => { unit := s }

/-- Lets a time in milliseconds pass: the flusher goes on, and if its period is over it writes what it
has. -/
def wait (millis : Nat) (s : TimeSeriesSink) : Turn TimeSeriesSink :=
  let first := s.settle
  if first.unit.flushMillis ≤ millis then
    let second :=
      ({ first.unit with flusher := first.unit.flusher.map Flusher.flush } : TimeSeriesSink).settle
    { second with signals := first.signals ++ second.signals }
  else first

def report (m : Measurement) (s : TimeSeriesSink) : Turn TimeSeriesSink :=
  match s.flusher, s.stopped || !s.alive || !Encoding.Line.hasFields m with
  | some f, false =>
    match f.offer? (Encoding.Line.encode m) with
    | some f =>
      { unit := { s with flusher := some f.takeAll }, signals := [.counted (.reports s.kind)] }
    | none =>
      { unit := { s with dropped := s.dropped + 1 }
        signals := [.counted (.dropped s.kind), .notice (.queueFull s.kind)] }
  | _, _ => { unit := s }

def stop (s : TimeSeriesSink) : Turn TimeSeriesSink where
  unit := if s.stopped then s
    else { s with stopped := true, flusher := s.flusher.map Flusher.stop }

@[simp] theorem kind_unit_report (m : Measurement) (s : TimeSeriesSink) :
    (s.report m).unit.kind = s.kind := by
  unfold report
  grind

@[simp] theorem kind_unit_stop (s : TimeSeriesSink) : s.stop.unit.kind = s.kind := by
  unfold stop
  grind

instance : ReporterUnit TimeSeriesSink where
  kind := kind
  report := report
  stop := stop
  kind_report := kind_unit_report
  kind_stop := kind_unit_stop

end TimeSeriesSink

end QueryWatch.Sink
