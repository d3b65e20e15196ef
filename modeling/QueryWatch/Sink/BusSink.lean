import QueryWatch.Building
import QueryWatch.Encoding.Payload
import QueryWatch.Turn

namespace QueryWatch.Sink

open Config
open Encoding (PayloadFormat)

/-- Messages wait in the queue of a producer, which is made at the first report; a message that finds no
place there is lost. -/
structure BusSink where
  kind : String
  topic : String
  key : String
  format : PayloadFormat
  isEnabled : Bool
  creatable : Bool
  /-- How many messages may wait; zero means any number. -/
  queueLimit : Nat
  broker : Bool
  queue : List String := []
  stopped : Bool := false

namespace BusSink

structure Options where
  servers : Option String := none
  topic : String := "diagnostics"
  format : PayloadFormat := .line
  queueLimit : UInt32 := 10000
  timeoutMillis : UInt32 := 5000

def Options.record : Record Options where
  name := "KafkaOptions"
  start := {}
  fields :=
    [.of "bootstrapServers" (readOption readString) fun s o => { o with servers := s },
      .of "topic" readString fun s o => { o with topic := s },
      .of "format" (readChoice [("line", .line), ("json", .json)]) fun f o => { o with format := f },
      .of "queueBufferingMaxMessages" readUInt32 fun n o => { o with queueLimit := n },
      .of "messageTimeoutMs" readUInt32 fun n o => { o with timeoutMillis := n }]

def greatestSetting : Nat := 2147483647

def build (entry : ReporterEntry) (site : Site) : Construction BusSink :=
  match Options.record.options entry.options with
  | .error e => ⟨.refused e, []⟩
  | .ok o =>
    if o.topic = "" then ⟨.refused (.invalidOption "topic" .empty), []⟩
    else
      let enabled := (o.servers.filter (· ≠ "")).isSome
      let sink : BusSink :=
        { kind := entry.kind, topic := o.topic, key := site.global.partitionKey
          format := o.format, isEnabled := enabled
          creatable := ¬o.servers.any (·.contains '\x00') ∧ o.queueLimit.toNat ≤ greatestSetting ∧
            o.timeoutMillis.toNat ≤ greatestSetting
          queueLimit := o.queueLimit.toNat, broker := site.network.broker }
      ⟨.built sink,
        if enabled then [] else [.notice (.reporterDisabled entry.kind "bootstrapServers")]⟩

def greatestMessage : Nat := 1000000

def greatestTopic : Nat := 512

/-- Whether the name of the topic can be handed to the producer: it ends before a NUL. -/
def canHandOver (s : BusSink) : Bool :=
  !s.topic.contains '\x00'

def hasPlace (s : BusSink) : Bool :=
  s.queueLimit = 0 || s.queue.length < s.queueLimit

def accepts (s : BusSink) (payload : String) : Bool :=
  s.creatable && s.topic.utf8ByteSize ≤ greatestTopic && s.hasPlace &&
    payload.utf8ByteSize + s.key.utf8ByteSize ≤ greatestMessage

/-- A message for a topic that cannot be handed over ends in a panic, if there is a producer at all. -/
def report (m : Measurement) (s : BusSink) : Turn BusSink :=
  if s.isEnabled ∧ ¬s.stopped then
    if s.creatable ∧ ¬s.canHandOver then { unit := s, panicked := true }
    else
      let payload := s.format.encode m
      if s.accepts payload then
        { unit := { s with queue := s.queue ++ [payload] }
          signals := [.counted (.reports s.kind)] }
      else
        { unit := s
          signals := [.counted (.reportFailures s.kind), .notice (.notPublished s.kind .bus)] }
  else { unit := s }

/-- Flushing brings the queue to the broker, if there is one. -/
def stop (s : BusSink) : Turn BusSink :=
  if s.stopped ∨ s.queue = [] then { unit := { s with stopped := true } }
  else if s.broker then { unit := { s with stopped := true, queue := [] } }
  else
    { unit := { s with stopped := true }
      signals := [.notice (.notFlushed s.kind .unflushed)] }

@[simp] theorem kind_unit_report (m : Measurement) (s : BusSink) :
    (s.report m).unit.kind = s.kind := by
  unfold report
  grind

@[simp] theorem kind_unit_stop (s : BusSink) : s.stop.unit.kind = s.kind := by
  unfold stop
  grind

instance : ReporterUnit BusSink where
  kind := kind
  report := report
  stop := stop
  kind_report := kind_unit_report
  kind_stop := kind_unit_stop

end BusSink

end QueryWatch.Sink
