import QueryWatch.Building
import QueryWatch.SlowQuery.Decider
import QueryWatch.Turn

namespace QueryWatch.SlowQuery

open Config

structure Options where
  thresholdMillis : UInt64 := 25
  tables : List String := []

def Options.record : Record Options where
  name := "SlowQueryOptions"
  start := {}
  fields :=
    [.of "slowQueryThresholdInMilliseconds" readUInt64
        fun n o => { o with thresholdMillis := n },
      .of "tablesForLogging" (readList readString) fun l o => { o with tables := l }]

def selectors : List String → Except BuildError (List Selector)
  | [] => .ok []
  | entry :: rest =>
    match Selector.parse? entry with
    | some s => (selectors rest).map (s :: ·)
    | none => .error (.invalidOption "tablesForLogging" (.tableEntry entry))

structure Watcher where
  name : String
  title : String
  decider : Decider
  baseTags : Labels

namespace Watcher

def build (entry : ModuleEntry) (global : GlobalSettings) : Except BuildError Watcher := do
  let options ← Options.record.options entry.options
  let chosen ← selectors options.tables
  return {
    name := entry.kind
    title := entry.namespaceOr "slow_query"
    decider := .new (thousandfold options.thresholdMillis) chosen
    baseTags := global.baseTags }

/-- Microseconds as milliseconds: rounded to a double, and again after the division. -/
def millis (micros : UInt64) : Binary64 :=
  match Binary.Format.double.rounded? micros.toNat 1 with
  | some (num, den) => .ofRatio false num (den * 1000)
  | none => .ofRatio false 0 1

def measurement (w : Watcher) (e : QueryEvent) : Measurement where
  name := w.title
  value := some (millis e.executionMicros)
  time := e.timestampMillis
  unit := .milliseconds
  tags := (w.baseTags.insert "keyspace" e.keyspace).insert "table" e.table
  fields := .ofList [("client", e.clientAddress), ("statement", e.statement)]

def measurements (w : Watcher) (e : QueryEvent) : List Measurement :=
  if w.decider.shouldReport e.executionMicros e.keyspace e.table then [w.measurement e] else []

def mapDecider (w : Watcher) (f : Decider → Decider) : Watcher :=
  { w with decider := f w.decider }

instance : ModuleUnit Watcher where
  name := name
  transform e w := ({ unit := w }, w.measurements e)
  start _ w := { unit := w }
  stop w := { unit := w }
  due? _ := none
  tick _ w := { unit := w }

end Watcher

end QueryWatch.SlowQuery
