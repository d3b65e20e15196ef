import QueryWatch.Building
import QueryWatch.Encoding.LogLine
import QueryWatch.Turn

namespace QueryWatch.Sink

open Config

structure LogSink where
  kind : String
  level : Level

namespace LogSink

def options : Record String where
  name := "LogOptions"
  start := "info"
  fields := [.of "level" readString fun s _ => s]

def build (entry : ReporterEntry) : Except BuildError LogSink := do
  let name ← options.options entry.options
  match Level.ofText? name with
  | some level => return ⟨entry.kind, level⟩
  | none => .error (.invalidOption "level" .level)

theorem build_of_level {entry : ReporterEntry} {name : String} {level : Level}
    (hname : options.options entry.options = .ok name) (hlevel : Level.ofText? name = some level) :
    build entry = .ok ⟨entry.kind, level⟩ := by
  simp only [build, hname, hlevel, bind, Except.bind]
  rfl

def report (m : Measurement) (s : LogSink) : Turn LogSink where
  unit := s
  signals := [.logged s.level (Encoding.LogLine.format m), .counted (.reports s.kind)]

/-- The log has nothing to release, and goes on after a stop. -/
instance : ReporterUnit LogSink where
  kind := kind
  report := report
  stop s := { unit := s }

end LogSink

end QueryWatch.Sink
