import QueryWatch.Building
import QueryWatch.Turn

namespace QueryWatch.Rehearsal

/-- A reporter that records; it goes on recording after a stop. -/
structure Recorder where
  kind : String
  mark : Json
  panics : List String

namespace Recorder

def construction (r : Recorder) : Construction Recorder :=
  ⟨.built r, [.sighted (.reporterBuilt r.kind r.mark)]⟩

instance : ReporterUnit Recorder where
  kind := kind
  report m r :=
    { unit := r, signals := [.sighted (.reported r.kind r.mark m)]
      panicked := r.panics.contains "report" }
  stop r :=
    { unit := r, signals := [.sighted (.reporterStopped r.kind r.mark)]
      panicked := r.panics.contains "stop" }

end Recorder

/-- A module that emits what it was given, whatever the event. -/
structure Player where
  kind : String
  mark : Json
  panics : List String
  onEvent : List Measurement
  onStart : List Measurement
  onStop : List Measurement
  started : Bool := false

namespace Player

def construction (p : Player) (global : GlobalSettings) : Construction Player :=
  ⟨.built p, [.sighted (.moduleBuilt p.kind p.mark global.hostname)]⟩

def seen (p : Player) (place : String) : Signal :=
  .sighted (.moduleCalled p.kind p.mark place)

/-- A panic comes before the measurements of a start. -/
def start (p : Player) : ModuleTurn Player :=
  let panics := p.panics.contains "start"
  { unit := { p with started := true }
    acts := .signal (p.seen "start") :: if panics then [] else p.onStart.map .emit
    panicked := panics }

/-- A panic comes before the measurements of a stop, which need a start. -/
def stop (p : Player) : ModuleTurn Player :=
  let panics := p.panics.contains "stop"
  { unit := p
    acts := .signal (p.seen "stop") ::
      if panics || !p.started then [] else p.onStop.map .emit
    panicked := panics }

instance : ModuleUnit Player where
  name := kind
  transform _ p :=
    ({ unit := p, signals := [p.seen "transform"], panicked := p.panics.contains "transform" },
      p.onEvent)
  start _ := start
  stop := stop
  due? _ := none
  tick _ p := { unit := p }

end Player

end QueryWatch.Rehearsal
