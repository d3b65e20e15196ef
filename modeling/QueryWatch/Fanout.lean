import QueryWatch.Building
import QueryWatch.Turn

namespace QueryWatch

/-- An ordered set of reporters. One that panics loses the measurement it was given; the others do not
notice. -/
structure Fanout (ρ : Type) where
  reporters : List ρ := []

namespace Fanout

variable {ρ : Type} [ReporterUnit ρ]

/-- Goes through units in order and changes each, gathering what they show. -/
def sweep {σ : Type} (f : σ → σ × List Signal) : List σ → List σ × List Signal
  | [] => ([], [])
  | s :: rest =>
    let (s, shown) := f s
    let (rest, more) := sweep f rest
    (s :: rest, shown ++ more)

omit [ReporterUnit ρ] in
theorem fst_sweep {σ : Type} (f : σ → σ × List Signal) (l : List σ) :
    (sweep f l).1 = l.map fun s => (f s).1 := by
  induction l with
  | nil => rfl
  | cons s rest ih => simp [sweep, ih]

/-- One reporter is called; a panic is counted as a failure of its kind. -/
def deliver (m : Measurement) (r : ρ) : ρ × List Signal :=
  let t := ReporterUnit.report m r
  if t.panicked then
    let kind := ReporterUnit.kind t.unit
    (t.unit, t.signals ++
      [.counted (.reportFailures kind), .notice (.deliveryPanicked kind m.name)])
  else (t.unit, t.signals)

/-- Whether routes lead to a kind of reporter; without routes all do. -/
def admits (routes : Option (List String)) (kind : String) : Bool :=
  match routes with
  | none => true
  | some kinds => kinds.contains kind

def reportTo (routes : Option (List String)) (m : Measurement) (f : Fanout ρ) :
    Fanout ρ × List Signal :=
  let (reporters, shown) := sweep (fun r =>
    if admits routes (ReporterUnit.kind r) then deliver m r else (r, [])) f.reporters
  (⟨reporters⟩, shown)

def report (m : Measurement) (f : Fanout ρ) : Fanout ρ × List Signal :=
  f.reportTo none m

def stopOne (r : ρ) : ρ × List Signal :=
  let t := ReporterUnit.stop r
  if t.panicked then
    (t.unit, t.signals ++ [.notice (.reporterStopPanicked (ReporterUnit.kind t.unit))])
  else (t.unit, t.signals)

def stop (f : Fanout ρ) : Fanout ρ × List Signal :=
  let (reporters, shown) := sweep stopOne f.reporters
  (⟨reporters⟩, shown)

def size (f : Fanout ρ) : Nat :=
  f.reporters.length

def isEmpty (f : Fanout ρ) : Bool :=
  f.reporters.isEmpty

def kinds (f : Fanout ρ) : List String :=
  f.reporters.map ReporterUnit.kind

omit [ReporterUnit ρ] in
def buildOne (registry : Registry ReporterEntry ρ) (site : Site) (entry : ReporterEntry) :
    Option ρ × List Signal :=
  let c := registry.build entry.kind entry site
  match c.outcome with
  | .built r => (some r, c.signals)
  | .refused e =>
    (none, c.signals ++ [.counted (.reporterInitFailures entry.kind),
      .notice (.reporterNotBuilt entry.kind e)])
  | .panicked =>
    (none, c.signals ++ [.counted (.reporterInitFailures entry.kind),
      .notice (.reporterBuildPanicked entry.kind)])

def buildAll (registry : Registry ReporterEntry ρ) (site : Site) :
    List ReporterEntry → List ρ × List Signal
  | [] => ([], [])
  | entry :: rest =>
    let (r, shown) := buildOne registry site entry
    let (rs, more) := buildAll registry site rest
    (r.toList ++ rs, shown ++ more)

def build (registry : Registry ReporterEntry ρ) (site : Site) (entries : List ReporterEntry) :
    Fanout ρ × List Signal :=
  let (rs, shown) := buildAll registry site entries
  (⟨rs⟩, shown ++ if rs.isEmpty then [.notice .noReporters] else [])

end Fanout

end QueryWatch
