import QueryWatch.Fanout

namespace QueryWatch

/-- A module with the kinds of reporters that its measurements go to; none means all. -/
structure LiveModule (μ : Type) where
  unit : μ
  routes : Option (List String)

/-- One generation of modules and reporters. Events go through the modules in order; each measurement that
comes of one goes to the reporters that the routes of its module lead to. -/
structure Pipeline (μ ρ : Type) where
  global : GlobalSettings
  modules : List (LiveModule μ) := []
  reporters : Fanout ρ := {}

namespace LiveModule

variable {μ ρ : Type} [ModuleUnit μ] [ReporterUnit ρ]

def name (l : LiveModule μ) : String :=
  ModuleUnit.name l.unit

def publish (name : String) (routes : Option (List String)) (m : Measurement) (f : Fanout ρ) :
    Fanout ρ × List Signal :=
  let (f, shown) := f.reportTo routes m
  (f, .counted (.measurements name) :: shown)

def publishAll (name : String) (routes : Option (List String)) :
    List Measurement → Fanout ρ → Fanout ρ × List Signal
  | [], f => (f, [])
  | m :: ms, f =>
    let (f, shown) := publish name routes m f
    let (f, more) := publishAll name routes ms f
    (f, shown ++ more)

def perform (name : String) (routes : Option (List String)) :
    List Act → Fanout ρ → Fanout ρ × List Signal
  | [], f => (f, [])
  | .signal s :: acts, f =>
    let (f, more) := perform name routes acts f
    (f, s :: more)
  | .emit m :: acts, f =>
    let (f, shown) := publish name routes m f
    let (f, more) := perform name routes acts f
    (f, shown ++ more)

/-- A call in which a module may emit; what is to be told of a panic comes last. -/
def run (call : μ → ModuleTurn μ) (onPanic : String → List Signal) (l : LiveModule μ)
    (f : Fanout ρ) : LiveModule μ × Fanout ρ × List Signal :=
  let t := call l.unit
  let (f, shown) := perform l.name l.routes t.acts f
  ({ l with unit := t.unit }, f, shown ++ if t.panicked then onPanic l.name else [])

def start (now : Nat) (l : LiveModule μ) (f : Fanout ρ) : LiveModule μ × Fanout ρ × List Signal :=
  l.run (ModuleUnit.start now) (fun name => [.notice (.startPanicked name)]) f

def stop (l : LiveModule μ) (f : Fanout ρ) : LiveModule μ × Fanout ρ × List Signal :=
  l.run ModuleUnit.stop (fun name => [.notice (.stopPanicked name)]) f

def tick (now : Nat) (l : LiveModule μ) (f : Fanout ρ) : LiveModule μ × Fanout ρ × List Signal :=
  l.run (ModuleUnit.tick now) (fun name => [.notice (.tickPanicked name)]) f

/-- Passes an event through a module; a module that panics gives no measurements. -/
def transform (e : QueryEvent) (l : LiveModule μ) (f : Fanout ρ) :
    LiveModule μ × Fanout ρ × List Signal :=
  let (t, ms) := ModuleUnit.transform e l.unit
  let l := { l with unit := t.unit }
  if t.panicked then (l, f, t.signals ++ [.notice (.transformPanicked l.name)])
  else
    let (f, shown) := publishAll l.name l.routes ms f
    (l, f, t.signals ++ shown)

/-- Calls the modules one after the other, the reporters going from hand to hand. -/
def each (call : LiveModule μ → Fanout ρ → LiveModule μ × Fanout ρ × List Signal) :
    List (LiveModule μ) → Fanout ρ → List (LiveModule μ) × Fanout ρ × List Signal
  | [], f => ([], f, [])
  | l :: ls, f =>
    let (l, f, shown) := call l f
    let (ls, f, more) := each call ls f
    (l :: ls, f, shown ++ more)

end LiveModule

namespace Pipeline

variable {μ ρ : Type} [ModuleUnit μ] [ReporterUnit ρ]

def empty (global : GlobalSettings) : Pipeline μ ρ :=
  { global }

def report (e : QueryEvent) (p : Pipeline μ ρ) : Pipeline μ ρ × List Signal :=
  let (modules, reporters, shown) := LiveModule.each (LiveModule.transform e) p.modules p.reporters
  ({ p with modules, reporters }, shown)

def start (now : Nat) (p : Pipeline μ ρ) : Pipeline μ ρ × List Signal :=
  let (modules, reporters, shown) := LiveModule.each (LiveModule.start now) p.modules p.reporters
  ({ p with modules, reporters }, shown)

omit [ModuleUnit μ] [ReporterUnit ρ] in
def buildModule (registry : Registry ModuleEntry μ) (site : Site) (entry : ModuleEntry) :
    Option (LiveModule μ) × List Signal :=
  let c := registry.build entry.kind entry site
  match c.outcome with
  | .built unit => (some ⟨unit, entry.reporters⟩, c.signals)
  | .refused e =>
    (none, c.signals ++ [.counted (.moduleInitFailures entry.kind),
      .notice (.moduleNotBuilt entry.kind e)])
  | .panicked =>
    (none, c.signals ++ [.counted (.moduleInitFailures entry.kind),
      .notice (.moduleBuildPanicked entry.kind)])

omit [ModuleUnit μ] [ReporterUnit ρ] in
def buildModules (registry : Registry ModuleEntry μ) (site : Site) :
    List ModuleEntry → List (LiveModule μ) × List Signal
  | [] => ([], [])
  | entry :: rest =>
    let (l, shown) := buildModule registry site entry
    let (ls, more) := buildModules registry site rest
    (l.toList ++ ls, shown ++ more)

omit [ModuleUnit μ] [ReporterUnit ρ] in
def build (moduleKinds : Registry ModuleEntry μ) (reporterKinds : Registry ReporterEntry ρ)
    (network : Sink.Network) (c : Configuration) : Pipeline μ ρ × List Signal :=
  let site : Site := ⟨c.global, network⟩
  let (reporters, shown) := Fanout.build reporterKinds site c.reporters
  let (modules, more) := buildModules moduleKinds site c.modules
  (⟨c.global, modules, reporters⟩, shown ++ more)

end Pipeline

end QueryWatch
