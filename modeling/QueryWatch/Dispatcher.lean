import QueryWatch.Pipeline

namespace QueryWatch

/-- The dispatcher holds the live pipeline. A reload builds a new one on the side, puts it in place, starts
it, and then retires the old one. Whatever modules emit goes to the pipeline that is live at that moment. A
shutdown is a reload to nothing, and the last one. -/
structure Dispatcher (μ ρ : Type) where
  live : Pipeline μ ρ
  moduleKinds : Registry ModuleEntry μ
  reporterKinds : Registry ReporterEntry ρ
  defaults : GlobalSettings
  network : Sink.Network
  /-- The time, in nanoseconds of the epoch. -/
  now : Nat
  isShutDown : Bool := false

namespace Dispatcher

variable {μ ρ : Type} [ModuleUnit μ] [ReporterUnit ρ]

/-- Stops a pipeline that is not live any more; what its modules emit still goes to the live one. -/
def retire (old : Pipeline μ ρ) (d : Dispatcher μ ρ) : Dispatcher μ ρ × List Signal :=
  let (_, reporters, shown) := LiveModule.each LiveModule.stop old.modules d.live.reporters
  let (_, more) := old.reporters.stop
  ({ d with live := { d.live with reporters } }, shown ++ more)

def replace (c : Configuration) (d : Dispatcher μ ρ) :
    Pipeline μ ρ × Dispatcher μ ρ × List Signal :=
  let (built, shown) := Pipeline.build d.moduleKinds d.reporterKinds d.network c
  let (started, more) := built.start d.now
  (d.live, { d with live := started }, shown ++ more)

def install (c : Configuration) (d : Dispatcher μ ρ) : Dispatcher μ ρ × List Signal :=
  let (old, d, shown) := d.replace c
  let (d, more) := d.retire old
  (d, shown ++ more)

def new (moduleKinds : Registry ModuleEntry μ) (reporterKinds : Registry ReporterEntry ρ)
    (defaults : GlobalSettings) (network : Sink.Network) (now : Nat) (c : Configuration) :
    Dispatcher μ ρ × List Signal :=
  install c
    { live := .empty defaults, moduleKinds, reporterKinds, defaults, network, now }

def report (e : QueryEvent) (d : Dispatcher μ ρ) : Dispatcher μ ρ × List Signal :=
  let (live, shown) := d.live.report e
  ({ d with live }, shown)

/-- The first half of a reload, up to the point where the old pipeline is waited for; after a shutdown
there is nothing to wait for. -/
def beginReload (c : Configuration) (d : Dispatcher μ ρ) :
    Option (Pipeline μ ρ) × Dispatcher μ ρ × List Signal :=
  if d.isShutDown then (none, d, [.notice .reloadIgnored])
  else
    let (old, d, shown) := d.replace c
    (some old, d, shown)

def endReload (old : Option (Pipeline μ ρ)) (d : Dispatcher μ ρ) : Dispatcher μ ρ × List Signal :=
  match old with
  | none => (d, [])
  | some old =>
    let (d, shown) := d.retire old
    (d, shown ++ [.counted .reloads])

def reload (c : Configuration) (d : Dispatcher μ ρ) : Dispatcher μ ρ × List Signal :=
  let (old, d, shown) := d.beginReload c
  let (d, more) := d.endReload old
  (d, shown ++ more)

/-- Puts the empty pipeline in place and retires what was live; a second time nothing happens. -/
def shutdown (d : Dispatcher μ ρ) : Dispatcher μ ρ × List Signal :=
  if d.isShutDown then (d, [])
  else
    let old := d.live
    retire old { d with live := .empty d.defaults, isShutDown := true }

def module? (kind : String) (d : Dispatcher μ ρ) : Option μ :=
  (d.live.modules.find? fun l => l.name = kind).map LiveModule.unit

/-- Changes the first live module that a function applies to, and gives what the function says. -/
def withModule {α : Type} (f : μ → Option (μ × α)) (d : Dispatcher μ ρ) :
    Dispatcher μ ρ × Option α :=
  let (modules, said) := go d.live.modules
  ({ d with live := { d.live with modules } }, said)
where
  go : List (LiveModule μ) → List (LiveModule μ) × Option α
    | [] => ([], none)
    | l :: ls =>
      match f l.unit with
      | some (unit, a) => ({ l with unit } :: ls, some a)
      | none =>
        let (ls, a) := go ls
        (l :: ls, a)

def nextDue? (d : Dispatcher μ ρ) : Option Nat :=
  (d.live.modules.filterMap fun l => ModuleUnit.due? l.unit).min?

def tickNext? (limit : Nat) (d : Dispatcher μ ρ) : Option (Dispatcher μ ρ × List Signal) :=
  match d.nextDue? with
  | none => none
  | some due =>
    if limit < due then none
    else
      let now := max d.now due
      let (modules, reporters, shown) := tickFirst now due d.live.modules d.live.reporters
      some ({ d with now, live := { d.live with modules, reporters } }, shown)
where
  tickFirst (now due : Nat) : List (LiveModule μ) → Fanout ρ →
      List (LiveModule μ) × Fanout ρ × List Signal
    | [], f => ([], f, [])
    | l :: ls, f =>
      if ModuleUnit.due? l.unit = some due then
        let (l, f, shown) := l.tick now f
        (l :: ls, f, shown)
      else
        let (ls, f, shown) := tickFirst now due ls f
        (l :: ls, f, shown)

def tickWhile (enough : List Signal → Bool) (limit : Nat) :
    (fuel : Nat) → List Signal → Dispatcher μ ρ → Dispatcher μ ρ × List Signal
  | 0, shown, d => (d, shown)
  | fuel + 1, shown, d =>
    if enough shown then (d, shown)
    else
      match d.tickNext? limit with
      | some (d, more) => tickWhile enough limit fuel (shown ++ more) d
      | none => (d, shown)

end Dispatcher

end QueryWatch
