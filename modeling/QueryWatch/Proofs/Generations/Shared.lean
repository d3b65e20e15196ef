import QueryWatch.Proofs.Delivery.Story
import QueryWatch.Proofs.Generations.Outline
import QueryWatch.Proofs.Schedule

namespace QueryWatch

def Pipeline.shape {μ ρ : Type} [ModuleUnit μ] [ReporterUnit ρ] (p : Pipeline μ ρ) : Shape where
  modules := p.modules.map fun l => (l.name, l.routes)
  kinds := p.reporters.kinds

namespace Dispatcher

inductive Request
  | report (e : QueryEvent)
  /-- Somebody emits a measurement in the name of a module. -/
  | publish (name : String) (routes : Option (List String)) (m : Measurement)
  /-- The timer of a module in some generation is over. -/
  | tick (g i : Nat)
  | reload (c : Configuration)
  | shutdown

def Request.sources : Request → List Source
  | report e => [.event e]
  | publish name routes m => [.emission name routes m]
  | _ => []

/-- What a module that was called has yet to show and to emit. -/
structure Performance where
  name : String
  routes : Option (List String)
  acts : List Act
  last : List Signal

namespace Performance

variable {μ : Type} [ModuleUnit μ]

def of (l : LiveModule μ) (t : ModuleTurn μ) (onPanic : String → List Signal) : Performance where
  name := l.name
  routes := l.routes
  acts := t.acts
  last := if t.panicked then onPanic l.name else []

def sources (a : Performance) : List Source :=
  (LiveModule.emitted a.acts).map fun m => .emission a.name a.routes m

end Performance

/-- Where a call has got to. -/
inductive Stage (μ ρ : Type)
  | begun
  | locked (c : Configuration)
  /-- It has seen that the dispatcher is not shut down. -/
  | allowed (c : Configuration)
  | built (p : Pipeline μ ρ)
  /-- The new generation is live, and some of its modules are not started yet. -/
  | starting (g old : Nat) (left : List Nat)
  | flagged
  | clearing
  /-- The empty generation is live. -/
  | cleared (old : Nat)
  | draining (old : Nat)
  | stopping (old : Nat) (left : List Part)
  /-- A reload has still got the lock, whether it installed a pipeline or not. -/
  | unlocking (installed : Bool)
  | telling (installed : Bool)
  | ended

structure Call (μ ρ : Type) where
  request : Request
  stage : Stage μ ρ := .begun
  performance : Option Performance := none
  visit : Option Visit := none
  visits : List Visit := []
  aims : List Source

namespace Call

variable {μ ρ : Type}

def plan (c : Call μ ρ) : List Source :=
  c.performance.elim [] Performance.sources ++
    match c.stage with
    | .begun => c.request.sources
    | _ => []

def owed (c : Call μ ρ) : List Nat :=
  match c.stage with
  | .starting _ old _ => [old]
  | .cleared old => [old]
  | .draining old => [old]
  | _ => []

def left (c : Call μ ρ) : List (Nat × Part) :=
  match c.stage with
  | .stopping old left => left.map fun part => (old, part)
  | _ => []

/-- A call that delivers one thing at most, an event or a measurement. So does a tick, if its module emits
no more than that. -/
def Simple (c : Call μ ρ) : Prop :=
  match c.request with
  | .report _ | .publish .. => True
  | .tick .. => c.aims.length ≤ 1
  | _ => False

def outline (c : Call μ ρ) : Outline where
  intended := c.aims
  plan := c.plan
  visit := c.visit
  visits := c.visits
  owed := c.owed
  left := c.left

def Ended (c : Call μ ρ) : Prop :=
  c.stage = .ended ∧ c.performance = none ∧ c.visit = none

end Call

/-- A dispatcher with calls under way. A call holds a generation from when it has looked up which one is
live until it has delivered all that it has for it. A reload and a shutdown take turns with one lock.
Between the steps of one call any others may take theirs. -/
structure Shared (μ ρ : Type) where
  dispatcher : Dispatcher μ ρ
  past : List (Pipeline μ ρ) := []
  lock : Option Nat := none
  calls : List (Call μ ρ) := []
  history : List Happening := []
  shown : List Signal := []

inductive Choice
  | request (r : Request)
  | call (k : Nat)
  | elapse (time : Nat)

namespace Shared

variable {μ ρ : Type} [ModuleUnit μ] [ReporterUnit ρ]

def generations (s : Shared μ ρ) : List (Pipeline μ ρ) :=
  s.past ++ [s.dispatcher.live]

def liveNumber (s : Shared μ ρ) : Nat :=
  s.past.length

def scene (s : Shared μ ρ) : Scene where
  shapes := s.generations.map Pipeline.shape
  live := s.liveNumber
  history := s.history

def outlines (s : Shared μ ρ) : List Outline :=
  s.calls.map Call.outline

def put (k : Nat) (c : Call μ ρ) (s : Shared μ ρ) : Shared μ ρ :=
  { s with calls := s.calls.set k c }

def say (shown : List Signal) (s : Shared μ ρ) : Shared μ ρ :=
  { s with shown := s.shown ++ shown }

def record (a : Happening) (s : Shared μ ρ) : Shared μ ρ :=
  { s with history := s.history ++ [a] }

def update (g : Nat) (p : Pipeline μ ρ) (s : Shared μ ρ) : Shared μ ρ :=
  if g < s.liveNumber then { s with past := s.past.set g p }
  else { s with dispatcher := { s.dispatcher with live := p } }

def replace (p : Pipeline μ ρ) (s : Shared μ ρ) : Shared μ ρ :=
  { s with
    past := s.generations
    dispatcher := { s.dispatcher with live := p } }

def isFree (g : Nat) (s : Shared μ ρ) : Bool :=
  s.calls.all fun c => c.visit.all fun v => v.generation ≠ g

def hold (k : Nat) (c : Call μ ρ) (source : Source) (s : Shared μ ρ) : Shared μ ρ :=
  s.put k { c with visit := some (.fresh s.liveNumber s.dispatcher.live.shape source) }

def count (k : Nat) (c : Call μ ρ) (v : Visit) (name : String) (rest : List Chore)
    (s : Shared μ ρ) : Shared μ ρ :=
  (s.put k { c with visit := some { v with pending := rest, made := v.made ++ [.count name] } }).say
    [.counted (.measurements name)]

def reportAt (g j : Nat) (m : Measurement) (s : Shared μ ρ) : Shared μ ρ :=
  match s.generations[g]? with
  | none => s
  | some p =>
    match p.reporters.reporters[j]? with
    | none => s
    | some r =>
      let (r, shown) := Fanout.deliver m r
      (s.update g { p with reporters := ⟨p.reporters.reporters.set j r⟩ }).say shown

def deliver (k : Nat) (c : Call μ ρ) (v : Visit) (j : Nat) (m : Measurement) (rest : List Chore)
    (s : Shared μ ρ) : Shared μ ρ :=
  (((s.reportAt v.generation j m).put k
    { c with visit := some { v with pending := rest, made := v.made ++ [.deliver j m] } })).record
      (.delivered k v.generation j m)

def ask (k : Nat) (c : Call μ ρ) (v : Visit) (e : QueryEvent) (p : Pipeline μ ρ)
    (l : LiveModule μ) (s : Shared μ ρ) : Shared μ ρ :=
  let i := v.answers.length
  let (t, ms) := ModuleUnit.transform e l.unit
  let ms := if t.panicked then [] else ms
  let told := if t.panicked then [.notice (.transformPanicked l.name)] else []
  ((s.update v.generation { p with modules := p.modules.set i { l with unit := t.unit } }).put k
    { c with visit := some { v with
        answers := v.answers ++ [ms]
        pending := choresOf p.reporters.kinds i (l.name, l.routes) ms } }).say (t.signals ++ told)

def release (k : Nat) (c : Call μ ρ) (v : Visit) (s : Shared μ ρ) : Shared μ ρ :=
  s.put k { c with visit := none, visits := c.visits ++ [v] }

def serve (k : Nat) (c : Call μ ρ) (v : Visit) (s : Shared μ ρ) : Shared μ ρ :=
  match v.pending with
  | .count name :: rest => s.count k c v name rest
  | .deliver j m :: rest => s.deliver k c v j m rest
  | [] =>
    match v.source, s.generations[v.generation]? with
    | _, none => s
    | .emission .., some _ => s.release k c v
    | .event e, some p =>
      match p.modules[v.answers.length]? with
      | some l => s.ask k c v e p l
      | none => s.release k c v

def perform (k : Nat) (c : Call μ ρ) (a : Performance) (s : Shared μ ρ) : Shared μ ρ :=
  match a.acts with
  | .signal x :: acts => (s.put k { c with performance := some { a with acts } }).say [x]
  | .emit m :: acts =>
    s.hold k { c with performance := some { a with acts } } (.emission a.name a.routes m)
  | [] => (s.put k { c with performance := none }).say a.last

def callModule (k : Nat) (c : Call μ ρ) (g i : Nat) (call : μ → ModuleTurn μ)
    (onPanic : String → List Signal) (s : Shared μ ρ) : Shared μ ρ :=
  match s.generations[g]? with
  | none => s.put k c
  | some p =>
    match p.modules[i]? with
    | none => s.put k c
    | some l =>
      let t := call l.unit
      let a := Performance.of l t onPanic
      (s.update g { p with modules := p.modules.set i { l with unit := t.unit } }).put k
        { c with performance := some a, aims := c.aims ++ a.sources }

def startModule (k : Nat) (c : Call μ ρ) (g i : Nat) (s : Shared μ ρ) : Shared μ ρ :=
  s.callModule k c g i (ModuleUnit.start s.dispatcher.now) fun name =>
    [.notice (.startPanicked name)]

def tickModule (k : Nat) (c : Call μ ρ) (g i : Nat) (s : Shared μ ρ) : Shared μ ρ :=
  s.callModule k c g i (ModuleUnit.tick s.dispatcher.now) fun name =>
    [.notice (.tickPanicked name)]

def stopReporter (g j : Nat) (s : Shared μ ρ) : Shared μ ρ :=
  match s.generations[g]? with
  | none => s
  | some p =>
    match p.reporters.reporters[j]? with
    | none => s
    | some r =>
      let (r, shown) := Fanout.stopOne r
      (s.update g { p with reporters := ⟨p.reporters.reporters.set j r⟩ }).say shown

def stopPart (k : Nat) (c : Call μ ρ) (g : Nat) (part : Part) (s : Shared μ ρ) : Shared μ ρ :=
  (match part with
    | .module i =>
      s.callModule k c g i ModuleUnit.stop fun name => [.notice (.stopPanicked name)]
    | .reporter j => (s.stopReporter g j).put k c).record (.stopping g part)

def acquire (k : Nat) (c : Call μ ρ) (s : Shared μ ρ) : Shared μ ρ :=
  match s.lock with
  | some _ => s
  | none => { s.put k c with lock := some k }

def unlock (s : Shared μ ρ) : Shared μ ρ :=
  { s with lock := none }

def begin (k : Nat) (c : Call μ ρ) (s : Shared μ ρ) : Shared μ ρ :=
  match c.request with
  | .report e => s.hold k { c with stage := .ended } (.event e)
  | .publish name routes m => s.hold k { c with stage := .ended } (.emission name routes m)
  | .tick g i => s.tickModule k { c with stage := .ended } g i
  | .reload cfg => s.acquire k { c with stage := .locked cfg }
  | .shutdown =>
    if s.dispatcher.isShutDown then s.put k { c with stage := .ended }
    else { s.put k { c with stage := .flagged } with
      dispatcher := { s.dispatcher with isShutDown := true } }

def build (k : Nat) (c : Call μ ρ) (cfg : Configuration) (s : Shared μ ρ) : Shared μ ρ :=
  let d := s.dispatcher
  let (p, shown) := Pipeline.build d.moduleKinds d.reporterKinds d.network cfg
  (s.put k { c with stage := .built p }).say shown

def drain (k : Nat) (c : Call μ ρ) (old : Nat) (s : Shared μ ρ) : Shared μ ρ :=
  match s.generations[old]? with
  | none => s
  | some p =>
    if s.isFree old then
      (s.put k { c with stage := .stopping old p.shape.parts }).record (.retired old)
    else s

def goOn (k : Nat) (c : Call μ ρ) (s : Shared μ ρ) : Shared μ ρ :=
  match c.stage with
  | .begun => s.begin k c
  | .locked cfg =>
    s.put k { c with
      stage := if s.dispatcher.isShutDown then .unlocking false else .allowed cfg }
  | .allowed cfg => s.build k c cfg
  | .built p =>
    (s.replace p).put k
      { c with stage := .starting (s.liveNumber + 1) s.liveNumber (.range p.modules.length) }
  | .starting g old (i :: left) => s.startModule k { c with stage := .starting g old left } g i
  | .starting _ old [] => s.put k { c with stage := .draining old }
  | .flagged => s.acquire k { c with stage := .clearing }
  | .clearing =>
    (s.replace (.empty s.dispatcher.defaults)).put k { c with stage := .cleared s.liveNumber }
  | .cleared old => (s.put k { c with stage := .draining old }).unlock
  | .draining old => s.drain k c old
  | .stopping old (part :: left) => s.stopPart k { c with stage := .stopping old left } old part
  | .stopping _ [] =>
    match c.request with
    | .reload _ => s.put k { c with stage := .unlocking true }
    | _ => s.put k { c with stage := .ended }
  | .unlocking installed => (s.put k { c with stage := .telling installed }).unlock
  | .telling installed =>
    (s.put k { c with stage := .ended }).say
      [if installed then .counted .reloads else .notice .reloadIgnored]
  | .ended => s

def advance (k : Nat) (s : Shared μ ρ) : Shared μ ρ :=
  match s.calls[k]? with
  | none => s
  | some c =>
    match c.visit, c.performance with
    | some v, _ => s.serve k c v
    | none, some a => s.perform k c a
    | none, none => s.goOn k c

def next : Choice → Shared μ ρ → Shared μ ρ
  | .request r, s => { s with calls := s.calls ++ [{ request := r, aims := r.sources }] }
  | .call k, s => s.advance k
  | .elapse time, s =>
    { s with dispatcher := { s.dispatcher with now := s.dispatcher.now + time } }

def opened (d : Dispatcher μ ρ) : Shared μ ρ where
  dispatcher := d

abbrev run (schedule : List Choice) (s : Shared μ ρ) : Shared μ ρ :=
  Schedule.run next schedule s

end Shared

end Dispatcher

end QueryWatch
