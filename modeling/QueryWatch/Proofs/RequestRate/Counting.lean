import QueryWatch.Periodic.RequestRate
import QueryWatch.Proofs.Periodic.Loop
import QueryWatch.Proofs.Schedule

namespace QueryWatch.Periodic.RequestRate

def told (count : UInt64) (elapsed now : Nat) (r : RequestRate) : Measurement :=
  { r.measurement now with
    value := some (rate count elapsed)
    fields := .ofList [("count", Config.count count.toNat)] }

inductive Stage
  | begun
  | taken (count : UInt64)
  | timed (count : UInt64) (elapsed : Nat)
  | told (m : Measurement)
  | finished (m : Measurement)

structure Tick where
  clock : Nat
  stage : Stage := .begun
  /-- The events that it took out of the counter. -/
  events : List QueryEvent := []

/-- A timer, with the time that its ticks hand on to one another. -/
structure Clock where
  loop : PeriodicTask.Loop
  lastTick : Nat

/-- Where a start or a stop has got to. Between its first and its last step it keeps the others out. -/
inductive Call
  | starting
  | storing (now : Nat)
  | stopping
  | cancelling (clock : Nat)
  | returned

/-- A request rate with events, starts, stops and ticks under way at once. Each choice is one step that
nothing else can come between. A timer that was stopped may be within a tick still when another one is
started. -/
structure Counting where
  unit : RequestRate
  locked : Bool := false
  clocks : List Clock := []
  ticks : List Tick := []
  calls : List Call := []
  fresh : List QueryEvent := []
  yielded : List Measurement := []

inductive Choice
  | event (e : QueryEvent)
  | start
  | stop
  | call (k now : Nat)
  | fire (clock now : Nat)
  | tick (k now : Nat)
  | leave (clock : Nat)

def Choice.event? : Choice → Option QueryEvent
  | .event e => some e
  | _ => none

namespace Counting

def count (e : QueryEvent) (c : Counting) : Counting :=
  let (turn, measurements) := ModuleUnit.transform e c.unit
  { c with
    unit := turn.unit
    fresh := c.fresh ++ [e]
    yielded := c.yielded ++ measurements }

def put (k : Nat) (call : Call) (c : Counting) : Counting :=
  { c with calls := c.calls.set k call }

/-- A start has the module to itself; it starts a timer unless there is one. -/
def spawn (k now : Nat) (c : Counting) : Counting :=
  if c.locked then c
  else
    match c.unit.task with
    | some _ => c.put k .returned
    | none =>
      { c.put k (.storing now) with
        locked := true
        clocks := c.clocks ++ [⟨{ task := (PeriodicTask.start c.unit.title c.unit.period now).1 }, now⟩] }

def store (k now : Nat) (c : Counting) : Counting :=
  { c.put k .returned with
    locked := false
    unit := (ModuleUnit.start now c.unit).unit }

/-- A stop has the module to itself; the timer that it takes is the one that was started last. -/
def release (k : Nat) (c : Counting) : Counting :=
  if c.locked then c
  else
    match c.unit.task with
    | none => c.put k .returned
    | some _ =>
      { c.put k (.cancelling (c.clocks.length - 1)) with
        locked := true
        unit := (ModuleUnit.stop c.unit).unit }

def mapLoop (clock : Nat) (f : PeriodicTask.Loop → PeriodicTask.Loop) (c : Counting) : Counting :=
  { c with clocks := c.clocks.modify clock fun k => { k with loop := f k.loop } }

def cancel (k clock : Nat) (c : Counting) : Counting :=
  { (c.put k .returned).mapLoop clock .cancel with locked := false }

def advance (k now : Nat) (c : Counting) : Counting :=
  match c.calls[k]? with
  | some .starting => c.spawn k now
  | some (.storing begun) => c.store k begun
  | some .stopping => c.release k
  | some (.cancelling clock) => c.cancel k clock
  | _ => c

def fire (clock now : Nat) (c : Counting) : Counting :=
  match c.clocks[clock]? with
  | none => c
  | some k =>
    match k.loop.fire? now with
    | none => c
    | some loop =>
      { c with
        clocks := c.clocks.set clock { k with loop }
        ticks := c.ticks ++ [{ clock }] }

def setStage (k : Nat) (tick : Tick) (stage : Stage) (c : Counting) : Counting :=
  { c with ticks := c.ticks.set k { tick with stage } }

def take (k : Nat) (tick : Tick) (c : Counting) : Counting :=
  { c with
    unit := { c.unit with pending := 0 }
    fresh := []
    ticks := c.ticks.set k { tick with stage := .taken c.unit.pending, events := c.fresh } }

def time (k now : Nat) (tick : Tick) (count : UInt64) (c : Counting) : Counting :=
  match c.clocks[tick.clock]? with
  | none => c
  | some clock =>
    { c.setStage k tick (.timed count (now - clock.lastTick)) with
      clocks := c.clocks.set tick.clock { clock with lastTick := now } }

def proceed (k now : Nat) (c : Counting) : Counting :=
  match c.ticks[k]? with
  | none => c
  | some tick =>
    match tick.stage with
    | .begun => c.take k tick
    | .taken count => c.time k now tick count
    | .timed count elapsed => c.setStage k tick (.told (c.unit.told count elapsed now))
    | .told m => (c.setStage k tick (.finished m)).mapLoop tick.clock .resume
    | .finished _ => c

def next : Choice → Counting → Counting
  | .event e, c => c.count e
  | .start, c => { c with calls := c.calls ++ [.starting] }
  | .stop, c => { c with calls := c.calls ++ [.stopping] }
  | .call k now, c => c.advance k now
  | .fire clock now, c => c.fire clock now
  | .tick k now, c => c.proceed k now
  | .leave clock, c => c.mapLoop clock .leave

abbrev run (schedule : List Choice) (c : Counting) : Counting :=
  Schedule.run next schedule c

end Counting

end QueryWatch.Periodic.RequestRate
