import QueryWatch.Periodic.Period
import QueryWatch.PeriodicTask
import QueryWatch.Turn

namespace QueryWatch.Periodic

structure RequestRate where
  name : String
  title : String
  period : Nat
  baseTags : Labels
  pending : UInt64 := 0
  lastTick : Nat := 0
  task : Option PeriodicTask := none

namespace RequestRate

def build (entry : ModuleEntry) (global : GlobalSettings) : Except BuildError RequestRate := do
  let nanos ← Periodic.period entry.options
  return {
    name := entry.kind
    title := entry.namespaceOr "request_rate"
    period := nanos
    baseTags := global.baseTags }

def count (r : RequestRate) : RequestRate :=
  { r with pending := r.pending + 1 }

def start (now : Nat) (r : RequestRate) : ModuleTurn RequestRate :=
  match r.task with
  | some _ => { unit := r }
  | none =>
    let (task, signals) := PeriodicTask.start r.title r.period now
    { unit := { r with task := some task, lastTick := now }, acts := signals.map .signal }

def stop (r : RequestRate) : ModuleTurn RequestRate :=
  { unit := { r with task := none } }

/-- A count over a time in nanoseconds, per second; no time at all counts as the smallest step that a
double near one can make. -/
def rate (count : UInt64) (elapsed : Nat) : Binary64 :=
  if elapsed = 0 then .ofRatio false (count.toNat <<< 52) 1
  else .ofRatio false (count.toNat * 1000000000) elapsed

def measurement (now : Nat) (r : RequestRate) : Measurement where
  name := r.title
  value := some (rate r.pending (now - r.lastTick))
  time := millis now
  unit := .milliseconds
  tags := r.baseTags
  fields := .ofList [("count", Config.count r.pending.toNat)]

/-- The count is taken whole: what is told and what is left for the next tick make up all events. -/
def tick (now : Nat) (r : RequestRate) : ModuleTurn RequestRate :=
  match r.task with
  | none => { unit := r }
  | some task =>
    { unit := { r with pending := 0, lastTick := now, task := some (task.taken now) }
      acts := [.emit (r.measurement now)] }

@[simp] theorem name_unit_start (now : Nat) (r : RequestRate) :
    (r.start now).unit.name = r.name := by
  cases ht : r.task <;> simp [start, ht]

@[simp] theorem name_unit_tick (now : Nat) (r : RequestRate) :
    (r.tick now).unit.name = r.name := by
  cases ht : r.task <;> simp [tick, ht]

instance : ModuleUnit RequestRate where
  name := name
  transform _ r := ({ unit := r.count }, [])
  start := start
  stop := stop
  due? r := r.task.map (·.due)
  tick := tick
  name_start := name_unit_start
  name_tick := name_unit_tick

end RequestRate

end QueryWatch.Periodic
