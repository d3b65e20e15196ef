import QueryWatch.Periodic.Period
import QueryWatch.PeriodicTask
import QueryWatch.Turn

namespace QueryWatch.Periodic

structure Heartbeat where
  name : String
  title : String
  period : Nat
  baseTags : Labels
  task : Option PeriodicTask := none

namespace Heartbeat

def build (entry : ModuleEntry) (global : GlobalSettings) : Except BuildError Heartbeat := do
  let nanos ← Periodic.period entry.options
  return {
    name := entry.kind
    title := entry.namespaceOr "heartbeat"
    period := nanos
    baseTags := global.baseTags }

/-- A module that runs already does not start again. -/
def start (now : Nat) (h : Heartbeat) : ModuleTurn Heartbeat :=
  match h.task with
  | some _ => { unit := h }
  | none =>
    let (task, signals) := PeriodicTask.start h.title h.period now
    { unit := { h with task := some task }, acts := signals.map .signal }

def stop (h : Heartbeat) : ModuleTurn Heartbeat :=
  { unit := { h with task := none } }

def beat (now : Nat) (h : Heartbeat) : Measurement :=
  .complex h.title (millis now) .milliseconds h.baseTags ∅

def tick (now : Nat) (h : Heartbeat) : ModuleTurn Heartbeat :=
  match h.task with
  | none => { unit := h }
  | some task =>
    { unit := { h with task := some (task.taken now) }, acts := [.emit (h.beat now)] }

@[simp] theorem name_unit_start (now : Nat) (h : Heartbeat) : (h.start now).unit.name = h.name := by
  cases ht : h.task <;> simp [start, ht]

@[simp] theorem name_unit_tick (now : Nat) (h : Heartbeat) : (h.tick now).unit.name = h.name := by
  cases ht : h.task <;> simp [tick, ht]

instance : ModuleUnit Heartbeat where
  name := name
  transform _ h := ({ unit := h }, [])
  start := start
  stop := stop
  due? h := h.task.map (·.due)
  tick := tick
  name_start := name_unit_start
  name_tick := name_unit_tick

end Heartbeat

end QueryWatch.Periodic
