import QueryWatch.Signal

namespace QueryWatch

/-- A task that runs once in a period: the first tick comes one period after the start, each further one a
period after the tick before it was taken. Times are in nanoseconds. -/
structure PeriodicTask where
  name : String
  period : Nat
  due : Nat
  cancelled : Bool := false
  deriving DecidableEq

namespace PeriodicTask

def leastPeriod : Nat := 1000000

/-- Starts a task; a period that is too short is raised, and that is said. -/
def start (name : String) (period now : Nat) : PeriodicTask × List Signal :=
  if period < leastPeriod then
    (⟨name, leastPeriod, now + leastPeriod, false⟩, [.notice (.periodRaised name)])
  else (⟨name, period, now + period, false⟩, [])

def taken (t : PeriodicTask) (now : Nat) : PeriodicTask :=
  { t with due := now + t.period }

def cancel (t : PeriodicTask) : PeriodicTask :=
  { t with cancelled := true }

def ticksWithin (t : PeriodicTask) (time : Nat) : Nat :=
  time / t.period

end PeriodicTask

end QueryWatch
