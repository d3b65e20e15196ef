import QueryWatch.Building

namespace QueryWatch.Periodic

open Config

structure Options where
  period : UInt64 := 15
  timeUnit : String := "MINUTES"

/-- The unit goes by either of two names, but not by both at once. -/
def Options.record : Record Options where
  name := "PeriodOptions"
  start := {}
  fields :=
    [.of "period" readUInt64 fun n o => { o with period := n },
      { (.of "timeunit" readString fun s o => { o with timeUnit := s } : RecordField Options) with
        otherNames := ["timeUnit"] }]

/-- The period in nanoseconds; it cannot be zero. -/
def Options.nanos (o : Options) : Except BuildError Nat :=
  if o.period = 0 then .error (.invalidOption "period" .zero)
  else
    match TimeUnit.ofName o.timeUnit with
    | .ok unit => .ok (unit.duration o.period)
    | .error unknown => .error (.invalidOption "timeunit" (.timeUnit unknown))

def period (options : KeyMap Json) : Except BuildError Nat := do
  (← Options.record.options options).nanos

def millis (now : Nat) : Int64 :=
  Int64.ofInt (now / 1000000)

end QueryWatch.Periodic
