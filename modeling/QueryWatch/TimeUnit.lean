import QueryWatch.Text.Pieces

namespace QueryWatch

inductive TimeUnit
  | nanoseconds
  | microseconds
  | milliseconds
  | seconds
  | minutes
  | hours
  | days
  deriving DecidableEq, Inhabited

namespace TimeUnit

def all : List TimeUnit :=
  [nanoseconds, microseconds, milliseconds, seconds, minutes, hours, days]

def nanos : TimeUnit → Nat
  | nanoseconds => 1
  | microseconds => 1000
  | milliseconds => 1000000
  | seconds => 1000000000
  | minutes => 60 * 1000000000
  | hours => 3600 * 1000000000
  | days => 86400 * 1000000000

def name : TimeUnit → String
  | nanoseconds => "NANOSECONDS"
  | microseconds => "MICROSECONDS"
  | milliseconds => "MILLISECONDS"
  | seconds => "SECONDS"
  | minutes => "MINUTES"
  | hours => "HOURS"
  | days => "DAYS"

structure Unknown where
  text : String
  deriving DecidableEq

def Unknown.message (e : Unknown) : String :=
  "unknown time unit '" ++ e.text ++ "'"

/-- The unit of a name; blanks around it and the case of its ASCII letters do not matter. -/
def ofName (s : String) : Except Unknown TimeUnit :=
  let upper := String.ofList ((Text.trim s.toList).map Char.toUpper)
  match all.find? (·.name = upper) with
  | some u => .ok u
  | none => .error ⟨upper⟩

theorem find?_name (u : TimeUnit) : all.find? (·.name = u.name) = some u := by
  cases u <;> decide

/-- A count of units in nanoseconds, at a bound of the range when it does not fit. -/
def toNanos (u : TimeUnit) (count : Int64) : Int64 :=
  Int64.ofIntClamp (count.toInt * u.nanos)

/-- A count of units in milliseconds, by way of nanoseconds; the fraction is cut off. -/
def toMillis (u : TimeUnit) (count : Int64) : Int64 :=
  u.toNanos count / 1000000

def longest : Nat := UInt64.size - 1

def duration (u : TimeUnit) (count : UInt64) : Nat :=
  min (count.toNat * u.nanos) longest

end TimeUnit

end QueryWatch
