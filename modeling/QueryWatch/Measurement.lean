import QueryWatch.KeyMap
import QueryWatch.TimeUnit
import QueryWatch.Binary.Word

namespace QueryWatch

/-- A simple measurement is one that has a value, a complex one has its fields alone. -/
structure Measurement where
  name : String
  value : Option Binary64
  time : Int64
  unit : TimeUnit
  tags : Labels
  fields : Labels

namespace Measurement

inductive Kind
  | simple
  | complex
  deriving DecidableEq

def Kind.name : Kind → String
  | .simple => "SIMPLE"
  | .complex => "COMPLEX"

inductive Fault
  | valueRequired (name : String)
  | valueAbsent (name : String)
  deriving DecidableEq

def Fault.message : Fault → String
  | .valueRequired name =>
    "Invalid argument: simple measurement '" ++ name ++ "' requires a value"
  | .valueAbsent name => "Invalid state: complex measurement '" ++ name ++ "' has no value"

def simple (name : String) (value : Option Binary64) (time : Int64) (unit : TimeUnit)
    (tags fields : Labels) : Except Fault Measurement :=
  match value with
  | some x => .ok ⟨name, some x, time, unit, tags, fields⟩
  | none => .error (.valueRequired name)

def complex (name : String) (time : Int64) (unit : TimeUnit) (tags fields : Labels) : Measurement :=
  ⟨name, none, time, unit, tags, fields⟩

def kind (m : Measurement) : Kind :=
  if m.value.isSome then .simple else .complex

theorem kind_eq_simple_iff {m : Measurement} : m.kind = .simple ↔ ∃ x, m.value = some x := by
  cases h : m.value <;> simp [kind, h]

def getValue (m : Measurement) : Except Fault Binary64 :=
  match m.value with
  | some x => .ok x
  | none => .error (.valueAbsent m.name)

def timeNanos (m : Measurement) : Int64 :=
  m.unit.toNanos m.time

end Measurement

end QueryWatch
