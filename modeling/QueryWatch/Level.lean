import QueryWatch.Text.Digits

namespace QueryWatch

inductive Level
  | error
  | warn
  | info
  | debug
  | trace
  deriving DecidableEq, Inhabited

namespace Level

def all : List Level :=
  [error, warn, info, debug, trace]

def name : Level → String
  | error => "ERROR"
  | warn => "WARN"
  | info => "INFO"
  | debug => "DEBUG"
  | trace => "TRACE"

def rank : Level → Nat
  | error => 1
  | warn => 2
  | info => 3
  | debug => 4
  | trace => 5

def number? (s : String) : Option Nat :=
  Text.Digits.bounded? UInt64.size s.toList

def ofText? (s : String) : Option Level :=
  match number? s with
  | some n => all.find? (·.rank = n)
  | none => all.find? (·.name = s.map Char.toUpper)

end Level

end QueryWatch
