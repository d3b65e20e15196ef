import QueryWatch.Text.Pieces

namespace QueryWatch.SlowQuery

inductive Selector
  | one (keyspace table : String)
  | all (keyspace : String)
  deriving DecidableEq

namespace Selector

def split? (s : List Char) : Option (List Char × List Char) :=
  match s.dropWhile (· ≠ '.') with
  | _ :: behind => some (s.takeWhile (· ≠ '.'), behind)
  | [] => none

/-- An entry, with blanks around it, is a keyspace and a table with a point between; a star in place of the
table stands for all of them. -/
def parse? (entry : String) : Option Selector :=
  match split? (Text.trim entry.toList) with
  | some (keyspace, table) =>
    if keyspace = [] ∨ table = [] then none
    else if table = ['*'] then some (.all (String.ofList keyspace))
    else some (.one (String.ofList keyspace) (String.ofList table))
  | none => none

end Selector

structure Decider where
  thresholdMicros : UInt64
  tables : List (String × String)
  keyspaces : List String
  deriving DecidableEq

/-- A thousand times as much, or the greatest number when that is too much. -/
def thousandfold (n : UInt64) : UInt64 :=
  (min (n.toNat * 1000) (UInt64.size - 1)).toUInt64

namespace Decider

def new (thresholdMicros : UInt64) (selectors : List Selector) : Decider where
  thresholdMicros := thresholdMicros
  tables := selectors.filterMap fun
    | .one keyspace table => some (keyspace, table)
    | .all _ => none
  keyspaces := selectors.filterMap fun
    | .one _ _ => none
    | .all keyspace => some keyspace

def thresholdMillis (d : Decider) : UInt64 :=
  d.thresholdMicros / 1000

def setMicros (d : Decider) (micros : UInt64) : Decider :=
  { d with thresholdMicros := micros }

def setMillis (d : Decider) (millis : UInt64) : Decider :=
  d.setMicros (thousandfold millis)

def hasList (d : Decider) : Bool :=
  !d.tables.isEmpty || !d.keyspaces.isEmpty

def isWatched (d : Decider) (keyspace table : String) : Bool :=
  d.keyspaces.contains keyspace || d.tables.contains (keyspace, table)

/-- Without a list every table is watched. -/
def shouldReport (d : Decider) (micros : UInt64) (keyspace table : String) : Bool :=
  d.thresholdMicros ≤ micros && (!d.hasList || d.isWatched keyspace table)

end Decider

end QueryWatch.SlowQuery
