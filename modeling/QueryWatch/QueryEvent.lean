import QueryWatch.Config.Decoder

namespace QueryWatch

open Config

/-- One executed query as the interception layer saw it. -/
structure QueryEvent where
  /-- When the execution began, in milliseconds of the epoch. -/
  timestampMillis : Int64
  executionMicros : UInt64
  clientAddress : String
  statement : String
  keyspace : String
  table : String
  deriving DecidableEq, Inhabited

namespace QueryEvent

def withTimestamp (e : QueryEvent) (millis : Int64) : QueryEvent :=
  { e with timestampMillis := millis }

def record : Record QueryEvent where
  name := "QueryEvent"
  start := ⟨0, 0, "", "", "", ""⟩
  fields := [
    .of "timestampMillis" readInt64 fun n e => { e with timestampMillis := n },
    .of "executionDurationMicros" readUInt64 fun n e => { e with executionMicros := n },
    .of "clientAddress" readString fun s e => { e with clientAddress := s },
    .of "statement" readString fun s e => { e with statement := s },
    .of "keyspace" readString fun s e => { e with keyspace := s },
    .of "table" readString fun s e => { e with table := s }].map RecordField.mandatory

def ofDocument : Reader QueryEvent :=
  record.read .json

def document (e : QueryEvent) : Json :=
  .object [("clientAddress", .string e.clientAddress),
    ("executionDurationMicros", .int e.executionMicros.toNat), ("keyspace", .string e.keyspace),
    ("statement", .string e.statement), ("table", .string e.table),
    ("timestampMillis", .int e.timestampMillis.toInt)]

end QueryEvent

end QueryWatch
