import QueryWatch.Encoding.Line
import QueryWatch.Json.Printer

namespace QueryWatch.Encoding

def labelsDocument (l : Labels) : Json :=
  .object (l.entries.map fun e => (e.1, .string e.2))

/-- A measurement as a document; the value is a member of simple measurements alone. -/
def document (m : Measurement) : Json :=
  .object ([("name", .string m.name), ("kind", .string m.kind.name)] ++
    (match m.value with
      | some x => [("value", .float x)]
      | none => []) ++
    [("time", .int m.time.toInt), ("timeUnit", .string m.unit.name),
      ("tags", labelsDocument m.tags), ("fields", labelsDocument m.fields)])

inductive PayloadFormat
  | line
  | json
  deriving DecidableEq

def PayloadFormat.encode : PayloadFormat → Measurement → String
  | .line, m => Line.encodeTerminated m
  | .json, m => (document m).render

end QueryWatch.Encoding
