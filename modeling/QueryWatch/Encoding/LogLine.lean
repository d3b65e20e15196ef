import QueryWatch.Measurement
import QueryWatch.Decimal.Layout

namespace QueryWatch.Encoding.LogLine

open Text (Digits.integer)

def labels (l : Labels) : List Char :=
  '\x7b' :: (", ".toList.intercalate (l.entries.map fun e => e.1.toList ++ '=' :: e.2.toList) ++
    ['\x7d'])

def chars (m : Measurement) : List Char :=
  m.name.toList ++ " [time=".toList ++ Digits.integer m.time.toInt ++
    (match m.value with
      | some x => ", value=".toList ++ Decimal.plain.text x
      | none => []) ++
    ", tags=".toList ++ labels m.tags ++ ", fields=".toList ++ labels m.fields ++ [']']

/-- The name, then time, value, tags and fields in brackets. Nothing is escaped. -/
def format (m : Measurement) : String :=
  String.ofList (chars m)

end QueryWatch.Encoding.LogLine
