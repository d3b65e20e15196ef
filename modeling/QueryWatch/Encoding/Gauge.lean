import QueryWatch.Measurement
import QueryWatch.Decimal.Layout

namespace QueryWatch.Encoding.Gauge

def separators : List Char := ['|', ',', '#', ':', '\n']

def sanitize (s : List Char) : List Char :=
  s.map fun c => if c ∈ separators then '_' else c

def tag (e : String × String) : List Char :=
  sanitize e.1.toList ++ ':' :: sanitize e.2.toList

def tagSection (tags : Labels) : List Char :=
  match tags.entries with
  | [] => []
  | es => '|' :: '#' :: [','].intercalate (es.map tag)

def chars (lead : Option String) (m : Measurement) (value : Binary64) : List Char :=
  (match lead with
    | some s => s.toList ++ ['.']
    | none => []) ++
    sanitize m.name.toList ++ ':' :: (Decimal.plain.text value ++ '|' :: 'g' :: tagSection m.tags)

/-- The datagram `name:value|g|#key:value,…` of a measurement with a value, its name behind a lead and a
point if there is a lead. -/
def encode (lead : Option String) (m : Measurement) : Option String :=
  m.value.map fun x => String.ofList (chars lead m x)

end QueryWatch.Encoding.Gauge
