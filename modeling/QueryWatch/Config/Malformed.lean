import QueryWatch.Json.Printer
import QueryWatch.Text.Quoted

namespace QueryWatch.Config

inductive Found
  | null
  | boolean (b : Bool)
  | integer (n : Int)
  | floating (x : Binary64)
  | string (s : String)
  | sequence
  | map

inductive Expected
  | string
  | boolean
  | sequence
  | map
  | number (type : String)
  | stringOrMap
  | unit
  | singleKey
  | record (name : String)

inductive Malformed
  | type (found : Found) (expected : Expected)
  | value (found : Found) (expected : Expected)
  | missing (field : String)
  | duplicate (field : String)
  | variant (name : String) (known : List String)
  /-- A record as a list that ends before a field which has to be given. -/
  | short (length : Nat) (record : String) (fields : Nat)
  /-- A record as a list that goes on behind its last field. -/
  | long (length : Nat)

namespace Found

def ofJson : Json → Found
  | .null => .null
  | .bool b => .boolean b
  | .int n => .integer n
  | .float x => .floating x
  | .string s => .string s
  | .array _ => .sequence
  | .object _ => .map

def describe : Found → String
  | .null => "null"
  | .boolean b => "boolean \x60" ++ (if b then "true" else "false") ++ "\x60"
  | .integer n => "integer \x60" ++ String.ofList (Text.Digits.integer n) ++ "\x60"
  | .floating x => "floating point \x60" ++ String.ofList (Decimal.document.text x) ++ "\x60"
  | .string s => "string " ++ Text.Literal.quote s
  | .sequence => "sequence"
  | .map => "map"

end Found

def Expected.describe : Expected → String
  | .string => "a string"
  | .boolean => "a boolean"
  | .sequence => "a sequence"
  | .map => "a map"
  | .number type => type
  | .stringOrMap => "string or map"
  | .unit => "unit"
  | .singleKey => "map with a single key"
  | .record name => "struct " ++ name

def marked (name : String) : String :=
  "\x60" ++ name ++ "\x60"

def count (n : Nat) : String :=
  String.ofList (Text.Digits.decimal n)

def Malformed.message : Malformed → String
  | .type found expected =>
    "invalid type: " ++ found.describe ++ ", expected " ++ expected.describe
  | .value found expected =>
    "invalid value: " ++ found.describe ++ ", expected " ++ expected.describe
  | .missing field => "missing field " ++ marked field
  | .duplicate field => "duplicate field " ++ marked field
  | .variant name known =>
    "unknown variant " ++ marked name ++ ", expected " ++ " or ".intercalate (known.map marked)
  | .short length record fields =>
    "invalid length " ++ count length ++ ", expected struct " ++ record ++ " with " ++
      count fields ++ if fields = 1 then " element" else " elements"
  | .long length => "invalid length " ++ count length ++ ", expected fewer elements in array"

end QueryWatch.Config
