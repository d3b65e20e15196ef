import QueryWatch.Measurement
import QueryWatch.Decimal.Layout

namespace QueryWatch.Encoding.Line

open Text (Digits.integer)

/-- A backslash before each of the special characters. -/
def escape (special : List Char) (s : List Char) : List Char :=
  s.flatMap fun c => if c ∈ special then ['\\', c] else [c]

def nameSpecial : List Char := [',', ' ']

def keySpecial : List Char := [',', '=', ' ']

def quotedSpecial : List Char := ['"', '\\']

def tag (e : String × String) : List Char :=
  ',' :: (escape keySpecial e.1.toList ++ '=' :: escape keySpecial e.2.toList)

def field (e : String × String) : List Char :=
  escape keySpecial e.1.toList ++ ('=' :: '"' :: (escape quotedSpecial e.2.toList ++ ['"']))

/-- The series that a measurement belongs to: its name, its tags and its kind. -/
def series (m : Measurement) : List Char :=
  escape nameSpecial m.name.toList ++ m.tags.entries.flatMap tag ++
    ",type=".toList ++ m.kind.name.toList

def items (m : Measurement) : List (List Char) :=
  m.fields.entries.map field ++
    match m.value with
    | some x => ["value=".toList ++ Decimal.fractional x]
    | none => []

def hasFields (m : Measurement) : Bool :=
  m.kind = .simple || !m.fields.isEmpty

def chars (m : Measurement) : List Char :=
  match items m with
  | [] => series m
  | is => series m ++ ' ' :: ([','].intercalate is ++ ' ' :: Digits.integer m.timeNanos.toInt)

/-- The name and the tags, then the fields, then the time. Tags and fields stand in key order; the kind
follows the tags as one more tag, the value follows the fields as one more field. A line without fields has
no time either. -/
def encode (m : Measurement) : String :=
  String.ofList (chars m)

/-- What ends a line in a stream of lines. -/
def terminator : List Char := ['\r', '\n']

def encodeTerminated (m : Measurement) : String :=
  String.ofList (chars m ++ terminator)

end QueryWatch.Encoding.Line
