import QueryWatch.Json.Parser
import QueryWatch.Json.Printer
import QueryWatch.Logging.Setup
import QueryWatch.Text.Pieces

namespace QueryWatch.Logging

structure Record where
  level : Level
  message : String
  deriving DecidableEq

namespace Record

def document (r : Record) : Json :=
  .ofMembers [("level", .string r.level.name), ("target", .string Setup.measurementTarget),
    ("fields", .ofMembers [("message", .string r.message)])]

/-- Controls that a terminal may obey are written by their numbers. -/
def harmless (c : Char) : List Char :=
  if ['\x07', '\x08', '\x0c', '\x1b', '\x7f'].contains c then
    '\\' :: 'x' :: Text.Digits.hexadecimal 2 c.toNat
  else if 128 ≤ c.toNat ∧ c.toNat < 160 then
    '\\' :: 'u' :: '\x7b' :: (Text.Digits.shortHexadecimal c.toNat ++ ['\x7d'])
  else [c]

def paddedLevel (l : Level) : List Char :=
  List.replicate (5 - l.name.length) ' ' ++ l.name.toList

/-- What stands before the message in a file. For a terminal colours come between, so that nothing of it is
a text of its own. -/
def head (s : Setup) (r : Record) : List Char :=
  if s.path.isSome then ' ' :: paddedLevel r.level ++ ' ' :: Setup.measurementTarget.toList ++ [':', ' ']
  else []

def line (s : Setup) (r : Record) : List Char :=
  match s.format with
  | .json => r.document.chars ++ ['\n']
  | .pretty => r.head s ++ r.message.toList.flatMap harmless ++ ['\n']

end Record

def Setup.output (s : Setup) (records : List Record) : List Char :=
  (records.filter fun r => s.admits r.level).flatMap (Record.line s)

/-- What is seen of one line: level, target and fields of a document, or the line itself if it is none. -/
def seenLine (line : List Char) : Json :=
  let text := String.ofList line
  match Json.parse? text with
  | some j => .array (["level", "target", "fields"].map fun name => (j.get? name).getD .null)
  | none => .string text

def seen (output : List Char) : List Json :=
  (Text.lines output).map seenLine

def occurrences (part : String) (output : List Char) : Nat :=
  ((String.ofList output).splitOn part).length - 1

end QueryWatch.Logging
