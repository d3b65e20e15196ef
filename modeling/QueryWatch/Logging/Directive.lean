import QueryWatch.Level
import QueryWatch.Logging.Pattern.Shape
import QueryWatch.Text.Alphanumeric
import QueryWatch.Text.Pieces
import QueryWatch.Text.Digits

namespace QueryWatch.Logging

abbrev Threshold := Option Level

namespace Threshold

def ofText? (s : String) : Option Threshold :=
  if Level.number? s = some 0 ∨ s.map Char.toUpper = "OFF" then some none
  else (Level.ofText? s).map some

def admits (t : Threshold) (level : Level) : Bool :=
  match t with
  | some most => level.rank ≤ most.rank
  | none => false

def everything : Threshold :=
  some .trace

end Threshold

structure FieldMatch where
  name : String
  value : Option String
  deriving DecidableEq

/-- A threshold for the records of some targets: `level`, `target`, `target=level`, or either of the last
two with a span in brackets behind the target, or in its place. A span may be told by its name, by fields in
braces, or by both. -/
structure Directive where
  target : Option String := none
  span : Option String := none
  fields : List FieldMatch := []
  threshold : Threshold := .everything
  deriving DecidableEq

/-- Why a text is no directive: it has not the form of one, or a piece of it would begin or end within a
character. -/
inductive Flaw
  | form
  | torn
  deriving DecidableEq

namespace FieldMatch

def isValue (s : List Char) : Bool :=
  Text.isReal s || Pattern.isPattern s

/-- A field cannot be empty, and its value has to be a value or a pattern of values. What is behind a second
sign of equality does not count. -/
def ofText (s : List Char) : Except Flaw FieldMatch :=
  if s = [] then .error .form
  else
    let name := String.ofList (s.takeWhile (· ≠ '='))
    match s.dropWhile (· ≠ '=') with
    | [] => .ok ⟨name, none⟩
    | _ :: r =>
      let value := r.takeWhile (· ≠ '=')
      if isValue value then .ok ⟨name, some (String.ofList value)⟩ else .error .form

end FieldMatch

namespace Directive

/-- A directive as it is read: all of it, and what is still to be read behind a place. Places are counted in
bytes without the blanks in front, while the pieces are cut out of the text as it stands, so a directive that
is cut in pieces has no use for blanks. -/
structure Source where
  whole : List Char
  rest : List Char
  place : Nat := 0

namespace Source

def ofText (s : List Char) : Source :=
  { whole := s, rest := Text.trim s }

def skip (s : Source) (n : Nat) : Source :=
  { s with rest := s.rest.drop n, place := s.place + Text.byteLength (s.rest.take n) }

def find (s : Source) (chars : List Char) : Source :=
  s.skip (s.rest.takeWhile fun c => !chars.contains c).length

def cut (first last : Source) : Except Flaw (List Char) :=
  match Text.slice? first.place last.place first.whole with
  | some piece => .ok piece
  | none => .error .torn

def tail (s : Source) : Except Flaw (List Char) :=
  match Text.splitAtByte? s.place s.whole with
  | some (_, behind) => .ok behind
  | none => .error .torn

end Source

def marks : List Char := ['-', ':', '_']

def readLevel (s : Source) (d : Directive) : Except Flaw Directive := do
  match ← s.tail with
  | [] => return { d with threshold := .everything }
  | text =>
    match Threshold.ofText? (String.ofList text) with
    | some t => return { d with threshold := t }
    | none => .error .form

def readAfterSpan (s : Source) (d : Directive) : Except Flaw Directive :=
  match s.rest with
  | [] => .ok d
  | '=' :: _ => readLevel (s.skip 1) d
  | _ => .error .form

def readFields (s : Source) (d : Directive) : Except Flaw Directive := do
  let close := s.find ['\x7d']
  match close.rest with
  | [] => .error .form
  | _ :: behind =>
    let field ← FieldMatch.ofText (← s.cut close)
    match behind with
    | ']' :: _ => readAfterSpan (close.skip 2) { d with fields := [field] }
    | _ => .error .form

def readSpan (s : Source) (d : Directive) : Except Flaw Directive := do
  let close := s.find [']', '\x7b']
  match close.rest with
  | [] => .error .form
  | c :: _ =>
    let name := String.ofList (← s.cut close)
    if c = ']' then readAfterSpan (close.skip 1) { d with span := some name }
    else readFields (close.skip 1) { d with span := if name = "" then none else some name }

def ofWord (s : String) : Directive :=
  match Threshold.ofText? s with
  | some t => { threshold := t }
  | none => { target := some s }

def ofSource (s : Source) : Except Flaw Directive :=
  match s.rest with
  | [] => .error .form
  | '[' :: _ => readSpan (s.skip 1) {}
  | c :: _ =>
    if marks.contains c || Text.isAlphanumeric c then
      let stop := s.find ['=', '[']
      match stop.rest with
      | [] => .ok (ofWord (String.ofList s.whole))
      | c :: _ => do
        let target := String.ofList (← s.cut stop)
        if c = '=' then readLevel (stop.skip 1) { target := some target }
        else readSpan (stop.skip 1) { target := some target }
    else .error .form

def parse (s : List Char) : Except Flaw Directive :=
  ofSource (.ofText s)

/-- Whether a directive decides on records that are outside of any span: it names no span and asks for no
value of a field. -/
def isStatic (d : Directive) : Bool :=
  d.span.isNone && d.fields.all (·.value.isNone)

def applies (d : Directive) (target : String) (fields : List String) : Bool :=
  (match d.target with
    | none => true
    | some lead => lead.toList.isPrefixOf target.toList) &&
  d.fields.all fun f => fields.contains f.name

/-- How much a directive asks for: first the length of its target counts, then its fields. -/
def weight (d : Directive) : Nat × Nat :=
  ((d.target.map fun t => t.utf8ByteSize + 1).getD 0, d.fields.length)

end Directive

end QueryWatch.Logging
