import QueryWatch.Text.Pieces
import QueryWatch.Text.Digits

namespace QueryWatch.Logging.Pattern

open Text.Digits (isDecimal value?)

structure Modes where
  caseless : Bool := false
  /-- Whether characters are matched, and not bytes. -/
  characters : Bool := true
  spaced : Bool := false
  deriving DecidableEq

def skipBlanks : (comment : Bool) → List Char → List Char
  | _, [] => []
  | comment, c :: r =>
    if comment then skipBlanks (c != '\n') r
    else if Text.isBlank c then skipBlanks false r
    else if c = '#' then skipBlanks true r
    else c :: r

namespace Modes

def skip (m : Modes) (s : List Char) : List Char :=
  if m.spaced then skipBlanks false s else s

/-- Switches one mode; those that change nothing in how a pattern is read are left out. -/
def set (m : Modes) (flag : Char) (on : Bool) : Modes :=
  match flag with
  | 'i' => { m with caseless := on }
  | 'u' => { m with characters := on }
  | 'x' => { m with spaced := on }
  | _ => m

def flags : List Char := "ismUuRx".toList

/-- Whether the case of all characters would have to be known. -/
def folds (m : Modes) : Bool :=
  m.caseless && m.characters

end Modes

/-- What an escape stands for: one character, told by its byte or not; one character of a class; or a place
between characters. -/
inductive Escape
  | one (c : Char) (byte : Bool)
  | someOf
  | place

def Modes.admits (m : Modes) (c : Char) (byte : Bool) : Bool :=
  if m.characters then !m.caseless else !(byte && 128 ≤ c.toNat)

def Modes.admitsMember (m : Modes) (c : Char) : Bool :=
  m.characters || c.toNat < 128

def hexadecimal? (m : Modes) : (count acc : Nat) → List Char → Option (Nat × List Char)
  | 0, acc, s => some (acc, s)
  | _ + 1, _, [] => none
  | count + 1, acc, c :: r =>
    match value? 16 c with
    | some d => hexadecimal? m count (acc * 16 + d) (m.skip r)
    | none => none

def numbered? (m : Modes) (count : Nat) (byte : Bool) (s : List Char) : Option (Escape × List Char) := do
  let (n, rest) ← hexadecimal? m count 0 (m.skip s)
  if n.isValidChar then some (.one (Char.ofNat n) byte, rest) else none

def escape? (m : Modes) (s : List Char) : Option (Escape × List Char) :=
  match s with
  | [] => none
  | c :: r =>
    match c with
    | 'x' => numbered? m 2 true r
    | 'u' => numbered? m 4 false r
    | 'U' => numbered? m 8 false r
    | 'd' | 's' | 'w' => if m.characters then none else some (.someOf, r)
    | 'b' | 'B' | '<' | '>' => if m.characters then none else some (.place, r)
    | 'A' | 'z' => some (.place, r)
    | 'a' => some (.one '\x07' false, r)
    | 'f' => some (.one '\x0c' false, r)
    | 't' => some (.one '\t' false, r)
    | 'n' => some (.one '\n' false, r)
    | 'r' => some (.one '\r' false, r)
    | 'v' => some (.one '\x0b' false, r)
    | c => if c.toNat < 128 ∧ ¬c.isAlphanum then some (.one c false, r) else none

end QueryWatch.Logging.Pattern
