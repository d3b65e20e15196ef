import QueryWatch.Logging.Pattern.CharacterSet
import QueryWatch.Text.Alphanumeric

namespace QueryWatch.Logging.Pattern

/-- A part of a sequence: a switch of modes, or anything else with its depth. -/
inductive Part
  | switch
  | deep (depth : Nat)
  deriving DecidableEq

def Part.depth : Part → Nat
  | .switch => 0
  | .deep depth => depth

/-- Several things are one level deeper than the deepest of them. -/
def depthOf (depths : List Nat) : Nat :=
  match depths with
  | [] => 0
  | [depth] => depth
  | depths => depths.foldl max 0 + 1

structure Group where
  parts : List Part := []
  alternatives : List Nat := []
  modes : Modes := {}

namespace Group

def add (g : Group) (p : Part) : Group :=
  { g with parts := p :: g.parts }

def sequenceDepth (g : Group) : Nat :=
  depthOf (g.parts.map Part.depth)

def depth (g : Group) : Nat :=
  depthOf (g.sequenceDepth :: g.alternatives)

def alternate (g : Group) : Group :=
  { g with parts := [], alternatives := g.sequenceDepth :: g.alternatives }

/-- Repeats the last part; a switch of modes cannot be repeated. -/
def repeat? (g : Group) : Option Group :=
  match g.parts with
  | .deep depth :: rest => some { g with parts := .deep (depth + 1) :: rest }
  | _ => none

end Group

structure State where
  group : Group := {}
  enclosing : List Group := []
  names : List (List Char) := []

/-- Modes in a group, up to the colon or the bracket behind them. None is told twice, and what is behind
the sign that switches modes off is not empty. -/
def modes? (seen : List Char) (m : Modes) : List Char → Option (Modes × List Char × List Char)
  | [] => none
  | c :: r =>
    if c = ':' ∨ c = ')' then
      if seen.head? = some '-' then none else some (m, seen, c :: r)
    else if seen.contains c then none
    else if c = '-' then modes? ('-' :: seen) m r
    else if Modes.flags.contains c then modes? (c :: seen) (m.set c (!seen.contains '-')) r
    else none

/-- A name begins with a letter or a line, and goes on with digits, points and brackets too. -/
def isName : List Char → Bool
  | [] => false
  | c :: r => (c = '_' || Text.isAlphabetic c) &&
    r.all fun c => Text.isAlphanumeric c || "_.[]".toList.contains c

namespace State

def add (s : State) (p : Part) : State :=
  { s with group := s.group.add p }

def opened (s : State) (m : Modes) : State :=
  { s with group := { modes := m }, enclosing := s.group :: s.enclosing }

def named? (s : State) (r : List Char) : Option (State × List Char) :=
  let name := r.takeWhile (· ≠ '>')
  match r.dropWhile (· ≠ '>') with
  | [] => none
  | _ :: rest =>
    if isName name ∧ ¬s.names.contains name then
      some ({ s with names := name :: s.names }.opened s.group.modes, rest)
    else none

/-- What is behind an opening bracket: a group, or a switch of modes. Groups that look around are none. -/
def groupOpened? (s : State) (r : List Char) : Option (State × List Char) :=
  match s.group.modes.skip r with
  | '?' :: 'P' :: '<' :: r => s.named? r
  | '?' :: '<' :: r =>
    match r with
    | '=' :: _ => none
    | '!' :: _ => none
    | r => s.named? r
  | '?' :: r => do
    let (m, seen, rest) ← modes? [] s.group.modes r
    match rest with
    | ')' :: rest =>
      if seen = [] then none
      else some ({ s with group := { s.group.add .switch with modes := m } }, rest)
    | rest => some (s.opened m, rest.drop 1)
  | r => some (s.opened s.group.modes, r)

def groupClosed? (s : State) : Option State :=
  match s.enclosing with
  | [] => none
  | outer :: rest => some { s with group := outer.add (.deep (s.group.depth + 1)), enclosing := rest }

def repeat? (s : State) : Option State :=
  s.group.repeat?.map fun g => { s with group := g }

def step? (s : State) (c : Char) (r : List Char) : Option (State × List Char) :=
  let m := s.group.modes
  match c with
  | '(' => s.groupOpened? r
  | ')' => s.groupClosed?.map (·, r)
  | '|' => some ({ s with group := s.group.alternate }, r)
  | '[' => do
    let (reading, rest) := CharacterSet.Reading.opened m r
    let (set, rest) ← CharacterSet.read? m (r.length + 1) reading rest
    return (s.add (.deep (set.depth + 1)), rest)
  | '?' | '*' | '+' => do
    let s ← s.repeat?
    match r with
    | '?' :: r => return (s, r)
    | r => return (s, r)
  | '\x7b' => none
  | '\\' => do
    let (part, rest) ← escape? m r
    match part with
    | .one c byte => if m.admits c byte then return (s.add (.deep 0), rest) else none
    | _ => return (s.add (.deep 0), rest)
  | '.' => if m.characters then some (s.add (.deep 0), r) else none
  | '^' | '$' => some (s.add (.deep 0), r)
  | c => if m.admits c false then some (s.add (.deep 0), r) else none

def depth? : (fuel : Nat) → State → List Char → Option Nat
  | 0, _, _ => none
  | fuel + 1, s, text =>
    match s.group.modes.skip text with
    | [] => if s.enclosing.isEmpty then some s.group.depth else none
    | c :: r =>
      match s.step? c r with
      | some (s, rest) => depth? fuel s rest
      | none => none

end State

def depthBound : Nat := 250

/-- A pattern of values is read for how deep it is nested, which is bounded. -/
def isPattern (s : List Char) : Bool :=
  (State.depth? (s.length + 1) {} s).any (· ≤ depthBound)

end QueryWatch.Logging.Pattern
