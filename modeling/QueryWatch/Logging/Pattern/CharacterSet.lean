import QueryWatch.Logging.Pattern.Escape

namespace QueryWatch.Logging.Pattern

/-- What is known of a set: how deep it is nested, and whether it has members. -/
structure CharacterSet where
  depth : Nat
  occupied : Bool
  deriving DecidableEq

namespace CharacterSet

def leaf : CharacterSet := ⟨0, true⟩

def union (parts : List CharacterSet) : CharacterSet :=
  let deepest := (parts.map (·.depth)).foldl max 0
  ⟨if parts.length ≤ 1 then deepest else deepest + 1, parts.any (·.occupied)⟩

/-- A set as one operand; if its case would have to be known it cannot have members. -/
def folded? (m : Modes) (s : CharacterSet) : Option CharacterSet :=
  if m.folds ∧ s.occupied then none else some s

/-- What an operator makes of two sets; only sets without members matter, as others have been refused where
members do. -/
def combine? (m : Modes) (left : Option CharacterSet) (right : CharacterSet) : Option CharacterSet :=
  match left with
  | none => some right
  | some left => do
    let left ← left.folded? m
    let right ← right.folded? m
    return ⟨max left.depth right.depth + 1, left.occupied || right.occupied⟩

/-- A set at its closing bracket. Among bytes the complement of a set holds parts of characters. -/
def close? (m : Modes) (complement : Bool) (s : CharacterSet) : Option CharacterSet := do
  let s ← s.folded? m
  if complement ∧ ¬m.characters then none
  else return { s with occupied := s.occupied || complement }

def classNames : List (List Char) :=
  ["alnum", "alpha", "ascii", "blank", "cntrl", "digit", "graph", "lower", "print", "punct", "space",
    "upper", "word", "xdigit"].map String.toList

def className? (s : List Char) : Option (Bool × List Char) :=
  match s with
  | ':' :: r =>
    let (complement, r) : Bool × List Char := match r with
      | '^' :: r => (true, r)
      | r => (false, r)
    match r.dropWhile (· ≠ ':') with
    | ':' :: ']' :: rest =>
      if classNames.contains (r.takeWhile (· ≠ ':')) then some (complement, rest) else none
    | _ => none
  | _ => none

def single? (m : Modes) (s : List Char) : Option (Escape × List Char) :=
  match s with
  | [] => none
  | '\\' :: r => escape? m r
  | c :: r => some (.one c false, r)

def isMember (m : Modes) : Escape → Bool
  | .one c _ => m.admitsMember c
  | .someOf => true
  | .place => false

/-- The first character behind a hyphen that decides whether the hyphen begins a range. -/
def peek? (m : Modes) (s : List Char) : Option Char :=
  if m.spaced then
    match s.dropWhile Text.isBlank with
    | '#' :: r => (r.dropWhile Text.isBlank).head?
    | s => s.head?
  else s.head?

def member? (m : Modes) (s : List Char) : Option (List Char) := do
  let (first, rest) ← single? m s
  match m.skip rest with
  | [] => none
  | c :: r =>
    if c ≠ '-' ∨ peek? m r = some ']' ∨ peek? m r = some '-' then
      if isMember m first then some (c :: r) else none
    else
      let (last, rest) ← single? m (m.skip r)
      match first, last with
      | .one a _, .one b _ =>
        if a ≤ b ∧ m.admitsMember a ∧ m.admitsMember b then some rest else none
      | _, _ => none

structure Reading where
  complement : Bool := false
  left : Option CharacterSet := none
  parts : List CharacterSet := []
  start : Bool := true

def Reading.add (r : Reading) (s : CharacterSet) : Reading :=
  { r with parts := s :: r.parts, start := false }

def Reading.opened (m : Modes) (s : List Char) : Reading × List Char :=
  match m.skip s with
  | '^' :: r => ({ complement := true }, r)
  | r => ({}, r)

def read? (m : Modes) : (fuel : Nat) → Reading → List Char → Option (CharacterSet × List Char)
  | 0, _, _ => none
  | fuel + 1, state, s =>
    let operator := fun r => do
      let left ← combine? m state.left (union state.parts)
      read? m fuel { state with left := some left, parts := [], start := false } r
    match m.skip s with
    | [] => none
    | '-' :: r =>
      if state.start then read? m fuel { state with parts := leaf :: state.parts } r
      else
        match r with
        | '-' :: r => operator r
        | r => do read? m fuel (state.add leaf) (← member? m ('-' :: r))
    | ']' :: r =>
      if state.start ∧ state.parts = [] then read? m fuel (state.add leaf) r
      else do
        let set ← combine? m state.left (union state.parts)
        return (← set.close? m state.complement, r)
    | '[' :: r =>
      match className? r with
      | some (complement, r) =>
        if complement ∧ ¬m.characters then none else read? m fuel (state.add leaf) r
      | none => do
        let (inner, r) := Reading.opened m r
        let (set, r) ← read? m fuel inner r
        read? m fuel (state.add { set with depth := set.depth + 1 }) r
    | '&' :: '&' :: r => operator r
    | '~' :: '~' :: r => operator r
    | r => do read? m fuel (state.add leaf) (← member? m r)

end CharacterSet

end QueryWatch.Logging.Pattern
