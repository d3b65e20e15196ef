import QueryWatch.Logging.Directive

namespace QueryWatch.Logging

/-- Of the directives that apply to a record the one that asks for most decides, and of two that ask for as
much the later one. -/
structure Filter where
  directives : List Directive

namespace Filter

def pieces (s : List Char) : List (List Char) :=
  (go [] s).filter (· ≠ [])
where
  go (piece : List Char) : List Char → List (List Char)
    | [] => [piece.reverse]
    | c :: r => if c = ',' then piece.reverse :: go [] r else go (c :: piece) r

/-- A filter is read only if each of its directives is; the first that is not tells why. -/
def parse (s : String) : Except Flaw Filter := do
  return ⟨← (pieces s.toList).mapM Directive.parse⟩

def stronger (a b : Directive) : Directive :=
  if b.weight.1 < a.weight.1 ∨ b.weight.1 = a.weight.1 ∧ b.weight.2 < a.weight.2 then a else b

def deciding? (f : Filter) (target : String) (fields : List String) : Option Directive :=
  (f.directives.filter fun d => d.isStatic && d.applies target fields).foldl
    (fun found d => some (match found with
      | some a => stronger a d
      | none => d)) none

def admits (f : Filter) (level : Level) (target : String) (fields : List String) : Bool :=
  match f.deciding? target fields with
  | some d => d.threshold.admits level
  | none => false

end Filter

end QueryWatch.Logging
