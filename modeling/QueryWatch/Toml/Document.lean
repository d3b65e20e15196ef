import QueryWatch.Toml.Tree
import QueryWatch.Toml.Scalar
import QueryWatch.Config.Basic

namespace QueryWatch.Toml

def depthLimit : Nat := 80

def skipSpaces (s : List Char) : List Char :=
  s.dropWhile isSpace

def comment? : List Char → Option (List Char)
  | '#' :: r =>
    let rest := r.dropWhile isPlain
    if rest = [] ∨ (newline? rest).isSome then some rest else none
  | s => some s

def skipLines? : (fuel : Nat) → List Char → Option (List Char)
  | 0, s => some s
  | fuel + 1, s =>
    match comment? (skipSpaces s) with
    | none => none
    | some r =>
      match newline? r with
      | some r => skipLines? fuel r
      | none => some r

def isBare (c : Char) : Bool :=
  'A' ≤ c && c ≤ 'Z' || 'a' ≤ c && c ≤ 'z' || '0' ≤ c && c ≤ '9' || c = '_' || c = '-'

def simpleKey? (s : List Char) : Option (String × List Char) :=
  match s with
  | '"' :: r => basic? r.length [] r
  | '\'' :: r => literal? [] r
  | s =>
    match s.takeWhile isBare with
    | [] => none
    | name => some (String.ofList name, s.dropWhile isBare)

def keys? : (fuel : Nat) → List Char → Option (List String × List Char)
  | 0, _ => none
  | fuel + 1, s =>
    match simpleKey? (skipSpaces s) with
    | none => none
    | some (key, r) =>
      match skipSpaces r with
      | '.' :: r => (keys? fuel r).map fun (rest, r) => (key :: rest, r)
      | r => some ([key], r)

def path? (s : List Char) : Option (List String × List Char) :=
  (keys? s.length s).filter fun (path, _) => path.length < depthLimit

mutual

def value? : (fuel depth : Nat) → List Char → Option (Json × List Char)
  | 0, _, _ => none
  | fuel + 1, depth, s =>
    match s with
    | '"' :: _ => (text? s).map fun (t, r) => (.string t, r)
    | '\'' :: _ => (text? s).map fun (t, r) => (.string t, r)
    | '[' :: r => if depth + 1 < depthLimit then list? fuel (depth + 1) [] r else none
    | '\x7b' :: r =>
      if depth + 1 < depthLimit then
        match skipSpaces r with
        | '\x7d' :: r => some (.object [], r)
        | r => inline? fuel (depth + 1) [] r
      else none
    | 't' :: r => (word? "rue".toList r).map (.bool true, ·)
    | 'f' :: r => (word? "alse".toList r).map (.bool false, ·)
    | s => numeric? s

def list? : (fuel depth : Nat) → (acc : List Json) → List Char → Option (Json × List Char)
  | 0, _, _, _ => none
  | fuel + 1, depth, acc, s =>
    match skipLines? (s.length + 1) s with
    | none => none
    | some (']' :: r) => some (.array acc.reverse, r)
    | some r =>
      match value? fuel depth r with
      | none => none
      | some (j, r) =>
        match skipLines? (r.length + 1) r with
        | some (',' :: r) => list? fuel depth (j :: acc) r
        | some (']' :: r) => some (.array (j :: acc).reverse, r)
        | _ => none

def inline? : (fuel depth : Nat) → Members → List Char → Option (Json × List Char)
  | 0, _, _, _ => none
  | fuel + 1, depth, ms, s =>
    match path? s with
    | none => none
    | some (path, r) =>
      match r with
      | '=' :: r =>
        match value? fuel depth (skipSpaces r) with
        | none => none
        | some (j, r) =>
          match ms.put path.dropLast (path.getLast?.getD "") j with
          | none => none
          | some ms =>
            match skipSpaces r with
            | ',' :: r => inline? fuel depth ms r
            | '\x7d' :: r => some (Item.document (.table false false ms), r)
            | _ => none
      | _ => none

end

def lineEnd? (s : List Char) : Option (List Char) := do
  let r ← comment? (skipSpaces s)
  if r = [] then some [] else newline? r

def header? (d : Draft) (s : List Char) : Option (Draft × List Char) :=
  match s with
  | '[' :: r => do
    let (path, r) ← path? r
    let r ← word? [']', ']'] r
    return (← d.openElement path, r)
  | s => do
    let (path, r) ← path? s
    let r ← word? [']'] r
    return (← d.openTable path, r)

def assignment? (d : Draft) (s : List Char) : Option (Draft × List Char) := do
  let (path, r) ← path? s
  let r ← word? ['='] r
  let (j, r) ← value? (r.length + 1) 0 (skipSpaces r)
  return (← d.put path.dropLast (path.getLast?.getD "") j, r)

def lines? : (fuel : Nat) → Draft → List Char → Option Draft
  | 0, d, _ => some d
  | fuel + 1, d, s =>
    let body := skipSpaces s
    if body = [] then some d
    else
      let statement := match body with
        | '#' :: _ => some (d, body)
        | '\n' :: _ => some (d, body)
        | '\r' :: _ => some (d, body)
        | '[' :: r => header? d r
        | _ => assignment? d body
      match statement with
      | none => none
      | some (d, r) =>
        match lineEnd? r with
        | none => none
        | some r => lines? fuel d r

/-- The document that a text spells; a byte order mark before it does not count. -/
def parse? (s : String) : Option Json :=
  let cs := match s.toList with
    | '\ufeff' :: r => r
    | cs => cs
  (lines? (cs.length + 1) {} cs).bind Draft.document

end QueryWatch.Toml

namespace QueryWatch.Configuration

def ofToml (env : Config.Environment) (s : String) : Option Configuration :=
  (Toml.parse? s).bind fun j => ((record env .toml).read .toml j).toOption

end QueryWatch.Configuration
