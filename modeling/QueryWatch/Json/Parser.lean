import QueryWatch.Json.Basic
import QueryWatch.Decimal.Reading
import QueryWatch.Text.Digits

namespace QueryWatch.Json.Parser

open Text.Digits (value? isDecimal)

def isSpace (c : Char) : Bool :=
  c = ' ' || c = '\n' || c = '\t' || c = '\r'

def skip (s : List Char) : List Char :=
  s.dropWhile isSpace

def digitBound : Nat := UInt64.size

/-- Digits collected while they stay below the bound: the number, how many were taken, and the rest. -/
def collect (acc taken : Nat) : List Char → Nat × Nat × List Char
  | [] => (acc, taken, [])
  | c :: r =>
    match value? 10 c with
    | some d => if acc * 10 + d < digitBound then collect (acc * 10 + d) (taken + 1) r
        else (acc, taken, c :: r)
    | none => (acc, taken, c :: r)

def exponent? (s : List Char) : Option (Int × List Char) :=
  let (negative, s) : Bool × List Char := match s with
    | '+' :: r => (false, r)
    | '-' :: r => (true, r)
    | s => (false, s)
  match s.takeWhile isDecimal with
  | [] => none
  | digits =>
    let n : Int := (min ((Text.Digits.natural? 10 digits).getD 0) digitBound : Nat)
    some (if negative then -n else n, s.dropWhile isDecimal)

def fraction? (negative : Bool) (digits : Nat) (power : Int) (s : List Char) :
    Option (Json × List Char) := do
  let (shift, rest) ← match s with
    | 'e' :: r => exponent? r
    | 'E' :: r => exponent? r
    | s => some (0, s)
  let x ← Decimal.stepwise negative digits (power + shift)
  return (.float x, rest)

def afterPoint? (negative : Bool) (digits : Nat) (power : Int) (s : List Char) :
    Option (Json × List Char) :=
  match s.takeWhile isDecimal with
  | [] => none
  | _ =>
    let (digits, taken, rest) := collect digits 0 s
    fraction? negative digits (power - taken) (rest.dropWhile isDecimal)

/-- A whole number; minus zero and what is below the least sixty-four bit integer are fractions. -/
def whole (negative : Bool) (digits : Nat) : Json :=
  if negative then
    if digits = 0 ∨ UInt64.size / 2 < digits then .float (.ofRatio true digits 1) else .int (-digits)
  else .int digits

def number? (negative : Bool) (s : List Char) : Option (Json × List Char) :=
  match s with
  | '0' :: c :: r =>
    if isDecimal c then none else afterDigits negative 0 0 (c :: r)
  | s =>
    match s.takeWhile isDecimal with
    | [] => none
    | _ =>
      let (digits, _, rest) := collect 0 0 s
      let extra := rest.takeWhile isDecimal
      afterDigits negative digits extra.length (rest.dropWhile isDecimal)
where
  afterDigits (negative : Bool) (digits extra : Nat) (s : List Char) : Option (Json × List Char) :=
    match s with
    | '.' :: r => afterPoint? negative digits extra r
    | 'e' :: _ => fraction? negative digits extra s
    | 'E' :: _ => fraction? negative digits extra s
    | s => if extra = 0 then some (whole negative digits, s) else fraction? negative digits extra s

def pair (high low : Nat) : Char :=
  Char.ofNat (0x10000 + (high - 0xd800) * 1024 + (low - 0xdc00))

/-- A text up to its closing quote. The unit of a pair that came first waits for the second. -/
def text? (high : Option Nat) (acc : List Char) : List Char → Option (String × List Char)
  | [] => none
  | '"' :: r => if high.isSome then none else some (String.ofList acc.reverse, r)
  | '\\' :: 'u' :: a :: b :: c :: d :: r => do
    let n ← Text.Digits.natural? 16 [a, b, c, d]
    match high with
    | some h => if 0xdc00 ≤ n ∧ n < 0xe000 then text? none (pair h n :: acc) r else none
    | none =>
      if 0xd800 ≤ n ∧ n < 0xdc00 then text? (some n) acc r
      else if 0xdc00 ≤ n ∧ n < 0xe000 then none
      else text? none (Char.ofNat n :: acc) r
  | '\\' :: c :: r =>
    if high.isSome then none
    else match c with
      | '"' => text? none ('"' :: acc) r
      | '\\' => text? none ('\\' :: acc) r
      | '/' => text? none ('/' :: acc) r
      | 'b' => text? none ('\x08' :: acc) r
      | 'f' => text? none ('\x0c' :: acc) r
      | 'n' => text? none ('\n' :: acc) r
      | 'r' => text? none ('\r' :: acc) r
      | 't' => text? none ('\t' :: acc) r
      | _ => none
  | c :: r => if high.isSome ∨ c.toNat < 32 then none else text? none (c :: acc) r

def word? : List Char → List Char → Option (List Char)
  | [], s => some s
  | c :: w, d :: s => if c = d then word? w s else none
  | _ :: _, [] => none

def depthBound : Nat := 127

mutual

def value? : (fuel depth : Nat) → List Char → Option (Json × List Char)
  | 0, _, _ => none
  | fuel + 1, depth, s =>
    match skip s, depth with
    | '\x7b' :: _, 0 => none
    | '\x7b' :: r, depth + 1 =>
      match skip r with
      | '\x7d' :: r => some (.object [], r)
      | r => members? fuel depth [] r
    | '[' :: _, 0 => none
    | '[' :: r, depth + 1 =>
      match skip r with
      | ']' :: r => some (.array [], r)
      | r => items? fuel depth [] r
    | '"' :: r, _ => (text? none [] r).map fun (s, r) => (.string s, r)
    | '-' :: r, _ => number? true r
    | 'n' :: r, _ => (word? "ull".toList r).map (.null, ·)
    | 't' :: r, _ => (word? "rue".toList r).map (.bool true, ·)
    | 'f' :: r, _ => (word? "alse".toList r).map (.bool false, ·)
    | r, _ => number? false r

def items? : (fuel depth : Nat) → List Json → List Char → Option (Json × List Char)
  | 0, _, _, _ => none
  | fuel + 1, depth, acc, s =>
    match value? fuel depth s with
    | none => none
    | some (j, r) =>
      match skip r with
      | ',' :: r => items? fuel depth (j :: acc) r
      | ']' :: r => some (.array (j :: acc).reverse, r)
      | _ => none

def members? : (fuel depth : Nat) → List (String × Json) → List Char → Option (Json × List Char)
  | 0, _, _, _ => none
  | fuel + 1, depth, acc, s =>
    match skip s with
    | '"' :: r =>
      match text? none [] r with
      | none => none
      | some (name, r) =>
        match skip r with
        | ':' :: r =>
          match value? fuel depth r with
          | none => none
          | some (j, r) =>
            match skip r with
            | ',' :: r => members? fuel depth ((name, j) :: acc) r
            | '\x7d' :: r => some (.ofMembers ((name, j) :: acc).reverse, r)
            | _ => none
        | _ => none
    | _ => none

end

end Parser

/-- A number without point and exponent is whole as long as it fits into sixty-four bits, any other is a
fraction; of two members with one name the later one stays. Nesting is bounded. -/
def parse? (s : String) : Option Json :=
  match Parser.value? (s.length + 1) Parser.depthBound s.toList with
  | some (j, rest) => if Parser.skip rest = [] then some j else none
  | none => none

end QueryWatch.Json
