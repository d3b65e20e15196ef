import QueryWatch.Json.Basic
import QueryWatch.Decimal.Reading
import QueryWatch.Text.Digits

namespace QueryWatch.Toml

open Text.Digits (value? isDecimal)

abbrev Scan (α : Type) := List Char → Option (α × List Char)

def isSpace (c : Char) : Bool :=
  c = ' ' || c = '\t'

/-- A character that may stand in a comment and in a literal text: any but the controls. -/
def isPlain (c : Char) : Bool :=
  c = '\t' || 32 ≤ c.toNat && c.toNat ≠ 127

def newline? : List Char → Option (List Char)
  | '\n' :: r => some r
  | '\r' :: '\n' :: r => some r
  | _ => none

def word? : List Char → List Char → Option (List Char)
  | [], s => some s
  | c :: w, d :: s => if c = d then word? w s else none
  | _ :: _, [] => none

def scalar? (n : Nat) : Option Char :=
  if n < 0xd800 ∨ 0xe000 ≤ n ∧ n < 0x110000 then some (Char.ofNat n) else none

def escape? : Scan Char
  | 'b' :: r => some ('\x08', r)
  | 'f' :: r => some ('\x0c', r)
  | 'n' :: r => some ('\n', r)
  | 'r' :: r => some ('\r', r)
  | 't' :: r => some ('\t', r)
  | '"' :: r => some ('"', r)
  | '\\' :: r => some ('\\', r)
  | 'u' :: r => code? 4 r
  | 'U' :: r => code? 8 r
  | _ => none
where
  code? (width : Nat) (s : List Char) : Option (Char × List Char) := do
    if s.length < width then none
    let n ← Text.Digits.natural? 16 (s.take width)
    return (← scalar? n, s.drop width)

def continuation? (s : List Char) : Option (List Char) := do
  let r ← newline? (s.dropWhile isSpace)
  return skip r.length r
where
  skip : Nat → List Char → List Char
    | 0, s => s
    | n + 1, s =>
      match newline? (s.dropWhile isSpace) with
      | some r => skip n r
      | none => s.dropWhile isSpace

/-- The end of a text that three quotes close, which up to two quotes may stand before. -/
def closing (quote : Char) (s : List Char) : Option (List Char × List Char) :=
  let quotes := (s.takeWhile (· = quote)).length
  if quotes < 3 then none
  else
    let own := min (quotes - 3) 2
    some (List.replicate own quote, s.drop (own + 3))

def basic? : (fuel : Nat) → (acc : List Char) → Scan String
  | _, acc, '"' :: r => some (String.ofList acc.reverse, r)
  | fuel + 1, acc, '\\' :: r =>
    match escape? r with
    | some (c, r) => basic? fuel (c :: acc) r
    | none => none
  | fuel + 1, acc, c :: r => if isPlain c then basic? fuel (c :: acc) r else none
  | _, _, _ => none

def basicLines? : (fuel : Nat) → (acc : List Char) → Scan String
  | 0, _, _ => none
  | fuel + 1, acc, s =>
    match closing '"' s with
    | some (own, r) => some (String.ofList (acc.reverse ++ own), r)
    | none =>
      match newline? s with
      | some r => basicLines? fuel ('\n' :: acc) r
      | none =>
        match s with
        | '\\' :: r =>
          match continuation? r with
          | some r => basicLines? fuel acc r
          | none =>
            match escape? r with
            | some (c, r) => basicLines? fuel (c :: acc) r
            | none => none
        | c :: r => if isPlain c then basicLines? fuel (c :: acc) r else none
        | [] => none

def literal? : (acc : List Char) → Scan String
  | acc, '\'' :: r => some (String.ofList acc.reverse, r)
  | acc, c :: r => if isPlain c then literal? (c :: acc) r else none
  | _, [] => none

def literalLines? : (fuel : Nat) → (acc : List Char) → Scan String
  | 0, _, _ => none
  | fuel + 1, acc, s =>
    match closing '\'' s with
    | some (own, r) => some (String.ofList (acc.reverse ++ own), r)
    | none =>
      match newline? s with
      | some r => literalLines? fuel ('\n' :: acc) r
      | none =>
        match s with
        | c :: r => if isPlain c then literalLines? fuel (c :: acc) r else none
        | [] => none

/-- A line end right behind the opening quotes does not count. -/
def text? (s : List Char) : Option (String × List Char) :=
  match s with
  | '"' :: '"' :: '"' :: r => basicLines? (r.length + 1) [] ((newline? r).getD r)
  | '\'' :: '\'' :: '\'' :: r => literalLines? (r.length + 1) [] ((newline? r).getD r)
  | '"' :: r => basic? r.length [] r
  | '\'' :: r => literal? [] r
  | _ => none

def digits? (base : Nat) : Scan (List Char)
  | c :: r => if (value? base c).isSome then some (more (c :: r)) else none
  | [] => none
where
  more : List Char → List Char × List Char
    | '_' :: c :: r =>
      if (value? base c).isSome then
        let (ds, rest) := more r
        (c :: ds, rest)
      else ([], '_' :: c :: r)
    | c :: r =>
      if (value? base c).isSome then
        let (ds, rest) := more r
        (c :: ds, rest)
      else ([], c :: r)
    | [] => ([], [])

def sign : List Char → Bool × List Char
  | '+' :: r => (false, r)
  | '-' :: r => (true, r)
  | s => (false, s)

/-- Decimal digits; after a leading zero there are no more. -/
def wholeDigits? : Scan (List Char)
  | '0' :: r => some (['0'], r)
  | s => digits? 10 s

def number (digits : List Char) : Nat :=
  (Text.Digits.natural? 10 digits).getD 0

def integer? (s : List Char) : Option (Int × List Char) :=
  match s with
  | '0' :: 'x' :: r => based 16 r
  | '0' :: 'o' :: r => based 8 r
  | '0' :: 'b' :: r => based 2 r
  | s => do
    let (negative, r) := sign s
    let (ds, rest) ← wholeDigits? r
    let n : Int := number ds
    let n := if negative then -n else n
    if Int64.minValue.toInt ≤ n ∧ n ≤ Int64.maxValue.toInt then some (n, rest) else none
where
  based (base : Nat) (r : List Char) : Option (Int × List Char) := do
    let (ds, rest) ← digits? base r
    let n ← Text.Digits.natural? base ds
    if n ≤ Int64.maxValue.toInt then some (n, rest) else none

def exponent? (s : List Char) : Option (Int × List Char) := do
  let r ← match s with
    | 'e' :: r => some r
    | 'E' :: r => some r
    | _ => none
  let (negative, r) := sign r
  let (ds, rest) ← digits? 10 r
  let n : Int := number ds
  return (if negative then -n else n, rest)

/-- A fraction has a point, or an exponent, or both; one above the greatest number is refused. The outer
result says whether there is one, the inner one whether it is good. -/
def fraction? (s : List Char) : Option (Option (Binary64 × List Char)) := do
  let (negative, r) := sign s
  let (whole, r) ← wholeDigits? r
  let (places, shift, rest) ← match r with
    | '.' :: r => do
      let (ds, r) ← digits? 10 r
      match exponent? r with
      | some (n, r) => some (ds, n, r)
      | none => some (ds, 0, r)
    | r => do
      let (n, r) ← exponent? r
      some ([], n, r)
  let x := Decimal.exact negative (number (whole ++ places)) (shift - places.length)
  if x.read = .infinite false then some none else some (some (x, rest))

def special? (s : List Char) : Option (Binary64 × List Char) :=
  let (negative, r) := sign s
  match word? "inf".toList r with
  | some r => some (⟨if negative then 0xfff0000000000000 else 0x7ff0000000000000⟩, r)
  | none =>
    match word? "nan".toList r with
    | some r => some (⟨if negative then 0xfff8000000000000 else 0x7ff8000000000000⟩, r)
    | none => none

def fixed? (width least most : Nat) (s : List Char) : Option (Nat × List Char) :=
  let ds := s.take width
  let n := number ds
  if ds.length = width ∧ ds.all isDecimal ∧ least ≤ n ∧ n ≤ most then some (n, s.drop width)
  else none

def isLeap (year : Nat) : Bool :=
  year % 4 = 0 && (year % 100 ≠ 0 || year % 400 = 0)

def daysIn (year month : Nat) : Nat :=
  if month = 2 then if isLeap year then 29 else 28
  else if month ∈ [4, 6, 9, 11] then 30
  else 31

def padded (width n : Nat) : List Char :=
  let ds := Text.Digits.decimal n
  List.replicate (width - ds.length) '0' ++ ds

/-- A year and its mark begin a date; the outer result says whether there is one. -/
def date? (s : List Char) : Option (Option (List Char × List Char)) := do
  let (year, r) ← fixed? 4 0 9999 s
  let r ← word? ['-'] r
  return do
    let (month, r) ← fixed? 2 1 12 r
    let r ← word? ['-'] r
    let (day, r) ← fixed? 2 1 (daysIn year month) r
    return (padded 4 year ++ '-' :: (padded 2 month ++ '-' :: padded 2 day), r)

def secondFraction (s : List Char) : List Char × List Char :=
  match s with
  | '.' :: r =>
    match r.takeWhile isDecimal with
    | [] => ([], s)
    | ds =>
      let kept := ((ds.take 9).reverse.dropWhile (· = '0')).reverse
      (if kept = [] then [] else '.' :: kept, r.dropWhile isDecimal)
  | s => ([], s)

def time? (s : List Char) : Option (Option (List Char × List Char)) := do
  let (hour, r) ← fixed? 2 0 23 s
  let r ← word? [':'] r
  return do
    let (minute, r) ← fixed? 2 0 59 r
    let r ← word? [':'] r
    let (second, r) ← fixed? 2 0 60 r
    let (part, r) := secondFraction r
    return (padded 2 hour ++ ':' :: (padded 2 minute ++ ':' :: padded 2 second) ++ part, r)

/-- The distance from universal time, if it is given; none when it is given badly. -/
def offset? (s : List Char) : Option (List Char × List Char) :=
  match s with
  | 'Z' :: r => some (['Z'], r)
  | 'z' :: r => some (['Z'], r)
  | '+' :: r => distance '+' r
  | '-' :: r => distance '-' r
  | s => some ([], s)
where
  distance (mark : Char) (r : List Char) : Option (List Char × List Char) := do
    let (hour, r) ← fixed? 2 0 23 r
    let r ← word? [':'] r
    let (minute, r) ← fixed? 2 0 59 r
    let mark := if hour + minute = 0 then '+' else mark
    return (mark :: (padded 2 hour ++ ':' :: padded 2 minute), r)

def moment? (s : List Char) : Option (Option (String × List Char)) :=
  match date? s with
  | some none => some none
  | some (some (d, r)) =>
    let behind := match r with
      | 'T' :: t => time? t
      | 't' :: t => time? t
      | ' ' :: t => time? t
      | _ => none
    match behind with
    | none => some (some (String.ofList d, r))
    | some none => some none
    | some (some (t, r)) =>
      some ((offset? r).map fun (o, r) => (String.ofList (d ++ 'T' :: (t ++ o)), r))
  | none => (time? s).map fun t => t.map fun (t, r) => (String.ofList t, r)

/-- The name that marks a date in a document. -/
def momentKey : String := "$__toml_private_datetime"

def numeric? (s : List Char) : Option (Json × List Char) :=
  match moment? s with
  | some m => m.map fun (t, r) => (.object [(momentKey, .string t)], r)
  | none =>
    match fraction? s with
    | some x => x.map fun (x, r) => (.float x, r)
    | none =>
      match special? s with
      | some (x, r) => some (.float x, r)
      | none => (integer? s).map fun (n, r) => (.int n, r)

end QueryWatch.Toml
