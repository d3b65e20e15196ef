namespace QueryWatch.Text.Digits

def digit (n : Nat) : Char :=
  if n < 10 then Char.ofNat (48 + n) else Char.ofNat (87 + n)

def decimal (n : Nat) : List Char :=
  if n < 10 then [digit n] else decimal (n / 10) ++ [digit (n % 10)]

def integer (n : Int) : List Char :=
  if n < 0 then '-' :: decimal n.natAbs else decimal n.natAbs

def value? (base : Nat) (c : Char) : Option Nat :=
  let n :=
    if '0' ≤ c ∧ c ≤ '9' then c.toNat - 48
    else if 'a' ≤ c ∧ c ≤ 'z' then c.toNat - 87
    else if 'A' ≤ c ∧ c ≤ 'Z' then c.toNat - 55
    else base
  if n < base then some n else none

def isDecimal (c : Char) : Bool :=
  '0' ≤ c && c ≤ '9'

/-- Reads digits of a base up to the end; no digit at all reads as zero. -/
def accumulate (base : Nat) (acc : Nat) : List Char → Option Nat
  | [] => some acc
  | c :: r =>
    match value? base c with
    | some d => accumulate base (acc * base + d) r
    | none => none

/-- A number in a base: one digit at least and nothing else. -/
def natural? (base : Nat) : List Char → Option Nat
  | [] => none
  | s => accumulate base 0 s

/-- A count below a bound, with an optional plus sign and any number of leading zeros. -/
def bounded? (bound : Nat) (s : List Char) : Option Nat :=
  let digits := match s with
    | '+' :: r => r
    | s => s
  (natural? 10 digits).filter (· < bound)

def hexadecimal : (width : Nat) → Nat → List Char
  | 0, _ => []
  | width + 1, n => hexadecimal width (n / 16) ++ [digit (n % 16)]

def shortHexadecimal (n : Nat) : List Char :=
  if n < 16 then [digit n] else shortHexadecimal (n / 16) ++ [digit (n % 16)]

def ofBytes (bytes : List UInt8) : List Char :=
  bytes.flatMap fun b => hexadecimal 2 b.toNat

def bytes? : List Char → Option (List UInt8)
  | [] => some []
  | [_] => none
  | a :: b :: r =>
    match value? 16 a, value? 16 b, bytes? r with
    | some x, some y, some rest => some ((x * 16 + y).toUInt8 :: rest)
    | _, _, _ => none

end QueryWatch.Text.Digits

namespace QueryWatch.Text.Real

open Digits (isDecimal)

def names : List (List Char) :=
  ["inf".toList, "infinity".toList, "nan".toList]

def unsigned (s : List Char) : List Char :=
  match s with
  | '+' :: r => r
  | '-' :: r => r
  | s => s

def isExponent (s : List Char) : Bool :=
  match s with
  | [] => true
  | c :: r => (c = 'e' || c = 'E') && unsigned r != [] && (unsigned r).all isDecimal

/-- Digits with a point before, behind or between them, or without one. -/
def isMagnitude (s : List Char) : Bool :=
  let whole := s.takeWhile isDecimal
  match s.dropWhile isDecimal with
  | '.' :: r => (whole != [] || r.head?.any isDecimal) && isExponent (r.dropWhile isDecimal)
  | r => whole != [] && isExponent r

end Real

/-- Which texts are numbers: an optional sign, then infinity, no number, or digits with an optional point
among them and an optional exponent behind them. The case of letters does not matter. -/
def isReal (s : List Char) : Bool :=
  let s := Real.unsigned s
  Real.names.contains (s.map Char.toLower) || Real.isMagnitude s

end QueryWatch.Text
