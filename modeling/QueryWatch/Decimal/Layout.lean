import QueryWatch.Decimal.Shortest
import QueryWatch.Text.Digits

namespace QueryWatch.Decimal

open Text (Digits.decimal Digits.integer)
open Binary (Format)

structure Layout where
  tie : Tie
  /-- The exponents of the leading digit from which to which no exponent is written; none means all. -/
  positional : Option (Int × Int)
  pointed : Bool

def positionalText (pointed : Bool) (d : Scientific) : List Char :=
  let digits := Digits.decimal d.digits
  if 0 ≤ d.exponent then
    digits ++ List.replicate d.exponent.toNat '0' ++ if pointed then ['.', '0'] else []
  else
    let places := (-d.exponent).toNat
    if places < digits.length then
      digits.take (digits.length - places) ++ '.' :: digits.drop (digits.length - places)
    else '0' :: '.' :: (List.replicate (places - digits.length) '0' ++ digits)

def exponentText (d : Scientific) : List Char :=
  let digits := Digits.decimal d.digits
  let lead := d.exponent + digits.length - 1
  let exponent := if lead < 0 then Digits.integer lead else '+' :: Digits.integer lead
  match digits with
  | c :: [] => c :: 'e' :: exponent
  | c :: r => c :: '.' :: (r ++ 'e' :: exponent)
  | [] => []

def Layout.write (layout : Layout) (d : Scientific) : List Char :=
  match layout.positional with
  | none => positionalText layout.pointed d
  | some (least, most) =>
    let lead := d.exponent + (Digits.decimal d.digits).length - 1
    if d.digits = 0 ∨ least ≤ lead ∧ lead ≤ most then positionalText layout.pointed d
    else exponentText d

/-- Plain text: never an exponent, and no point in whole numbers; a tie goes up. -/
def plain : Layout := ⟨.up, none, false⟩

/-- Documents: exponents outside of ten to the minus fifth and to the fifteenth, whole numbers with a
point; a tie goes to the even digit. -/
def document : Layout := ⟨.even, some (-5, 15), true⟩

def Layout.text (layout : Layout) (x : Binary64) : List Char :=
  match x.read with
  | .nan => ['N', 'a', 'N']
  | .infinite false => ['i', 'n', 'f']
  | .infinite true => ['-', 'i', 'n', 'f']
  | .finite negative m e =>
    let body := layout.write (shortest Format.double layout.tie m e)
    if negative then '-' :: body else body

def whole? (mantissa : Nat) (exponent : Int) : Option Nat :=
  let den := (1 : Nat) <<< (-exponent).toNat
  if mantissa % den = 0 then some ((mantissa / den) <<< exponent.toNat) else none

/-- A whole number in all its digits with a zero behind the point, any other number in plain text. -/
def fractional (x : Binary64) : List Char :=
  match x.read with
  | .finite negative m e =>
    match whole? m e with
    | some n => (if negative then ['-'] else []) ++ Digits.decimal n ++ ['.', '0']
    | none => plain.text x
  | _ => plain.text x

end QueryWatch.Decimal
