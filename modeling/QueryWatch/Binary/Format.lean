namespace QueryWatch.Binary

/-- A format says how many bits hold the exponent and the fraction. A finite number is a mantissa times a
power of two; a quotient is rounded to the nearest number, a tie going to the even mantissa. -/
structure Format where
  exponentWidth : Nat
  fractionWidth : Nat
  deriving DecidableEq

inductive Reading
  | nan
  | infinite (negative : Bool)
  | finite (negative : Bool) (mantissa : Nat) (exponent : Int)
  deriving DecidableEq

/-- The nearest natural to a quotient, of two the even one. -/
def nearestQuotient (num den : Nat) : Nat :=
  let q := num / den
  let r := num % den
  if 2 * r < den then q
  else if den < 2 * r then q + 1
  else q + q % 2

/-- The exponent of the greatest power of two that is at most a positive quotient. -/
def floorLog2 (num den : Nat) : Int :=
  let l : Int := (num.log2 : Int) - den.log2
  if den <<< l.toNat ≤ num <<< (-l).toNat then l else l - 1

namespace Format

def double : Format := ⟨11, 52⟩

def single : Format := ⟨8, 23⟩

def infinity (f : Format) : Nat :=
  (1 <<< f.exponentWidth - 1) <<< f.fractionWidth

def signWeight (f : Format) : Nat :=
  1 <<< (f.exponentWidth + f.fractionWidth)

def leastExponent (f : Format) : Int :=
  2 - ((1 <<< (f.exponentWidth - 1) : Nat) : Int) - f.fractionWidth

def read (f : Format) (bits : Nat) : Reading :=
  let negative := bits / f.signWeight % 2 == 1
  let field := (bits >>> f.fractionWidth) % (1 <<< f.exponentWidth)
  let fraction := bits % (1 <<< f.fractionWidth)
  if field = 1 <<< f.exponentWidth - 1 then
    if fraction = 0 then .infinite negative else .nan
  else if field = 0 then .finite negative fraction f.leastExponent
  else .finite negative (1 <<< f.fractionWidth + fraction) (f.leastExponent + field - 1)

/-- The magnitude bits of the number nearest to a quotient, or those of infinity when it is too large. -/
def nearest (f : Format) (num den : Nat) : Nat :=
  if num = 0 then 0
  else
    let e := max f.leastExponent (floorLog2 num den - f.fractionWidth)
    let q := nearestQuotient (num <<< (-e).toNat) (den <<< e.toNat)
    min ((e - f.leastExponent).toNat <<< f.fractionWidth + q) f.infinity

def nearestSigned (f : Format) (negative : Bool) (num den : Nat) : Nat :=
  f.nearest num den + if negative then f.signWeight else 0

def rounded? (f : Format) (num den : Nat) : Option (Nat × Nat) :=
  match f.read (f.nearest num den) with
  | .finite _ m e => some (m <<< e.toNat, 1 <<< (-e).toNat)
  | _ => none

end Format

end QueryWatch.Binary
