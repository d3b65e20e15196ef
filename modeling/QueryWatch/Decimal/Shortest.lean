import QueryWatch.Binary.Word

namespace QueryWatch.Decimal

open Binary (Format)

structure Scientific where
  digits : Nat
  exponent : Int
  deriving DecidableEq

inductive Tie
  | up
  | even
  deriving DecidableEq

structure Interval where
  low : Nat
  value : Nat
  high : Nat
  den : Nat
  closed : Bool

/-- The gap below a power of two is half of the gap above it, save at the least exponent. -/
def Interval.around (f : Format) (mantissa : Nat) (exponent : Int) : Interval :=
  let scale := (1 : Nat) <<< (exponent - 2).toNat
  let below := if mantissa = 1 <<< f.fractionWidth ∧ f.leastExponent < exponent then 1 else 2
  { low := (4 * mantissa - below) * scale
    value := 4 * mantissa * scale
    high := (4 * mantissa + 2) * scale
    den := 1 <<< (2 - exponent).toNat
    closed := mantissa % 2 == 0 }

def Interval.holds (i : Interval) (num den : Nat) : Bool :=
  if i.closed then i.low * den ≤ num * i.den && num * i.den ≤ i.high * den
  else i.low * den < num * i.den && num * i.den < i.high * den

/-- The point of the grid of a power of ten that stands for the interval, if the grid has one in it. -/
def Interval.gridPoint? (i : Interval) (tie : Tie) (p : Int) : Option Nat :=
  let up := Nat.pow 10 p.toNat
  let down := Nat.pow 10 (-p).toNat
  let num := i.value * down
  let den := i.den * up
  let k := num / den
  let lower := i.holds (k * up) down
  let upper := i.holds ((k + 1) * up) down
  if lower && upper then
    let r := 2 * (num % den)
    if r < den then some k
    else if den < r then some (k + 1)
    else match tie with
      | .up => some (k + 1)
      | .even => some (k + k % 2)
  else if lower then some k
  else if upper then some (k + 1)
  else none

/-- A power of ten above a positive quotient: ten to the three tenths of a bit count is over two to it. -/
def ceilingExponent (num den : Nat) : Int :=
  ((Binary.floorLog2 num den + 1) * 30103).fdiv 100000 + 1

/-- The shortest decimal that reads back as a positive mantissa times a power of two. Of the decimals in the
interval around the number the ones on the coarsest grid are shortest, and of these the nearest is taken. -/
def shortest (f : Format) (tie : Tie) (mantissa : Nat) (exponent : Int) : Scientific :=
  if mantissa = 0 then ⟨0, 0⟩
  else
    let i := Interval.around f mantissa exponent
    let top := ceilingExponent i.value i.den
    let found := (List.range 24).findSome? fun (n : Nat) =>
      let p := top - (n : Int)
      (i.gridPoint? tie p).map (Scientific.mk · p)
    found.getD ⟨i.value / i.den, 0⟩

end QueryWatch.Decimal
