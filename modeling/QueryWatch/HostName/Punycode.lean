import QueryWatch.Text.Digits

namespace QueryWatch.HostName.Punycode

def base : Nat := 36

def leastThreshold : Nat := 1
def greatestThreshold : Nat := 26

def bound : Nat := UInt32.size

/-- Letters are the digits from zero on, and the digits of base ten follow. -/
def digit? (c : Char) : Option Nat :=
  match Text.Digits.value? 36 c with
  | some n => if n < 10 then some (n + 26) else some (n - 10)
  | none => none

/-- A digit below the threshold of its place ends a number. -/
def threshold (place bias : Nat) : Nat :=
  min greatestThreshold (max leastThreshold (place - bias))

/-- A distance made smaller until it tells how long numbers are, and how often that took. -/
def shrink (delta count : Nat) : Nat × Nat :=
  if (base - leastThreshold) * greatestThreshold / 2 < delta then
    shrink (delta / (base - leastThreshold)) (count + 1)
  else (delta, count)
termination_by delta
decreasing_by
  exact Nat.div_lt_self (by simp_all only [base, leastThreshold, greatestThreshold]; omega)
    (by decide)

def adapt (delta length : Nat) (first : Bool) : Nat :=
  let delta := if first then delta / 700 else delta / 2
  let (delta, count) := shrink (delta + delta / length) 0
  count * base + (base - leastThreshold + 1) * delta / (delta + 38)

def number? (bias : Nat) : (place weight count : Nat) → List Char → Option (Nat × List Char)
  | _, _, _, [] => none
  | place, weight, count, c :: r =>
    match digit? c with
    | none => none
    | some d =>
      let count := count + d * weight
      if bound ≤ count then none
      else if d < threshold place bias then some (count, r)
      else
        let weight := weight * (base - threshold place bias)
        if bound ≤ weight then none else number? bias (place + base) weight count r

def insertAll : (fuel bias point place : Nat) → (there : List Char) → List Char →
    Option (List Char)
  | _, _, _, _, there, [] => some there
  | 0, _, _, _, _, _ :: _ => none
  | fuel + 1, bias, point, place, there, s =>
    match number? bias base 1 place s with
    | none => none
    | some (count, rest) =>
      let length := there.length + 1
      let point := point + count / length
      let next := count % length
      if point.isValidChar then
        insertAll fuel (adapt (count - place) length (place = 0)) point (next + 1)
          (there.take next ++ Char.ofNat point :: there.drop next) rest
      else none

def firstPoint : Nat := 128
def firstBias : Nat := 72

/-- The label that one in ASCII stands for. What is before its last hyphen is in it as it is; the numbers
behind that tell which character is inserted at which place, in the order of their code points and each by
its distance from the one before. -/
def decode? (s : List Char) : Option (List Char) :=
  let numbers := (s.reverse.takeWhile (· ≠ '-')).reverse
  match (s.reverse.dropWhile (· ≠ '-')).drop 1 with
  | [] => if s.contains '-' then none else insertAll s.length firstBias firstPoint 0 [] s
  | there =>
    if there.all (·.toNat < 128) then
      insertAll s.length firstBias firstPoint 0 there.reverse numbers
    else none

end QueryWatch.HostName.Punycode
