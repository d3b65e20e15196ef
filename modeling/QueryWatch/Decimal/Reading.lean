import QueryWatch.Binary.Word

namespace QueryWatch.Decimal

open Binary (Format)

def exact (negative : Bool) (digits : Nat) (exponent : Int) : Binary64 :=
  let size : Int := (digits.log2 : Int) + 1
  if digits = 0 ∨ exponent < -(400 + size) then .ofRatio negative 0 1
  else if 400 < exponent then ⟨(Format.double.infinity +
    if negative then Format.double.signWeight else 0).toUInt64⟩
  else .ofRatio negative (digits * Nat.pow 10 exponent.toNat) (Nat.pow 10 (-exponent).toNat)

def greatestPower : Nat := 308

/-- Divides by the greatest power of ten while the exponent is below its negative and the quotient is
not zero. -/
def lower : (fuel : Nat) → Nat × Nat → Int → (Nat × Nat) × Int
  | 0, x, e => (x, e)
  | fuel + 1, x, e =>
    if x.1 = 0 ∨ -greatestPower ≤ e then (x, e)
    else
      match Format.double.rounded? (Nat.pow 10 greatestPower) 1 with
      | some p =>
        lower fuel ((Format.double.rounded? (x.1 * p.2) (x.2 * p.1)).getD (0, 1))
          (e + greatestPower)
      | none => (x, e)

/-- Digits below two to the sixty-fourth times a power of ten, rounded at each step; none when the result
is too large. Three divisions bring any such digits to zero. -/
def stepwise? (digits : Nat) (exponent : Int) : Option (Nat × Nat) := do
  let start ← Format.double.rounded? digits 1
  let (x, e) := lower 3 start exponent
  if x.1 = 0 then return x
  if greatestPower < e then none
  let p ← Format.double.rounded? (Nat.pow 10 e.natAbs) 1
  if 0 ≤ e then Format.double.rounded? (x.1 * p.1) (x.2 * p.2)
  else Format.double.rounded? (x.1 * p.2) (x.2 * p.1)

def stepwise (negative : Bool) (digits : Nat) (exponent : Int) : Option Binary64 :=
  (stepwise? digits exponent).map fun x => .ofRatio negative x.1 x.2

end QueryWatch.Decimal
