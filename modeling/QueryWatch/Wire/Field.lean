namespace QueryWatch.Wire.Varint

/-- Seven bits to a byte, the low ones first, and the high bit set on every byte but the last. -/
def encode (n : Nat) : List UInt8 :=
  if n < 128 then [n.toUInt8] else (n % 128 + 128).toUInt8 :: encode (n / 128)

/-- Reads a number whose bytes so far were worth `acc`, with the next byte of weight `128 ^ taken`. The
tenth byte can hold one bit only. -/
def decodeFrom (taken acc : Nat) : List UInt8 → Option (Nat × List UInt8)
  | [] => none
  | b :: rest =>
    if taken = 9 then
      if b.toNat < 2 then some (acc + b.toNat * Nat.pow 128 taken, rest) else none
    else if b.toNat < 128 then some (acc + b.toNat * Nat.pow 128 taken, rest)
    else decodeFrom (taken + 1) (acc + (b.toNat - 128) * Nat.pow 128 taken) rest

def decode? (bytes : List UInt8) : Option (Nat × List UInt8) :=
  decodeFrom 0 0 bytes

end QueryWatch.Wire.Varint

namespace QueryWatch.Wire

/-- The value of a field as it is written. Groups are an old way to write one; they are passed over. -/
inductive Value
  | varint (n : Nat)
  | fixed64 (n : Nat)
  | bytes (b : List UInt8)
  | fixed32 (n : Nat)
  | group
  deriving DecidableEq

structure Field where
  tag : Nat
  value : Value
  deriving DecidableEq

def littleEndian : (width : Nat) → Nat → List UInt8
  | 0, _ => []
  | width + 1, n => (n % 256).toUInt8 :: littleEndian width (n / 256)

def fromLittleEndian : List UInt8 → Nat
  | [] => 0
  | b :: rest => b.toNat + 256 * fromLittleEndian rest

def split? (n : Nat) (bytes : List UInt8) : Option (List UInt8 × List UInt8) :=
  if n ≤ bytes.length then some (bytes.take n, bytes.drop n) else none

namespace Field

def depthLimit : Nat := 100

def key (tag form : Nat) : List UInt8 :=
  Varint.encode (tag * 8 + form)

def encode (f : Field) : List UInt8 :=
  match f.value with
  | .varint n => key f.tag 0 ++ Varint.encode n
  | .fixed64 n => key f.tag 1 ++ littleEndian 8 n
  | .bytes b => key f.tag 2 ++ Varint.encode b.length ++ b
  | .group => key f.tag 3 ++ key f.tag 4
  | .fixed32 n => key f.tag 5 ++ littleEndian 4 n

/-- A tag, which is positive, and a form; both are in a number of thirty-two bits. -/
def key? (bytes : List UInt8) : Option (Nat × Nat × List UInt8) := do
  let (n, rest) ← Varint.decode? bytes
  if UInt32.size ≤ n ∨ n < 8 then none else some (n / 8, n % 8, rest)

def plain? (form : Nat) (bytes : List UInt8) : Option (Value × List UInt8) :=
  match form with
  | 0 => (Varint.decode? bytes).map fun (n, rest) => (.varint n, rest)
  | 1 => (split? 8 bytes).map fun (b, rest) => (.fixed64 (fromLittleEndian b), rest)
  | 2 => do
    let (n, rest) ← Varint.decode? bytes
    let (b, rest) ← split? n rest
    return (.bytes b, rest)
  | 5 => (split? 4 bytes).map fun (b, rest) => (.fixed32 (fromLittleEndian b), rest)
  | _ => none

/-- What follows a group, given the tags of the groups that are still open, the inmost first. -/
def skipGroups (limit : Nat) : (fuel : Nat) → (openTags : List Nat) → List UInt8 →
    Option (List UInt8)
  | _, [], bytes => some bytes
  | 0, _, _ => none
  | fuel + 1, tag :: outer, bytes =>
    match key? bytes with
    | none => none
    | some (t, form, rest) =>
      if form = 4 then
        if t = tag then skipGroups limit fuel outer rest else none
      else if limit ≤ outer.length + 1 then none
      else if form = 3 then skipGroups limit fuel (t :: tag :: outer) rest
      else
        match plain? form rest with
        | some (_, rest) => skipGroups limit fuel (tag :: outer) rest
        | none => none

def decode? (limit : Nat) (bytes : List UInt8) : Option (Field × List UInt8) := do
  let (tag, form, rest) ← key? bytes
  if form = 3 then
    let rest ← skipGroups limit rest.length [tag] rest
    return (⟨tag, .group⟩, rest)
  else
    let (value, rest) ← plain? form rest
    return (⟨tag, value⟩, rest)

def decodeAll : (limit fuel : Nat) → List UInt8 → Option (List Field)
  | _, _, [] => some []
  | _, 0, _ => none
  | limit, fuel + 1, bytes =>
    match decode? limit bytes with
    | none => none
    | some (f, rest) => (decodeAll limit fuel rest).map (f :: ·)

def fields? (limit : Nat) (bytes : List UInt8) : Option (List Field) :=
  decodeAll limit bytes.length bytes

end Field

end QueryWatch.Wire
