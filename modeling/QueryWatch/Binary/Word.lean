import QueryWatch.Binary.Format

namespace QueryWatch

open Binary

/-- A double, held as its bit pattern: two numbers are equal when their bits are. -/
structure Binary64 where
  bits : UInt64
  deriving DecidableEq, Inhabited

structure Binary32 where
  bits : UInt32
  deriving DecidableEq, Inhabited

namespace Binary64

def read (x : Binary64) : Reading :=
  Format.double.read x.bits.toNat

def ofRatio (negative : Bool) (num den : Nat) : Binary64 :=
  ⟨(Format.double.nearestSigned negative num den).toUInt64⟩

def isFinite (x : Binary64) : Bool :=
  match x.read with
  | .finite .. => true
  | _ => false

end Binary64

namespace Binary32

def read (x : Binary32) : Reading :=
  Format.single.read x.bits.toNat

def ofRatio (negative : Bool) (num den : Nat) : Binary32 :=
  ⟨(Format.single.nearestSigned negative num den).toUInt32⟩

def ofBinary64 (x : Binary64) : Binary32 :=
  match x.read with
  | .nan => ⟨0x7fc00000⟩
  | .infinite negative => ⟨if negative then 0xff800000 else 0x7f800000⟩
  | .finite negative m e => ofRatio negative (m <<< e.toNat) (1 <<< (-e).toNat)

end Binary32

end QueryWatch
