import QueryWatch.Sink.Fault
import QueryWatch.Wire.Message

namespace QueryWatch.Sink

/-- What one read gives: bytes, or nothing because it was interrupted. -/
inductive Read
  | bytes (b : List UInt8)
  | interrupted
  deriving DecidableEq

/-- What comes behind the last read: the end, or silence until the time is over. -/
inductive Ending
  | closed
  | silent
  deriving DecidableEq

def Ending.fault : Ending → Fault
  | .closed => .transfer
  | .silent => .timeout

/-- Takes a count of bytes; what a read gave beyond them stays. -/
def readExact (ending : Ending) : Nat → List Read → Except Fault (List UInt8 × List Read)
  | 0, rs => .ok ([], rs)
  | _ + 1, [] => .error ending.fault
  | n + 1, .interrupted :: rs => readExact ending (n + 1) rs
  | n + 1, .bytes b :: rs =>
    if b.length ≤ n + 1 then
      (readExact ending (n + 1 - b.length) rs).map fun (taken, rest) => (b ++ taken, rest)
    else .ok (b.take (n + 1), .bytes (b.drop (n + 1)) :: rs)

def longestAck : Nat := 1024 * 1024

def bigEndian (bytes : List UInt8) : Nat :=
  Wire.fromLittleEndian bytes.reverse

def verdict (body : List UInt8) : Except Fault Unit :=
  match Wire.Message.decode? body with
  | none => .error .undecodable
  | some m => if m.ok = some true then .ok () else .error (.refused m.error)

/-- Reads one acknowledgment; if it is positive, what is left of the reads comes back. -/
def readAck (ending : Ending) (reads : List Read) : Except Fault (List Read) := do
  let (head, reads) ← readExact ending 4 reads
  let length := bigEndian head
  if longestAck < length then .error (.oversized length)
  let (body, reads) ← readExact ending length reads
  verdict body
  return reads

end QueryWatch.Sink
