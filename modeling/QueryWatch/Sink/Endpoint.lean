import QueryWatch.Sink.Network

namespace QueryWatch.Sink

/-- A connection is kept only while each of its exchanges succeeds: after a failure an acknowledgment may
still be on its way, and it must not be taken for that of a later message. -/
structure Endpoint where
  host : String
  resolved : Bool
  /-- The connection that is held, with what has come on it and was not read. -/
  connection : Option (List Read) := none
  attempts : Nat := 0

structure Attempt where
  frame : List UInt8
  fresh : Bool
  fault : Option Fault
  deriving DecidableEq

namespace Endpoint

/-- Writes to a connection and reads what comes back; what is left unread comes back when all is well. -/
def exchange (r : Reaction) (unread : List Read) : Except Fault (List Read) :=
  match r.write with
  | some fault => .error fault
  | none => readAck r.ending (unread ++ r.reads)

def connect (e : Endpoint) (r : Reaction) : Except Fault (List Read) :=
  match e.connection with
  | some unread => .ok unread
  | none =>
    if e.resolved then
      match r.connect with
      | some fault => .error fault
      | none => .ok []
    else .error (.unresolved e.host)

def send (peer : Nat → Reaction) (frame : List UInt8) (e : Endpoint) : Attempt × Endpoint :=
  let r := peer e.attempts
  let result := do exchange r (← e.connect r)
  let fresh := e.connection.isNone
  match result with
  | .ok unread =>
    (⟨frame, fresh, none⟩, { e with connection := some unread, attempts := e.attempts + 1 })
  | .error fault =>
    (⟨frame, fresh, some fault⟩, { e with connection := none, attempts := e.attempts + 1 })

def close (e : Endpoint) : Endpoint :=
  { e with connection := none }

end Endpoint

end QueryWatch.Sink
