import QueryWatch.Proofs.Calls
import QueryWatch.Proofs.Monitor.Reading
import QueryWatch.Proofs.Schedule
import QueryWatch.Sink.MonitorSink

namespace QueryWatch.Sink.MonitorSink

structure Ack where
  attempt : Nat
  body : List UInt8
  fits : body.length < UInt32.size

/-- The peer passes some frames over and answers the next one. -/
structure Answer where
  passedOver : Nat
  body : List UInt8
  fits : body.length < UInt32.size

structure Connection where
  /-- The attempts whose frames the peer has got and may yet answer, in their order. -/
  unanswered : List Nat := []
  sent : List Ack := []
  /-- How many of the bytes that were sent the sink has taken. -/
  taken : Nat := 0

def stream (acks : List Ack) : List UInt8 :=
  acks.flatMap fun a => framed a.body

namespace Connection

def receive (n : Nat) (c : Connection) : Connection :=
  { c with unanswered := c.unanswered ++ [n] }

def answer (c : Connection) (a : Answer) : Connection :=
  match c.unanswered.drop a.passedOver with
  | [] => c
  | n :: rest => { c with unanswered := rest, sent := c.sent ++ [⟨n, a.body, a.fits⟩] }

def untaken (c : Connection) : List UInt8 :=
  (stream c.sent).drop c.taken

end Connection

/-- What becomes of one attempt on the other side. -/
structure Circumstance where
  reaction : Reaction
  received : Bool
  answers : List Answer

def Circumstance.alter (w : Circumstance) (n : Nat) (c : Connection) : Connection :=
  w.answers.foldl Connection.answer (if w.received then c.receive n else c)

inductive Call
  | reporting (m : Measurement)
  | trying (m : Measurement) (left : Nat) (made : List Attempt)
  | stopping
  /-- A stop that has marked the sink and has not closed its connection. -/
  | closing
  | ended

structure Exchanged where
  number : Nat
  attempt : Attempt
  connection : Option Nat
  /-- The bytes of the connection that it took: from one place up to another. -/
  start : Nat
  stop : Nat

/-- A monitoring sink with calls under way, and its peer beside it. An attempt to send a frame is one step;
whatever else goes on, goes on between the attempts. -/
structure Dialogue where
  sink : MonitorSink
  calls : List Call := []
  past : List Connection := []
  current : Option Connection := none
  made : List Exchanged := []
  shown : List Signal := []

inductive Choice
  | report (m : Measurement)
  | stop
  | call (k : Nat)
  | attempt (k : Nat) (w : Circumstance)
  /-- The peer answers on the connection that is held. -/
  | answer (a : Answer)
  /-- The peer answers on a connection that was given up. -/
  | late (i : Nat) (a : Answer)
  | resolve (resolved : Bool)

namespace Dialogue

def connections (d : Dialogue) : List Connection :=
  d.past ++ d.current.toList

def put (k : Nat) (c : Call) (d : Dialogue) : Dialogue :=
  { d with calls := d.calls.set k c }

def enter (k : Nat) (m : Measurement) (d : Dialogue) : Dialogue :=
  if d.sink.stopped then d.put k .ended else d.put k (.trying m tries [])

def mark (k : Nat) (d : Dialogue) : Dialogue :=
  if d.sink.stopped then d.put k .ended
  else { d.put k .closing with sink := { d.sink with stopped := true } }

def close (k : Nat) (d : Dialogue) : Dialogue :=
  { d.put k .ended with
    sink := { d.sink with endpoint := d.sink.endpoint.map Endpoint.close }
    past := d.connections
    current := none }

def advance (k : Nat) (d : Dialogue) : Dialogue :=
  match d.calls[k]? with
  | some (.reporting m) => d.enter k m
  | some .stopping => d.mark k
  | some .closing => d.close k
  | _ => d

def fail (e : Endpoint) (w : Circumstance) (frame : List UInt8) (d : Dialogue) : Dialogue :=
  let (attempt, after) := e.send (fun _ => w.reaction) frame
  { d with
    sink := { d.sink with endpoint := some after }
    made := d.made ++ [⟨e.attempts, attempt, none, 0, 0⟩] }

def exchange (e : Endpoint) (w : Circumstance) (frame : List UInt8) (c : Connection) (came : Nat)
    (d : Dialogue) : Dialogue :=
  let (attempt, after) := e.send (fun _ => w.reaction) frame
  let stop := c.taken + (came - (content (after.connection.getD [])).length)
  let d : Dialogue := { d with
    sink := { d.sink with endpoint := some after }
    made := d.made ++ [⟨e.attempts, attempt, some d.past.length, c.taken, stop⟩] }
  match after.connection with
  | some _ => { d with current := some { c with taken := stop } }
  | none => { d with past := d.past ++ [{ c with taken := stop }], current := none }

def conclude (k : Nat) (m : Measurement) (left : Nat) (made : List Attempt) (d : Dialogue) :
    Dialogue :=
  if made.getLast?.all (·.fault.isNone) || left = 0 then
    { d with calls := d.calls.set k .ended, shown := d.shown ++ tell d.sink.kind m.name made }
  else d.put k (.trying m left made)

/-- Makes an attempt. What comes on a connection is the next of what the peer sent there; where it is not,
nothing happens. -/
def attempt (k : Nat) (w : Circumstance) (d : Dialogue) : Dialogue :=
  match d.calls[k]?, d.sink.endpoint with
  | some (.trying m (left + 1) made), some e =>
    let frame := d.sink.frame m
    let made := made ++ [(e.send (fun _ => w.reaction) frame).1]
    match e.connect w.reaction with
    | .error _ => (d.fail e w frame).conclude k m left made
    | .ok unread =>
      let c := w.alter e.attempts (d.current.getD {})
      let came := content (unread ++ w.reaction.reads)
      if came.isPrefixOf c.untaken then
        (d.exchange e w frame c came.length).conclude k m left made
      else d
  | _, _ => d

def next : Choice → Dialogue → Dialogue
  | .report m, d => { d with calls := d.calls ++ [.reporting m] }
  | .stop, d => { d with calls := d.calls ++ [.stopping] }
  | .call k, d => d.advance k
  | .attempt k w, d => d.attempt k w
  | .answer a, d => { d with current := d.current.map (·.answer a) }
  | .late i a, d => { d with past := d.past.modify i (·.answer a) }
  | .resolve resolved, d =>
    { d with sink := { d.sink with
        endpoint := d.sink.endpoint.map fun e => { e with resolved } } }

def opened (s : MonitorSink) (host : String) (resolved : Bool) : Dialogue :=
  { sink := { s with endpoint := some { host, resolved }, stopped := false } }

abbrev run (schedule : List Choice) (d : Dialogue) : Dialogue :=
  Schedule.run next schedule d

end Dialogue

end QueryWatch.Sink.MonitorSink
