import QueryWatch.Proofs.Schedule
import QueryWatch.Sink.TimeSeriesSink

namespace QueryWatch.Sink.TimeSeriesSink

inductive Call
  | reporting (m : Measurement)
  | offering (m : Measurement)
  | accepted (m : Measurement)
  | dropped (m : Measurement)
  | passedOver (m : Measurement)
  | stopping
  /-- The first stop, which has marked the sink and has not told the flusher. -/
  | cancelling
  | stopped

def Call.points : Call → List String
  | accepted m => [Encoding.Line.encode m]
  | _ => []

def Call.isDropped : Call → Bool
  | dropped _ => true
  | _ => false

/-- The batch whose writing begins between two moments of a flusher. -/
def begun (before after : Flusher) : List (List String) :=
  match before.writing with
  | none => after.writing.toList
  | some _ => []

/-- A time series sink with calls under way and its flusher at work beside them. Each choice is one step
that nothing else can come between: a look at the mark of a stopped sink, an offer to the queue, the taking
of a point, the beginning and the end of a writing. -/
structure Traffic where
  sink : TimeSeriesSink
  calls : List Call := []
  cancelled : Bool := false
  /-- The points that got into the queue, in that order. -/
  accepted : List String := []
  /-- The batches whose writing has begun, in that order. -/
  handed : List (List String) := []
  shown : List Signal := []

inductive Choice
  | report (m : Measurement)
  | stop
  | call (k : Nat)
  | receive
  | tick
  /-- The flusher sees that it was told to stop, and closes the queue. -/
  | close
  /-- The closed queue is empty. -/
  | finish
  | written

namespace Traffic

def put (k : Nat) (c : Call) (t : Traffic) : Traffic :=
  { t with calls := t.calls.set k c }

def accept (k : Nat) (m : Measurement) (f : Flusher) (t : Traffic) : Traffic :=
  { t with
    sink := { t.sink with flusher := some f }
    calls := t.calls.set k (.accepted m)
    accepted := t.accepted ++ [Encoding.Line.encode m]
    shown := t.shown ++ [.counted (.reports t.sink.kind)] }

def drop (k : Nat) (m : Measurement) (t : Traffic) : Traffic :=
  { t with
    sink := { t.sink with dropped := t.sink.dropped + 1 }
    calls := t.calls.set k (.dropped m)
    shown := t.shown ++ [.counted (.dropped t.sink.kind), .notice (.queueFull t.sink.kind)] }

/-- Offers the point of a report; a queue that was closed takes none, and nothing is said of it. -/
def offer (k : Nat) (m : Measurement) (t : Traffic) : Traffic :=
  match t.sink.flusher with
  | none => t.put k (.passedOver m)
  | some f =>
    if f.phase = .running then
      match f.offer? (Encoding.Line.encode m) with
      | some f => t.accept k m f
      | none => t.drop k m
    else t.put k (.passedOver m)

def enter (k : Nat) (m : Measurement) (t : Traffic) : Traffic :=
  if t.sink.stopped || !t.sink.alive || !Encoding.Line.hasFields m then t.put k (.passedOver m)
  else t.put k (.offering m)

def mark (k : Nat) (t : Traffic) : Traffic :=
  if t.sink.stopped then t.put k .stopped
  else { t.put k .cancelling with sink := { t.sink with stopped := true } }

def cancel (k : Nat) (t : Traffic) : Traffic :=
  { t.put k .stopped with cancelled := true }

def advance (k : Nat) (t : Traffic) : Traffic :=
  match t.calls[k]? with
  | some (.reporting m) => t.enter k m
  | some (.offering m) => t.offer k m
  | some .stopping => t.mark k
  | some .cancelling => t.cancel k
  | _ => t

def work (g : Flusher → Flusher) (t : Traffic) : Traffic :=
  match t.sink.flusher with
  | none => t
  | some f =>
    { t with
      sink := { t.sink with flusher := some (g f) }
      handed := t.handed ++ begun f (g f) }

theorem work_eq {t : Traffic} {f : Flusher} (hf : t.sink.flusher = some f)
    (g : Flusher → Flusher) :
    t.work g =
      { t with
        sink := { t.sink with flusher := some (g f) }
        handed := t.handed ++ begun f (g f) } := by
  simp only [work, hf]

def endWriting (t : Traffic) : Traffic :=
  match t.sink.flusher with
  | none => t
  | some f =>
    match f.writing with
    | none => t
    | some batch =>
      { t with
        sink := { t.sink with
          flusher := some f.written
          transfers := t.sink.transfers + 1 }
        shown := t.shown ++
          afterWriting t.sink.kind t.sink.outcome t.sink.transfers [batch.length] }

def next : Choice → Traffic → Traffic
  | .report m, t => { t with calls := t.calls ++ [.reporting m] }
  | .stop, t => { t with calls := t.calls ++ [.stopping] }
  | .call k, t => t.advance k
  | .receive, t => t.work Flusher.take
  | .tick, t => t.work fun f => if f.phase = .running then f.flush else f
  | .close, t => t.work fun f => if t.cancelled ∧ f.writing = none then f.stop else f
  | .finish, t => t.work Flusher.finish
  | .written, t => t.endWriting

def opened (kind : String) (capacity batchSize flushMillis : Nat) (outcome : Nat → Option Fault) :
    Traffic :=
  { sink := { kind, flusher := some { capacity, batchSize }, flushMillis, outcome } }

abbrev run (schedule : List Choice) (t : Traffic) : Traffic :=
  Schedule.run next schedule t

end Traffic

end QueryWatch.Sink.TimeSeriesSink
