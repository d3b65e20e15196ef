namespace QueryWatch.Sink

inductive FlusherPhase
  | running
  | draining
  | ended
  deriving DecidableEq

/-- A bounded queue of points and the flusher that empties it into batches. While a batch is written no
point is taken. After a stop the queue is closed, and what it still holds is written before the flusher
ends. -/
structure Flusher where
  capacity : Nat
  batchSize : Nat
  queue : List String := []
  batch : List String := []
  writing : Option (List String) := none
  phase : FlusherPhase := .running
  deriving DecidableEq

namespace Flusher

def offer? (f : Flusher) (point : String) : Option Flusher :=
  if f.queue.length < f.capacity then some { f with queue := f.queue ++ [point] } else none

def flush (f : Flusher) : Flusher :=
  match f.writing, f.batch with
  | none, _ :: _ => { f with writing := some f.batch, batch := [] }
  | _, _ => f

/-- Takes the first point of the queue into the batch, and begins to write a batch that is full. -/
def take (f : Flusher) : Flusher :=
  match f.writing, f.queue with
  | none, point :: rest =>
    let f := { f with queue := rest, batch := f.batch ++ [point] }
    if f.batchSize ≤ f.batch.length then f.flush else f
  | _, _ => f

def written (f : Flusher) : Flusher :=
  { f with writing := none }

def stop (f : Flusher) : Flusher :=
  if f.phase = .running then { f with phase := .draining } else f

/-- Once the queue is empty, a flusher that drains writes the rest, and then it ends. -/
def finish (f : Flusher) : Flusher :=
  match f.phase, f.writing, f.queue, f.batch with
  | .draining, none, [], [] => { f with phase := .ended }
  | .draining, none, [], _ :: _ => f.flush
  | _, _, _, _ => f

def takeUpTo : Nat → Flusher → Flusher
  | 0, f => f
  | n + 1, f => takeUpTo n f.take

def takeAll (f : Flusher) : Flusher :=
  takeUpTo f.queue.length f

/-- Goes on until nothing is left to do; gives the sizes of the batches whose writing came to an end. Every
round ends a writing or is the last one, and a batch has a point at least. -/
def settle : (fuel : Nat) → Flusher → List Nat × Flusher
  | 0, f => ([], f)
  | fuel + 1, f =>
    let f := f.takeAll.finish
    match f.writing with
    | none => ([], f)
    | some batch =>
      let (sizes, f) := settle fuel f.written
      (batch.length :: sizes, f)

def rounds (f : Flusher) : Nat :=
  f.queue.length + f.batch.length + 3

end Flusher

end QueryWatch.Sink
