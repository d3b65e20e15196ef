import QueryWatch.Proofs.Delivery.Story

namespace QueryWatch

/-- What a visit of a pipeline delivers: what its modules make of an event, or one measurement. -/
inductive Source
  | event (e : QueryEvent)
  | emission (name : String) (routes : Option (List String)) (m : Measurement)

/-- What is to be done for a measurement: to count it, and to call the reporters. -/
inductive Chore
  | count (name : String)
  | deliver (place : Nat) (m : Measurement)

def Offer.chores (kinds : List String) (o : Offer) : List Chore :=
  .count o.name :: (o.calls kinds).map fun c => .deliver c.1 c.2

/-- What does not change in a generation: its modules with their routes, and the kinds of its reporters. -/
structure Shape where
  modules : List (String × Option (List String))
  kinds : List String

inductive Part
  | module (i : Nat)
  | reporter (j : Nat)

def Shape.parts (shape : Shape) : List Part :=
  (List.range shape.modules.length).map .module ++ (List.range shape.kinds.length).map .reporter

/-- A call that holds a generation and delivers to it. -/
structure Visit where
  generation : Nat
  source : Source
  answers : List (List Measurement) := []
  pending : List Chore := []
  made : List Chore := []

def choresOf (kinds : List String) (i : Nat) (module : String × Option (List String))
    (ms : List Measurement) : List Chore :=
  ms.flatMap fun m => Offer.chores kinds ⟨i, module.1, module.2, m⟩

def tale (kinds : List String) :
    (place : Nat) → List (List Measurement) → List (String × Option (List String)) → List Chore
  | i, ms :: answers, module :: modules =>
    choresOf kinds i module ms ++ tale kinds (i + 1) answers modules
  | _, _, _ => []

namespace Visit

/-- All that a visit has to do, for what the modules have given so far. -/
def script (shape : Shape) : Source → List (List Measurement) → List Chore
  | .event _, answers => tale shape.kinds 0 answers shape.modules
  | .emission name routes m, _ => choresOf shape.kinds 0 (name, routes) [m]

def fresh (g : Nat) (shape : Shape) (source : Source) : Visit where
  generation := g
  source := source
  pending := script shape source []

def Heard (shape : Shape) (v : Visit) : Prop :=
  match v.source with
  | .event _ => shape.modules.length ≤ v.answers.length
  | .emission .. => True

def deliveries (v : Visit) : List (Nat × Nat × Measurement) :=
  v.made.filterMap fun
    | .deliver j m => some (v.generation, j, m)
    | .count _ => none

theorem generation_of_mem_deliveries {v : Visit} {g j : Nat} {m : Measurement}
    (h : (g, j, m) ∈ v.deliveries) : v.generation = g := by
  obtain ⟨chore, -, he⟩ := List.mem_filterMap.1 h
  cases chore with
  | count name => cases he
  | deliver j' m' => exact congrArg Prod.fst (Option.some.inj he)

end Visit

/-- What happens that others can notice. -/
inductive Happening
  | delivered (k g j : Nat) (m : Measurement)
  /-- Nobody holds a generation any more, and its units are going to be stopped. -/
  | retired (g : Nat)
  | stopping (g : Nat) (part : Part)

/-- What a call has to deliver and to retire, and what it holds. -/
structure Outline where
  intended : List Source := []
  plan : List Source := []
  visit : Option Visit := none
  visits : List Visit := []
  /-- The generations that the call has taken out of service and has to retire. -/
  owed : List Nat := []
  left : List (Nat × Part) := []

namespace Outline

def allVisits (o : Outline) : List Visit :=
  o.visits ++ o.visit.toList

end Outline

structure Scene where
  shapes : List Shape
  live : Nat
  history : List Happening := []

namespace Happening

def retired? : Happening → Option Nat
  | retired g => some g
  | _ => none

def stop? (g : Nat) : Happening → Option Part
  | stopping g' part => if g' = g then some part else none
  | _ => none

def delivery? (k : Nat) : Happening → Option (Nat × Nat × Measurement)
  | delivered k' g j m => if k' = k then some (g, j, m) else none
  | _ => none

end Happening

namespace Scene

def retired (w : Scene) : List Nat :=
  w.history.filterMap Happening.retired?

def stops (g : Nat) (w : Scene) : List Part :=
  w.history.filterMap (Happening.stop? g)

def deliveries (k : Nat) (w : Scene) : List (Nat × Nat × Measurement) :=
  w.history.filterMap (Happening.delivery? k)

end Scene

/-- What the call with a number may do while there are the calls `os`. -/
inductive Move (os : List Outline) (k : Nat) : Outline → Scene → Outline → Scene → Prop
  | rest {o w} : Move os k o w o w
  | turn {o w} (more : List Source) :
      Move os k o w { o with intended := o.intended ++ more, plan := o.plan ++ more } w
  | hold {o w source plan shape} (hv : o.visit = none) (hp : o.plan = source :: plan)
      (hl : w.shapes[w.live]? = some shape) :
      Move os k o w { o with plan, visit := some (.fresh w.live shape source) } w
  | ask {o w v e shape module} (ms : List Measurement) (hv : o.visit = some v)
      (hs : v.source = .event e) (hp : v.pending = []) (hg : w.shapes[v.generation]? = some shape)
      (hm : shape.modules[v.answers.length]? = some module) :
      Move os k o w
        { o with visit := some { v with
            answers := v.answers ++ [ms]
            pending := choresOf shape.kinds v.answers.length module ms } } w
  | count {o w v name rest} (hv : o.visit = some v) (hp : v.pending = .count name :: rest) :
      Move os k o w
        { o with visit := some { v with pending := rest, made := v.made ++ [.count name] } } w
  | deliver {o w v j m rest} (hv : o.visit = some v) (hp : v.pending = .deliver j m :: rest) :
      Move os k o w
        { o with visit := some { v with pending := rest, made := v.made ++ [.deliver j m] } }
        { w with history := w.history ++ [.delivered k v.generation j m] }
  | release {o w v shape} (hv : o.visit = some v) (hp : v.pending = [])
      (hg : w.shapes[v.generation]? = some shape) (hh : v.Heard shape) :
      Move os k o w { o with visit := none, visits := o.visits ++ [v] } w
  | swap {o w} (shape : Shape) (ho : o.owed = []) :
      Move os k o w { o with owed := [w.live] }
        { w with shapes := w.shapes ++ [shape], live := w.shapes.length }
  | retire {o w g shape} (ho : o.owed = [g]) (hl : o.left = []) (hg : w.shapes[g]? = some shape)
      (hfree : ∀ o' ∈ os, ∀ v, o'.visit = some v → v.generation ≠ g) :
      Move os k o w { o with owed := [], left := shape.parts.map fun part => (g, part) }
        { w with history := w.history ++ [.retired g] }
  | stop {o w g part left} (more : List Source) (hl : o.left = (g, part) :: left) :
      Move os k o w { o with intended := o.intended ++ more, plan := o.plan ++ more, left }
        { w with history := w.history ++ [.stopping g part] }

end QueryWatch
