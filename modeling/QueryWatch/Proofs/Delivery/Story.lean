import QueryWatch.Dispatcher

namespace QueryWatch

/-- A measurement that a module gives to the reporters. -/
structure Offer where
  module : Nat
  name : String
  routes : Option (List String)
  measurement : Measurement

namespace Offer

def admits (o : Offer) (kind : String) : Bool :=
  Fanout.admits o.routes kind

def callsFrom (o : Offer) : (place : Nat) → (kinds : List String) → List (Nat × Measurement)
  | _, [] => []
  | j, kind :: kinds =>
    (if o.admits kind then [(j, o.measurement)] else []) ++ o.callsFrom (j + 1) kinds

/-- The calls that an offer asks for: each reporter that the routes lead to, once and in order. -/
def calls (kinds : List String) (o : Offer) : List (Nat × Measurement) :=
  o.callsFrom 0 kinds

end Offer

/-- What a reporter of a kind is given of some offers. -/
def inbox (kind : String) (offers : List Offer) : List Measurement :=
  (offers.filter (·.admits kind)).map (·.measurement)

theorem inbox_cons (kind : String) (o : Offer) (os : List Offer) :
    inbox kind (o :: os) = inbox kind [o] ++ inbox kind os := by
  rw [inbox, inbox, inbox, ← List.map_append, ← List.filter_append, List.singleton_append]

namespace ReporterUnit

variable {ρ : Type} [ReporterUnit ρ]

def fed (ms : List Measurement) (r : ρ) : ρ :=
  ms.foldl (fun r m => (report m r).unit) r

def panics : List Measurement → ρ → Nat
  | [], _ => 0
  | m :: ms, r => (if (report m r).panicked then 1 else 0) + panics ms (report m r).unit

theorem fed_append (a b : List Measurement) (r : ρ) : fed (a ++ b) r = fed b (fed a r) :=
  List.foldl_append

theorem panics_append (a b : List Measurement) (r : ρ) :
    panics (a ++ b) r = panics a r + panics b (fed a r) := by
  induction a generalizing r with
  | nil => exact (Nat.zero_add _).symm
  | cons m a ih =>
    rw [List.cons_append, panics, panics, ih, Nat.add_assoc]
    rfl

@[simp] theorem kind_fed (ms : List Measurement) (r : ρ) : kind (fed ms r) = kind r := by
  induction ms generalizing r with
  | nil => rfl
  | cons m ms ih =>
    rw [fed, List.foldl_cons]
    exact (ih _).trans (kind_report m r)

end ReporterUnit

/-- What a module is called for while it is live. -/
inductive Occasion
  | event (e : QueryEvent)
  | tick (place now : Nat)

namespace LiveModule

variable {μ ρ : Type} [ModuleUnit μ] [ReporterUnit ρ]

def afterEvent (e : QueryEvent) (l : LiveModule μ) : LiveModule μ :=
  { l with unit := (ModuleUnit.transform e l.unit).1.unit }

/-- What a module makes of an event; one that panics makes nothing of it. -/
def eventOffers (i : Nat) (e : QueryEvent) (l : LiveModule μ) : List Offer :=
  if (ModuleUnit.transform e l.unit).1.panicked then []
  else (ModuleUnit.transform e l.unit).2.map fun m => ⟨i, l.name, l.routes, m⟩

def afterTick (now : Nat) (l : LiveModule μ) : LiveModule μ :=
  { l with unit := (ModuleUnit.tick now l.unit).unit }

def emitted (acts : List Act) : List Measurement :=
  acts.filterMap fun
    | .emit m => some m
    | .signal _ => none

def tickOffers (i now : Nat) (l : LiveModule μ) : List Offer :=
  (emitted (ModuleUnit.tick now l.unit).acts).map fun m => ⟨i, l.name, l.routes, m⟩

@[simp] theorem name_afterEvent (e : QueryEvent) (l : LiveModule μ) :
    (l.afterEvent e).name = l.name :=
  ModuleUnit.name_transform e l.unit

def eventOffersFrom (e : QueryEvent) : (place : Nat) → List (LiveModule μ) → List Offer
  | _, [] => []
  | i, l :: ls => l.eventOffers i e ++ eventOffersFrom e (i + 1) ls

end LiveModule

namespace Occasion

variable {μ : Type} [ModuleUnit μ]

def after : Occasion → List (LiveModule μ) → List (LiveModule μ)
  | event e, ls => ls.map (·.afterEvent e)
  | tick i now, ls =>
    match ls[i]? with
    | some l => ls.set i (l.afterTick now)
    | none => ls

def offers : Occasion → List (LiveModule μ) → List Offer
  | event e, ls => LiveModule.eventOffersFrom e 0 ls
  | tick i now, ls =>
    match ls[i]? with
    | some l => l.tickOffers i now
    | none => []

end Occasion

/-- All that modules give to the reporters, occasion by occasion, told without the reporters. What becomes
of one reporter is then a matter of that reporter and of its share of the story. -/
def story {μ : Type} [ModuleUnit μ] : List Occasion → List (LiveModule μ) → List Offer
  | [], _ => []
  | o :: os, ls => o.offers ls ++ story os (o.after ls)

namespace Fanout

variable {ρ : Type} [ReporterUnit ρ]

def take : List Offer → Fanout ρ → Fanout ρ × List Signal
  | [], f => (f, [])
  | o :: os, f =>
    let (f, shown) := LiveModule.publish o.name o.routes o.measurement f
    let (f, more) := take os f
    (f, shown ++ more)

theorem fst_take_append (a b : List Offer) (f : Fanout ρ) :
    (take (a ++ b) f).1 = (take b (take a f).1).1 := by
  induction a generalizing f with
  | nil => rfl
  | cons o os ih => exact ih _

theorem snd_take_append (a b : List Offer) (f : Fanout ρ) :
    (take (a ++ b) f).2 = (take a f).2 ++ (take b (take a f).1).2 := by
  induction a generalizing f with
  | nil => rfl
  | cons o os ih =>
    simp only [List.cons_append, take, ih, List.append_assoc]

def visit (o : Offer) (r : ρ) : ρ × List Signal :=
  if o.admits (ReporterUnit.kind r) then deliver o.measurement r else (r, [])

theorem publish_eq (o : Offer) (f : Fanout ρ) :
    LiveModule.publish o.name o.routes o.measurement f =
      (⟨(sweep (visit o) f.reporters).1⟩,
        .counted (.measurements o.name) :: (sweep (visit o) f.reporters).2) :=
  rfl

theorem fst_deliver (m : Measurement) (r : ρ) :
    (deliver m r).1 = (ReporterUnit.report m r).unit := by
  unfold deliver
  simp only
  split <;> rfl

theorem fst_visit (o : Offer) (r : ρ) :
    (visit o r).1 = ReporterUnit.fed (inbox (ReporterUnit.kind r) [o]) r := by
  unfold visit
  cases h : o.admits (ReporterUnit.kind r) with
  | true =>
    rw [if_pos rfl, fst_deliver]
    simp [inbox, h, ReporterUnit.fed]
  | false =>
    rw [if_neg Bool.false_ne_true]
    simp [inbox, h, ReporterUnit.fed]

@[simp] theorem kind_visit (o : Offer) (r : ρ) :
    ReporterUnit.kind (visit o r).1 = ReporterUnit.kind r := by
  rw [fst_visit, ReporterUnit.kind_fed]

/-- Each reporter gets its share of the offers, whoever else there is. -/
theorem reporters_take (os : List Offer) (f : Fanout ρ) :
    (take os f).1.reporters =
      f.reporters.map fun r => ReporterUnit.fed (inbox (ReporterUnit.kind r) os) r := by
  induction os generalizing f with
  | nil => simp [take, inbox, ReporterUnit.fed]
  | cons o os ih =>
    simp only [take, ih, publish_eq, fst_sweep, List.map_map]
    apply List.map_congr_left
    intro r _
    rw [Function.comp_apply, kind_visit, fst_visit, inbox_cons _ o os, ReporterUnit.fed_append]

end Fanout

end QueryWatch
