import QueryWatch.Proofs.Delivery.Attending

namespace QueryWatch

/-- A reporter in a place, which shows its calls; whatever it shows of itself it keeps to itself. -/
structure Watched (ρ : Type) where
  place : Nat
  unit : ρ
  said : List Signal := []

/-- A module that keeps to itself what it shows. -/
structure Hushed (μ : Type) where
  unit : μ
  said : List Signal := []

namespace Watched

variable {ρ : Type} [ReporterUnit ρ]

def turn (r : Watched ρ) (seen : List Signal) (t : Turn ρ) : Turn (Watched ρ) where
  unit := { r with unit := t.unit, said := r.said ++ t.signals }
  signals := seen
  panicked := t.panicked

instance : ReporterUnit (Watched ρ) where
  kind r := ReporterUnit.kind r.unit
  report m r :=
    r.turn [.sighted (.reported (ReporterUnit.kind r.unit) (.int r.place) m)]
      (ReporterUnit.report m r.unit)
  stop r :=
    r.turn [.sighted (.reporterStopped (ReporterUnit.kind r.unit) (.int r.place))]
      (ReporterUnit.stop r.unit)
  kind_report m r := ReporterUnit.kind_report m r.unit
  kind_stop r := ReporterUnit.kind_stop r.unit

def seat : (place : Nat) → List ρ → List (Watched ρ)
  | _, [] => []
  | i, r :: rs => { place := i, unit := r } :: seat (i + 1) rs

def Seated : (place : Nat) → List (Watched ρ) → Prop
  | _, [] => True
  | i, r :: rs => r.place = i ∧ Seated (i + 1) rs

omit [ReporterUnit ρ] in
theorem seated_seat (i : Nat) (rs : List ρ) : Seated i (seat i rs) := by
  induction rs generalizing i with
  | nil => trivial
  | cons r rs ih => exact ⟨rfl, ih (i + 1)⟩

omit [ReporterUnit ρ] in
theorem map_unit_seat (i : Nat) (rs : List ρ) : (seat i rs).map (·.unit) = rs := by
  induction rs generalizing i with
  | nil => rfl
  | cons r rs ih => rw [seat, List.map_cons, ih]

theorem unit_fed (ms : List Measurement) (r : Watched ρ) :
    (ReporterUnit.fed ms r).unit = ReporterUnit.fed ms r.unit := by
  induction ms generalizing r with
  | nil => rfl
  | cons m ms ih => exact ih _

theorem panics_unit (ms : List Measurement) (r : Watched ρ) :
    ReporterUnit.panics ms r = ReporterUnit.panics ms r.unit := by
  induction ms generalizing r with
  | nil => rfl
  | cons m ms ih => exact congrArg (_ + ·) (ih _)

end Watched

namespace Act

def emits : Act → Bool
  | emit _ => true
  | signal _ => false

def signals (acts : List Act) : List Signal :=
  acts.filterMap fun
    | signal s => some s
    | emit _ => none

end Act

namespace Hushed

variable {μ : Type} [ModuleUnit μ]

def turn (u : Hushed μ) (t : ModuleTurn μ) : ModuleTurn (Hushed μ) where
  unit := { unit := t.unit, said := u.said ++ Act.signals t.acts }
  acts := t.acts.filter Act.emits
  panicked := t.panicked

instance : ModuleUnit (Hushed μ) where
  name u := ModuleUnit.name u.unit
  transform e u :=
    let (t, ms) := ModuleUnit.transform e u.unit
    ({ unit := { unit := t.unit, said := u.said ++ t.signals }, panicked := t.panicked }, ms)
  start now u := u.turn (ModuleUnit.start now u.unit)
  stop u := u.turn (ModuleUnit.stop u.unit)
  due? u := ModuleUnit.due? u.unit
  tick now u := u.turn (ModuleUnit.tick now u.unit)
  name_transform e u := ModuleUnit.name_transform e u.unit
  name_start now u := ModuleUnit.name_start now u.unit
  name_stop u := ModuleUnit.name_stop u.unit
  name_tick now u := ModuleUnit.name_tick now u.unit

end Hushed

theorem emitted_filter (acts : List Act) :
    LiveModule.emitted (acts.filter Act.emits) = LiveModule.emitted acts := by
  induction acts with
  | nil => rfl
  | cons a acts ih =>
    cases a with
    | signal s => exact ih
    | emit m => exact congrArg (m :: ·) ih

namespace LiveModule

variable {μ : Type} [ModuleUnit μ]

def hush (l : LiveModule μ) : LiveModule (Hushed μ) :=
  ⟨{ unit := l.unit }, l.routes⟩

def plain (l : LiveModule (Hushed μ)) : LiveModule μ :=
  ⟨l.unit.unit, l.routes⟩

theorem eventOffersFrom_plain (e : QueryEvent) (i : Nat) (ls : List (LiveModule (Hushed μ))) :
    eventOffersFrom e i ls = eventOffersFrom e i (ls.map plain) := by
  induction ls generalizing i with
  | nil => rfl
  | cons l ls ih => exact congrArg (_ ++ ·) (ih (i + 1))

theorem tickOffers_plain (i now : Nat) (l : LiveModule (Hushed μ)) :
    l.tickOffers i now = l.plain.tickOffers i now := by
  have hemitted : emitted (ModuleUnit.tick now l.unit).acts =
      emitted (ModuleUnit.tick now l.plain.unit).acts := emitted_filter _
  rw [tickOffers, tickOffers, hemitted]
  rfl

end LiveModule

namespace Occasion

variable {μ : Type} [ModuleUnit μ]

theorem offers_plain (o : Occasion) (ls : List (LiveModule (Hushed μ))) :
    o.offers ls = o.offers (ls.map LiveModule.plain) := by
  cases o with
  | event e => exact LiveModule.eventOffersFrom_plain e 0 ls
  | tick i now =>
    simp only [offers, List.getElem?_map]
    cases ls[i]? with
    | none => rfl
    | some l => exact l.tickOffers_plain i now

theorem after_plain (o : Occasion) (ls : List (LiveModule (Hushed μ))) :
    (o.after ls).map LiveModule.plain = o.after (ls.map LiveModule.plain) := by
  cases o with
  | event e =>
    simp only [after, List.map_map]
    rfl
  | tick i now =>
    simp only [after, List.getElem?_map]
    cases ls[i]? with
    | none => rfl
    | some l =>
      simp only [Option.map_some, List.map_set]
      rfl

end Occasion

theorem modules_plain {μ : Type} [ModuleUnit μ] (os : List Occasion)
    (ls : List (LiveModule (Hushed μ))) :
    (os.foldl (fun ls o => o.after ls) ls).map LiveModule.plain =
      os.foldl (fun ls o => o.after ls) (ls.map LiveModule.plain) := by
  induction os generalizing ls with
  | nil => rfl
  | cons o os ih => rw [List.foldl_cons, ih, o.after_plain, List.foldl_cons]

/-- Observation does not change the story. -/
theorem story_plain {μ : Type} [ModuleUnit μ] (os : List Occasion)
    (ls : List (LiveModule (Hushed μ))) :
    story os ls = story os (ls.map LiveModule.plain) := by
  induction os generalizing ls with
  | nil => rfl
  | cons o os ih => rw [story, story, o.offers_plain, ih, o.after_plain]

namespace Dispatcher

variable {μ ρ : Type} [ModuleUnit μ] [ReporterUnit ρ]

def observe (d : Dispatcher μ ρ) : Dispatcher (Hushed μ) (Watched ρ) where
  live :=
    { global := d.live.global
      modules := d.live.modules.map LiveModule.hush
      reporters := ⟨Watched.seat 0 d.live.reporters.reporters⟩ }
  moduleKinds := d.moduleKinds.map fun u => { unit := u }
  reporterKinds := d.reporterKinds.map fun r => { place := 0, unit := r }
  defaults := d.defaults
  network := d.network
  now := d.now
  isShutDown := d.isShutDown

omit [ModuleUnit μ] [ReporterUnit ρ] in
theorem plain_observe (d : Dispatcher μ ρ) :
    d.observe.live.modules.map LiveModule.plain = d.live.modules := by
  change (d.live.modules.map LiveModule.hush).map LiveModule.plain = d.live.modules
  rw [List.map_map]
  exact List.map_id _

omit [ReporterUnit ρ] in
theorem story_observe (os : List Occasion) (d : Dispatcher μ ρ) :
    story os d.observe.live.modules = story os d.live.modules := by
  rw [story_plain, plain_observe]

omit [ModuleUnit μ] [ReporterUnit ρ] in
theorem seated_observe (d : Dispatcher μ ρ) :
    Watched.Seated 0 d.observe.live.reporters.reporters :=
  Watched.seated_seat 0 d.live.reporters.reporters

omit [ModuleUnit μ] [ReporterUnit ρ] in
theorem units_observe (d : Dispatcher μ ρ) :
    d.observe.live.reporters.reporters.map (·.unit) = d.live.reporters.reporters :=
  Watched.map_unit_seat 0 d.live.reporters.reporters

end Dispatcher

end QueryWatch
