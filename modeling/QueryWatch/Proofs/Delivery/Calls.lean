import QueryWatch.Proofs.Delivery.Observation

namespace QueryWatch

def Signal.call? : Signal → Option (Nat × Measurement)
  | .sighted (.reported _ (.int j) m) => some (j.toNat, m)
  | _ => none

def callsIn (shown : List Signal) : List (Nat × Measurement) :=
  shown.filterMap Signal.call?

/-- Whether a signal is more than a record in the log. -/
def Signal.tells : Signal → Bool
  | .notice _ => false
  | _ => true

def told (shown : List Signal) : List Signal :=
  shown.filter Signal.tells

@[simp] theorem callsIn_append (a b : List Signal) : callsIn (a ++ b) = callsIn a ++ callsIn b :=
  List.filterMap_append

@[simp] theorem told_append (a b : List Signal) : told (a ++ b) = told a ++ told b :=
  List.filter_append ..

theorem callsIn_told (shown : List Signal) : callsIn (told shown) = callsIn shown := by
  induction shown with
  | nil => rfl
  | cons s rest ih =>
    cases s with
    | notice n => exact ih
    | logged level text => exact ih
    | counted c => exact ih
    | sighted s =>
      simp only [callsIn, told] at ih
      simp [callsIn, told, Signal.tells, List.filter_cons, List.filterMap_cons, ih]

theorem tally_told (c : Counter) (shown : List Signal) : tally c (told shown) = tally c shown := by
  induction shown with
  | nil => rfl
  | cons s rest ih =>
    cases s with
    | notice n => rw [tally_notice]; exact ih
    | logged level text => exact ih
    | counted c' =>
      have hcons : told (.counted c' :: rest) = .counted c' :: told rest := rfl
      rw [hcons, tally_counted, tally_counted, ih]
    | sighted s =>
      have hcons : told (.sighted s :: rest) = .sighted s :: told rest := rfl
      rw [hcons, tally_sighted, tally_sighted, ih]

namespace Fanout

open Watched (Seated)

variable {ρ : Type} [ReporterUnit ρ]

theorem callsIn_deliver (m : Measurement) (r : Watched ρ) :
    callsIn (deliver m r).2 = [(r.place, m)] := by
  unfold deliver
  simp only
  split <;> rfl

theorem callsIn_visit (o : Offer) (r : Watched ρ) :
    callsIn (visit o r).2 =
      if o.admits (ReporterUnit.kind r) then [(r.place, o.measurement)] else [] := by
  unfold visit
  split
  · exact callsIn_deliver o.measurement r
  · rfl

theorem place_visit (o : Offer) (r : Watched ρ) : (visit o r).1.place = r.place := by
  unfold visit
  split
  · rw [fst_deliver]
    rfl
  · rfl

theorem callsIn_sweep (o : Offer) {i : Nat} {rs : List (Watched ρ)} (h : Seated i rs) :
    callsIn (sweep (visit o) rs).2 = o.callsFrom i (rs.map ReporterUnit.kind) := by
  induction rs generalizing i with
  | nil => rfl
  | cons r rs ih =>
    obtain ⟨hplace, hrest⟩ := h
    rw [sweep, callsIn_append, callsIn_visit, hplace, ih hrest, List.map_cons, Offer.callsFrom]

theorem seated_sweep (o : Offer) {i : Nat} {rs : List (Watched ρ)} (h : Seated i rs) :
    Seated i (sweep (visit o) rs).1 := by
  induction rs generalizing i with
  | nil => trivial
  | cons r rs ih => exact ⟨(place_visit o r).trans h.1, ih h.2⟩

theorem kinds_sweep (o : Offer) (rs : List ρ) :
    (sweep (visit o) rs).1.map ReporterUnit.kind = rs.map ReporterUnit.kind := by
  rw [fst_sweep, List.map_map]
  exact List.map_congr_left fun r _ => kind_visit o r

theorem callsIn_take (os : List Offer) {f : Fanout (Watched ρ)} (h : Seated 0 f.reporters) :
    callsIn (f.take os).2 = os.flatMap (·.calls f.kinds) := by
  induction os generalizing f with
  | nil => rfl
  | cons o os ih =>
    let rest : Fanout (Watched ρ) := ⟨(sweep (visit o) f.reporters).1⟩
    have hcalls : callsIn (.counted (.measurements o.name) :: (sweep (visit o) f.reporters).2) =
        o.calls f.kinds := callsIn_sweep o h
    have hmore : callsIn (rest.take os).2 = os.flatMap (·.calls f.kinds) := by
      have hkinds : rest.kinds = f.kinds := kinds_sweep o f.reporters
      rw [ih (seated_sweep o h), hkinds]
    simp only [take, publish_eq, callsIn_append, List.flatMap_cons]
    rw [hcalls, hmore]

theorem tally_measurements_deliver (name : String) (m : Measurement) (r : Watched ρ) :
    tally (.measurements name) (deliver m r).2 = 0 := by
  unfold deliver
  simp only
  split <;> rfl

theorem tally_measurements_sweep (name : String) (o : Offer) (rs : List (Watched ρ)) :
    tally (.measurements name) (sweep (visit o) rs).2 = 0 := by
  induction rs with
  | nil => rfl
  | cons r rs ih =>
    have hvisit : tally (.measurements name) (visit o r).2 = 0 := by
      unfold visit
      split
      · exact tally_measurements_deliver name o.measurement r
      · rfl
    rw [sweep, tally_append, hvisit, ih]

theorem tally_measurements_take (name : String) (os : List Offer) (f : Fanout (Watched ρ)) :
    tally (.measurements name) (f.take os).2 = os.countP (·.name = name) := by
  induction os generalizing f with
  | nil => rfl
  | cons o os ih =>
    simp only [take, publish_eq, tally_append, ih, tally_counted, tally_measurements_sweep,
      List.countP_cons, Counter.measurements.injEq, decide_eq_true_eq]
    omega

/-- How often the reporters of a kind panic over some offers. -/
def failures (kind : String) (os : List Offer) : List ρ → Nat
  | [] => 0
  | r :: rs =>
    (if ReporterUnit.kind r = kind then ReporterUnit.panics (inbox kind os) r else 0) +
      failures kind os rs

theorem failures_unit (kind : String) (os : List Offer) (rs : List (Watched ρ)) :
    failures kind os rs = failures kind os (rs.map (·.unit)) := by
  induction rs with
  | nil => rfl
  | cons r rs ih =>
    rw [List.map_cons, failures, failures, ih, Watched.panics_unit]
    rfl

theorem failures_nil (kind : String) (rs : List ρ) : failures kind [] rs = 0 := by
  induction rs with
  | nil => rfl
  | cons r rs ih => simp [failures, ih, inbox, ReporterUnit.panics]

theorem tally_failures_deliver (kind : String) (m : Measurement) (r : Watched ρ) :
    tally (.reportFailures kind) (deliver m r).2 =
      if ReporterUnit.kind r = kind then ReporterUnit.panics [m] r else 0 := by
  have hkind := ReporterUnit.kind_report m r
  have hsignals : (ReporterUnit.report m r).signals =
      [.sighted (.reported (ReporterUnit.kind r) (.int r.place) m)] := rfl
  unfold deliver
  simp only [ReporterUnit.panics, hkind, hsignals]
  cases (ReporterUnit.report m r).panicked with
  | false => simp
  | true => simp

theorem tally_failures_visit (kind : String) (o : Offer) (r : Watched ρ) :
    tally (.reportFailures kind) (visit o r).2 =
      if ReporterUnit.kind r = kind then ReporterUnit.panics (inbox kind [o]) r else 0 := by
  unfold visit
  by_cases hk : ReporterUnit.kind r = kind
  · subst hk
    cases ha : o.admits (ReporterUnit.kind r) with
    | true => simp [tally_failures_deliver, inbox, ha]
    | false => simp [inbox, ha, ReporterUnit.panics]
  · cases ha : o.admits (ReporterUnit.kind r) with
    | true => simp [tally_failures_deliver, hk]
    | false => simp [hk]

theorem failures_cons (kind : String) (o : Offer) (os : List Offer) (rs : List (Watched ρ)) :
    failures kind (o :: os) rs =
      tally (.reportFailures kind) (sweep (visit o) rs).2 +
        failures kind os (sweep (visit o) rs).1 := by
  induction rs with
  | nil => rfl
  | cons r rs ih =>
    have hhead : (if ReporterUnit.kind r = kind then
          ReporterUnit.panics (inbox kind (o :: os)) r else 0) =
        tally (.reportFailures kind) (visit o r).2 +
          if ReporterUnit.kind (visit o r).1 = kind then
            ReporterUnit.panics (inbox kind os) (visit o r).1 else 0 := by
      rw [tally_failures_visit, kind_visit]
      by_cases hk : ReporterUnit.kind r = kind
      · subst hk
        rw [if_pos rfl, if_pos rfl, if_pos rfl, inbox_cons _ o os, ReporterUnit.panics_append, fst_visit]
      · rw [if_neg hk, if_neg hk, if_neg hk]
    have hcons : failures kind (o :: os) (r :: rs) =
        (if ReporterUnit.kind r = kind then
          ReporterUnit.panics (inbox kind (o :: os)) r else 0) + failures kind (o :: os) rs :=
      rfl
    have hrest : failures kind os (sweep (visit o) (r :: rs)).1 =
        (if ReporterUnit.kind (visit o r).1 = kind then
          ReporterUnit.panics (inbox kind os) (visit o r).1 else 0) +
            failures kind os (sweep (visit o) rs).1 :=
      rfl
    rw [hcons, hhead, ih, hrest, sweep, tally_append]
    omega

theorem tally_failures_take (kind : String) (os : List Offer) (f : Fanout (Watched ρ)) :
    tally (.reportFailures kind) (f.take os).2 = failures kind os f.reporters := by
  induction os generalizing f with
  | nil => exact (failures_nil kind f.reporters).symm
  | cons o os ih =>
    simp only [take, publish_eq, tally_append, ih, tally_counted, failures_cons]
    simp

end Fanout

namespace LiveModule

variable {μ ρ : Type} [ModuleUnit μ] [ReporterUnit ρ]

theorem told_transform (i : Nat) (e : QueryEvent) (l : LiveModule (Hushed μ)) (f : Fanout ρ) :
    told (l.transform e f).2.2 = told (f.take (l.eventOffers i e)).2 := by
  have hsignals : (ModuleUnit.transform e l.unit).1.signals = [] := rfl
  unfold transform eventOffers
  simp only [hsignals, List.nil_append]
  split
  · rfl
  · rw [publishAll_eq i]
    exact congrArg (fun name => told (f.take (List.map (fun m => ⟨i, name, l.routes, m⟩) _)).2)
      (l.name_afterEvent e)

theorem perform_emits (i : Nat) (name : String) (routes : Option (List String)) (acts : List Act)
    (f : Fanout ρ) :
    perform name routes (acts.filter Act.emits) f =
      f.take ((emitted acts).map fun m => ⟨i, name, routes, m⟩) := by
  induction acts generalizing f with
  | nil => rfl
  | cons a acts ih =>
    cases a with
    | signal s => exact ih f
    | emit m =>
      have hcons : (Act.emit m :: acts).filter Act.emits = .emit m :: acts.filter Act.emits := rfl
      have hemitted : emitted (Act.emit m :: acts) = m :: emitted acts := rfl
      simp only [hcons, hemitted, perform, ih, List.map_cons, Fanout.take]

theorem told_tick (i now : Nat) (l : LiveModule (Hushed μ)) (f : Fanout ρ) :
    told (l.tick now f).2.2 = told (f.take (l.tickOffers i now)).2 := by
  have hacts : (ModuleUnit.tick now l.unit).acts =
      (ModuleUnit.tick now l.unit.unit).acts.filter Act.emits := rfl
  simp only [tick, run, hacts, perform_emits i, tickOffers, emitted_filter, told_append]
  split
  · exact List.append_nil _
  · exact List.append_nil _

theorem told_each_transform (e : QueryEvent) (i : Nat) (ls : List (LiveModule (Hushed μ)))
    (f : Fanout ρ) :
    told (each (transform e) ls f).2.2 = told (f.take (eventOffersFrom e i ls)).2 := by
  induction ls generalizing i f with
  | nil => rfl
  | cons l ls ih =>
    obtain ⟨-, hreporters⟩ := l.fst_transform i e f
    simp only [each, eventOffersFrom, Fanout.snd_take_append, told_append, ← hreporters,
      l.told_transform i e f, ih (i + 1)]

end LiveModule

namespace Dispatcher

variable {μ ρ : Type} [ModuleUnit μ] [ReporterUnit ρ]

theorem told_attend (o : Occasion) (d : Dispatcher (Hushed μ) ρ) :
    told (d.attend o).2 = told (d.live.reporters.take (o.offers d.live.modules)).2 := by
  cases o with
  | event e => exact LiveModule.told_each_transform e 0 d.live.modules d.live.reporters
  | tick i now =>
    simp only [attend, Pipeline.tickAt, Occasion.offers]
    cases d.live.modules[i]? with
    | none => rfl
    | some l => exact l.told_tick i now d.live.reporters

theorem told_attendAll (os : List Occasion) (d : Dispatcher (Hushed μ) ρ) :
    told (d.attendAll os).2 = told (d.live.reporters.take (story os d.live.modules)).2 := by
  induction os generalizing d with
  | nil => rfl
  | cons o os ih =>
    obtain ⟨hmodules, hreporters⟩ := d.live_attend o
    simp only [attendAll, story, Fanout.snd_take_append, told_append, ih, told_attend, hmodules,
      hreporters]

end Dispatcher

end QueryWatch
