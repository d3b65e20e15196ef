import QueryWatch.Proofs.Delivery.Story

namespace QueryWatch

namespace LiveModule

variable {μ ρ : Type} [ModuleUnit μ] [ReporterUnit ρ]

theorem publishAll_eq (i : Nat) (name : String) (routes : Option (List String))
    (ms : List Measurement) (f : Fanout ρ) :
    publishAll name routes ms f = f.take (ms.map fun m => ⟨i, name, routes, m⟩) := by
  induction ms generalizing f with
  | nil => rfl
  | cons m ms ih => simp only [publishAll, ih, List.map_cons, Fanout.take]

theorem fst_perform (i : Nat) (name : String) (routes : Option (List String)) (acts : List Act)
    (f : Fanout ρ) :
    (perform name routes acts f).1 =
      (f.take ((emitted acts).map fun m => ⟨i, name, routes, m⟩)).1 := by
  induction acts generalizing f with
  | nil => rfl
  | cons a acts ih =>
    cases a with
    | signal s => exact ih f
    | emit m => exact ih _

theorem fst_transform (i : Nat) (e : QueryEvent) (l : LiveModule μ) (f : Fanout ρ) :
    (l.transform e f).1 = l.afterEvent e ∧
      (l.transform e f).2.1 = (f.take (l.eventOffers i e)).1 := by
  unfold transform eventOffers
  simp only
  split
  · exact ⟨rfl, rfl⟩
  · refine ⟨rfl, ?_⟩
    rw [publishAll_eq i]
    exact congrArg (fun name => (f.take (List.map (fun m => ⟨i, name, l.routes, m⟩) _)).1)
      (l.name_afterEvent e)

theorem fst_tick (i now : Nat) (l : LiveModule μ) (f : Fanout ρ) :
    (l.tick now f).1 = l.afterTick now ∧ (l.tick now f).2.1 = (f.take (l.tickOffers i now)).1 :=
  ⟨rfl, fst_perform i l.name l.routes _ f⟩

theorem fst_each_transform (e : QueryEvent) (i : Nat) (ls : List (LiveModule μ)) (f : Fanout ρ) :
    (each (transform e) ls f).1 = ls.map (·.afterEvent e) ∧
      (each (transform e) ls f).2.1 = (f.take (eventOffersFrom e i ls)).1 := by
  induction ls generalizing i f with
  | nil => exact ⟨rfl, rfl⟩
  | cons l ls ih =>
    obtain ⟨hunit, hreporters⟩ := l.fst_transform i e f
    obtain ⟨hunits, hrest⟩ := ih (i + 1) (l.transform e f).2.1
    refine ⟨?_, ?_⟩
    · simp only [each, List.map_cons, hunit, hunits]
    · simp only [each, eventOffersFrom, Fanout.fst_take_append, ← hreporters, hrest]

end LiveModule

namespace Pipeline

variable {μ ρ : Type} [ModuleUnit μ] [ReporterUnit ρ]

def tickAt (i now : Nat) (p : Pipeline μ ρ) : Pipeline μ ρ × List Signal :=
  match p.modules[i]? with
  | some l =>
    let (l, reporters, shown) := l.tick now p.reporters
    ({ p with modules := p.modules.set i l, reporters }, shown)
  | none => (p, [])

end Pipeline

namespace Dispatcher

variable {μ ρ : Type} [ModuleUnit μ] [ReporterUnit ρ]

def attend : Occasion → Dispatcher μ ρ → Dispatcher μ ρ × List Signal
  | .event e, d => d.report e
  | .tick i now, d =>
    let (live, shown) := d.live.tickAt i now
    ({ d with live }, shown)

def attendAll : List Occasion → Dispatcher μ ρ → Dispatcher μ ρ × List Signal
  | [], d => (d, [])
  | o :: os, d =>
    let (d, shown) := d.attend o
    let (d, more) := attendAll os d
    (d, shown ++ more)

theorem tickFirst_eq (now due : Nat) (ls : List (LiveModule μ)) (f : Fanout ρ) :
    ∃ i : Nat, tickNext?.tickFirst now due ls f =
      match ls[i]? with
      | some l => (ls.set i (l.tick now f).1, (l.tick now f).2.1, (l.tick now f).2.2)
      | none => (ls, f, []) := by
  induction ls with
  | nil => exact ⟨0, rfl⟩
  | cons l ls ih =>
    by_cases hdue : ModuleUnit.due? l.unit = some due
    · refine ⟨0, ?_⟩
      simp only [tickNext?.tickFirst, if_pos hdue]
      rfl
    · obtain ⟨i, hi⟩ := ih
      refine ⟨i + 1, ?_⟩
      simp only [tickNext?.tickFirst, if_neg hdue, hi, List.getElem?_cons_succ]
      cases ls[i]? <;> rfl

/-- The timer that is due first ticks in its place. -/
theorem tickNext?_eq {limit : Nat} {d d' : Dispatcher μ ρ} {shown : List Signal}
    (h : d.tickNext? limit = some (d', shown)) :
    ∃ i now, { d with now }.attend (.tick i now) = (d', shown) := by
  unfold tickNext? at h
  split at h
  · cases h
  · next due hdue =>
    split at h
    · cases h
    · obtain ⟨i, hi⟩ := tickFirst_eq (max d.now due) due d.live.modules d.live.reporters
      refine ⟨i, max d.now due, ?_⟩
      simp only [hi, Option.some.injEq] at h
      rw [← h]
      simp only [attend, Pipeline.tickAt]
      cases d.live.modules[i]? <;> rfl

theorem live_attend (o : Occasion) (d : Dispatcher μ ρ) :
    (d.attend o).1.live.modules = o.after d.live.modules ∧
      (d.attend o).1.live.reporters = (d.live.reporters.take (o.offers d.live.modules)).1 := by
  cases o with
  | event e => exact LiveModule.fst_each_transform e 0 d.live.modules d.live.reporters
  | tick i now =>
    simp only [attend, Pipeline.tickAt, Occasion.after, Occasion.offers]
    cases hl : d.live.modules[i]? with
    | none => exact ⟨rfl, rfl⟩
    | some l =>
      obtain ⟨hunit, hreporters⟩ := l.fst_tick i now d.live.reporters
      refine ⟨?_, hreporters⟩
      simp only [hunit]

theorem live_attendAll (os : List Occasion) (d : Dispatcher μ ρ) :
    (d.attendAll os).1.live.modules = os.foldl (fun ls o => o.after ls) d.live.modules ∧
      (d.attendAll os).1.live.reporters =
        (d.live.reporters.take (story os d.live.modules)).1 := by
  induction os generalizing d with
  | nil => exact ⟨rfl, rfl⟩
  | cons o os ih =>
    obtain ⟨hmodules, hreporters⟩ := d.live_attend o
    obtain ⟨hrest, hmore⟩ := ih (d.attend o).1
    refine ⟨?_, ?_⟩
    · simp only [attendAll, List.foldl_cons, hrest, hmodules]
    · simp only [attendAll, story, Fanout.fst_take_append, hmore, hmodules, hreporters]

end Dispatcher

end QueryWatch
