import QueryWatch.Proofs.Delivery.Calls
import QueryWatch.Proofs.Generations.Steps

namespace QueryWatch.Dispatcher

/-- One call and all that it has to do with, what is only remembered apart. -/
structure Solo (μ ρ : Type) where
  dispatcher : Dispatcher μ ρ
  past : List (Pipeline μ ρ)
  lock : Option Nat
  shown : List Signal
  request : Request
  stage : Stage μ ρ := .begun
  performance : Option Performance := none
  visit : Option Visit := none

structure Memory where
  history : List Happening
  visits : List Visit
  aims : List Source
  made : List Chore

namespace Solo

open Shared (run)

variable {μ ρ : Type} [ModuleUnit μ] [ReporterUnit ρ]

def call (m : Memory) (a : Solo μ ρ) : Call μ ρ where
  request := a.request
  stage := a.stage
  performance := a.performance
  visit := a.visit.map fun v => { v with made := m.made }
  visits := m.visits
  aims := m.aims

def state (others : List (Call μ ρ)) (m : Memory) (a : Solo μ ρ) : Shared μ ρ where
  dispatcher := a.dispatcher
  past := a.past
  lock := a.lock
  calls := others ++ [a.call m]
  history := m.history
  shown := a.shown

/-- The call gets from one state to another by itself. -/
def Leads (others : List (Call μ ρ)) (a b : Solo μ ρ) : Prop :=
  ∀ m, ∃ n m', run (.replicate n (.call others.length)) (a.state others m) = b.state others m'

variable {others : List (Call μ ρ)} {a b c : Solo μ ρ}

theorem Leads.refl (a : Solo μ ρ) : Leads others a a :=
  fun m => ⟨0, m, rfl⟩

theorem Leads.trans (h : Leads others a b) (h' : Leads others b c) : Leads others a c := by
  intro m
  obtain ⟨n, m₁, hrun⟩ := h m
  obtain ⟨n', m₂, hrun'⟩ := h' m₁
  refine ⟨n + n', m₂, ?_⟩
  rw [← List.replicate_append_replicate, run, Schedule.run_append]
  change run _ (run _ _) = _
  rw [hrun, hrun']

theorem Leads.step
    (h : ∀ m, ∃ m', (a.state others m).advance others.length = b.state others m') :
    Leads others a b := by
  intro m
  obtain ⟨m', hstep⟩ := h m
  exact ⟨1, m', hstep⟩

def reporting (t : Fanout ρ × List Signal) (a : Solo μ ρ) : Solo μ ρ :=
  { a with
    dispatcher := { a.dispatcher with live := { a.dispatcher.live with reporters := t.1 } }
    shown := a.shown ++ t.2 }

def setModules (ls : List (LiveModule μ)) (a : Solo μ ρ) : Solo μ ρ :=
  { a with dispatcher := { a.dispatcher with live := { a.dispatcher.live with modules := ls } } }

def say (shown : List Signal) (a : Solo μ ρ) : Solo μ ρ :=
  { a with shown := a.shown ++ shown }

def visiting (v : Visit) (a : Solo μ ρ) : Solo μ ρ :=
  { a with visit := some v }

def performing (p : Performance) (a : Solo μ ρ) : Solo μ ρ :=
  { a with performance := some p }

section

omit [ModuleUnit μ] [ReporterUnit ρ]

variable (a : Solo μ ρ)

theorem reporting_reporting (t t' : Fanout ρ × List Signal) :
    (a.reporting t).reporting t' = a.reporting (t'.1, t.2 ++ t'.2) := by
  simp only [reporting, List.append_assoc]

theorem say_say (shown more : List Signal) : (a.say shown).say more = a.say (shown ++ more) := by
  simp only [say, List.append_assoc]

theorem reporting_say (t : Fanout ρ × List Signal) (shown : List Signal) :
    (a.reporting t).say shown = a.reporting (t.1, t.2 ++ shown) := by
  simp only [reporting, say, List.append_assoc]

theorem say_reporting (shown : List Signal) (t : Fanout ρ × List Signal) :
    (a.say shown).reporting t = a.reporting (t.1, shown ++ t.2) := by
  simp only [reporting, say, List.append_assoc]

theorem visiting_reporting (v : Visit) (t : Fanout ρ × List Signal) :
    (a.reporting t).visiting v = (a.visiting v).reporting t :=
  rfl

theorem setModules_reporting (ls : List (LiveModule μ)) (t : Fanout ρ × List Signal) :
    (a.reporting t).setModules ls = (a.setModules ls).reporting t :=
  rfl

theorem visiting_say (v : Visit) (shown : List Signal) :
    (a.say shown).visiting v = (a.visiting v).say shown :=
  rfl

theorem reporting_self : a.reporting (a.dispatcher.live.reporters, []) = a := by
  simp only [reporting, List.append_nil]

end

theorem leads_count (v : Visit) (name : String) (rest : List Chore) (a : Solo μ ρ) :
    Leads others (a.visiting { v with pending := .count name :: rest })
      ((a.visiting { v with pending := rest }).say [.counted (.measurements name)]) := by
  apply Leads.step
  intro mem
  refine ⟨{ mem with made := mem.made ++ [.count name] }, ?_⟩
  simp [Shared.advance, state, call, visiting, say, Shared.serve, Shared.count, Shared.put,
    Shared.say]

theorem leads_deliver (v : Visit) (m : Measurement) (rest : List Chore) (done : List ρ) (r : ρ)
    (rs : List ρ) {a : Solo μ ρ} (hg : v.generation = a.past.length) :
    Leads others
      ((a.visiting { v with pending := .deliver done.length m :: rest }).reporting
        (⟨done ++ r :: rs⟩, []))
      ((a.visiting { v with pending := rest }).reporting
        (⟨done ++ (Fanout.deliver m r).1 :: rs⟩, (Fanout.deliver m r).2)) := by
  apply Leads.step
  intro mem
  refine ⟨{ mem with
    made := mem.made ++ [.deliver done.length m]
    history := mem.history ++ [.delivered others.length v.generation done.length m] }, ?_⟩
  simp [Shared.advance, state, call, visiting, reporting, Shared.serve, Shared.deliver,
    Shared.reportAt, Shared.generations, Shared.update, Shared.liveNumber, Shared.put, Shared.say,
    Shared.record, hg]

theorem leads_release {v : Visit} {a : Solo μ ρ} (hg : v.generation = a.past.length)
    (hp : v.pending = []) (hv : a.visit = none) (hh : v.Heard a.dispatcher.live.shape) :
    Leads others (a.visiting v) a := by
  apply Leads.step
  intro mem
  refine ⟨{ mem with visits := mem.visits ++ [{ v with made := mem.made }] }, ?_⟩
  cases hs : v.source with
  | event e =>
    rw [Visit.Heard, hs] at hh
    have hlast : a.dispatcher.live.modules[v.answers.length]? = none := by
      simpa [Pipeline.shape] using hh
    simp [Shared.advance, state, call, visiting, Shared.serve, Shared.release, Shared.generations,
      Shared.put, hg, hp, hs, hv, hlast]
  | emission name routes m =>
    simp [Shared.advance, state, call, visiting, Shared.serve, Shared.release, Shared.generations,
      Shared.put, hg, hp, hs, hv]

def answer (e : QueryEvent) (l : LiveModule μ) : List Measurement :=
  if (ModuleUnit.transform e l.unit).1.panicked then [] else (ModuleUnit.transform e l.unit).2

def told (e : QueryEvent) (l : LiveModule μ) : List Signal :=
  (ModuleUnit.transform e l.unit).1.signals ++
    if (ModuleUnit.transform e l.unit).1.panicked then [.notice (.transformPanicked l.name)] else []

theorem leads_ask {v : Visit} {e : QueryEvent} {a : Solo μ ρ} (done : List (LiveModule μ))
    (l : LiveModule μ) (ls : List (LiveModule μ)) (hg : v.generation = a.past.length)
    (hs : v.source = .event e) (ha : v.answers.length = done.length) :
    Leads others ((a.visiting { v with pending := [] }).setModules (done ++ l :: ls))
      (((a.visiting { v with
          answers := v.answers ++ [answer e l]
          pending := choresOf a.dispatcher.live.reporters.kinds done.length (l.name, l.routes)
            (answer e l) }).setModules (done ++ l.afterEvent e :: ls)).say (told e l)) := by
  apply Leads.step
  intro mem
  refine ⟨mem, ?_⟩
  simp [Shared.advance, state, call, visiting, setModules, say, Shared.serve, Shared.ask,
    Shared.generations, Shared.update, Shared.liveNumber, Shared.put, Shared.say, hg, hs, ha,
    answer, told, LiveModule.afterEvent]

theorem leads_signal (p : Performance) (x : Signal) (acts : List Act) {a : Solo μ ρ}
    (hv : a.visit = none) :
    Leads others (a.performing { p with acts := .signal x :: acts })
      ((a.performing { p with acts }).say [x]) := by
  apply Leads.step
  intro mem
  refine ⟨mem, ?_⟩
  simp [Shared.advance, state, call, performing, say, Shared.perform, Shared.put, Shared.say, hv]

theorem leads_emit (p : Performance) (m : Measurement) (acts : List Act) {a : Solo μ ρ}
    (hv : a.visit = none) :
    Leads others (a.performing { p with acts := .emit m :: acts })
      ((a.performing { p with acts }).visiting
        (.fresh a.past.length a.dispatcher.live.shape (.emission p.name p.routes m))) := by
  apply Leads.step
  intro mem
  refine ⟨{ mem with made := [] }, ?_⟩
  simp [Shared.advance, state, call, performing, visiting, Shared.perform, Shared.hold, Shared.put,
    Shared.liveNumber, Visit.fresh, hv]

theorem leads_last (p : Performance) {a : Solo μ ρ} (hv : a.visit = none)
    (hp : a.performance = none) :
    Leads others (a.performing { p with acts := [] }) (a.say p.last) := by
  apply Leads.step
  intro mem
  refine ⟨mem, ?_⟩
  simp [Shared.advance, state, call, performing, say, Shared.perform, Shared.put, Shared.say, hv, hp]

theorem leads_sweep (o : Offer) (v : Visit) (rest : List Chore) (done rs : List ρ) {a : Solo μ ρ}
    (hg : v.generation = a.past.length) :
    Leads others
      ((a.visiting { v with pending :=
          ((o.callsFrom done.length (rs.map ReporterUnit.kind)).map fun c => .deliver c.1 c.2) ++
            rest }).reporting (⟨done ++ rs⟩, []))
      ((a.visiting { v with pending := rest }).reporting
        (⟨done ++ (Fanout.sweep (Fanout.visit o) rs).1⟩,
          (Fanout.sweep (Fanout.visit o) rs).2)) := by
  induction rs generalizing done a with
  | nil => exact .refl _
  | cons r rs ih =>
    have hplace : (done ++ [(Fanout.visit o r).1]).length = done.length + 1 :=
      List.length_append
    have hrest := ih (done ++ [(Fanout.visit o r).1]) (a := a.say (Fanout.visit o r).2) hg
    rw [hplace, List.append_assoc, List.append_assoc, List.singleton_append,
      List.singleton_append] at hrest
    simp only [visiting_say, say_reporting, List.append_nil] at hrest
    rw [Fanout.sweep, List.map_cons, Offer.callsFrom]
    refine Leads.trans ?_ hrest
    by_cases hadmits : o.admits (ReporterUnit.kind r) = true
    · rw [if_pos hadmits, Fanout.visit, if_pos hadmits]
      exact leads_deliver v o.measurement _ done r rs hg
    · rw [if_neg hadmits, Fanout.visit, if_neg hadmits]
      exact .refl _

theorem leads_publish (o : Offer) (v : Visit) (rest : List Chore) {a : Solo μ ρ}
    (hg : v.generation = a.past.length) :
    Leads others
      (a.visiting { v with pending := o.chores a.dispatcher.live.reporters.kinds ++ rest })
      ((a.visiting { v with pending := rest }).reporting
        (LiveModule.publish o.name o.routes o.measurement a.dispatcher.live.reporters)) := by
  have hsweep : Leads others _ _ := leads_sweep o v rest [] a.dispatcher.live.reporters.reporters
    (a := a.say [.counted (.measurements o.name)]) hg
  simp only [visiting_say, say_reporting, List.append_nil] at hsweep
  exact (leads_count v o.name _ a).trans hsweep

theorem kinds_publish (name : String) (routes : Option (List String)) (m : Measurement)
    (f : Fanout ρ) : (LiveModule.publish name routes m f).1.kinds = f.kinds :=
  Fanout.kinds_sweep ⟨0, name, routes, m⟩ f.reporters

theorem leads_publishAll (i : Nat) (name : String) (routes : Option (List String))
    (ms : List Measurement) (v : Visit) {a : Solo μ ρ} (hg : v.generation = a.past.length) :
    Leads others
      (a.visiting { v with
        pending := choresOf a.dispatcher.live.reporters.kinds i (name, routes) ms })
      ((a.visiting { v with pending := [] }).reporting
        (LiveModule.publishAll name routes ms a.dispatcher.live.reporters)) := by
  induction ms generalizing a with
  | nil =>
    have hself := (a.visiting { v with pending := [] }).reporting_self
    rw [LiveModule.publishAll]
    exact (congrArg (Leads others _) hself).mpr (.refl _)
  | cons m ms ih =>
    let published := LiveModule.publish name routes m a.dispatcher.live.reporters
    have hfirst : Leads others _ _ := leads_publish ⟨i, name, routes, m⟩ v
      (choresOf a.dispatcher.live.reporters.kinds i (name, routes) ms) hg
    have hrest := ih (a := a.reporting published) hg
    have hkinds : published.1.kinds = a.dispatcher.live.reporters.kinds :=
      kinds_publish name routes m a.dispatcher.live.reporters
    simp only [visiting_reporting, reporting_reporting] at hrest
    change Leads others ((a.visiting { v with
      pending := choresOf published.1.kinds i (name, routes) ms }).reporting published) _ at hrest
    rw [hkinds] at hrest
    exact hfirst.trans hrest

theorem leads_emission (name : String) (routes : Option (List String)) (m : Measurement)
    {a : Solo μ ρ} (hv : a.visit = none) :
    Leads others
      (a.visiting (.fresh a.past.length a.dispatcher.live.shape (.emission name routes m)))
      (a.reporting (LiveModule.publish name routes m a.dispatcher.live.reporters)) := by
  let v : Visit := { generation := a.past.length, source := .emission name routes m }
  have hpublish : Leads others _ _ := leads_publishAll 0 name routes [m] v (a := a) rfl
  have hone : LiveModule.publishAll name routes [m] a.dispatcher.live.reporters =
      LiveModule.publish name routes m a.dispatcher.live.reporters :=
    Prod.ext rfl (List.append_nil _)
  rw [hone] at hpublish
  refine hpublish.trans ?_
  exact leads_release (v := { v with pending := [] }) (a := a.reporting _) rfl rfl hv trivial

theorem leads_perform (name : String) (routes : Option (List String)) (acts : List Act)
    (last : List Signal) {a : Solo μ ρ} (hv : a.visit = none) (hp : a.performance = none) :
    Leads others (a.performing ⟨name, routes, acts, last⟩)
      ((a.reporting (LiveModule.perform name routes acts a.dispatcher.live.reporters)).say
        last) := by
  induction acts generalizing a with
  | nil =>
    rw [LiveModule.perform, reporting_self]
    exact leads_last ⟨name, routes, [], last⟩ hv hp
  | cons act acts ih =>
    cases act with
    | signal x =>
      have hrest := ih (a := a.say [x]) hv hp
      rw [say_reporting] at hrest
      exact (leads_signal ⟨name, routes, acts, last⟩ x acts hv).trans hrest
    | emit m =>
      let published := LiveModule.publish name routes m a.dispatcher.live.reporters
      have hemit : Leads others _ _ := leads_emit ⟨name, routes, acts, last⟩ m acts hv
      have hemission : Leads others _ _ := leads_emission name routes m
        (a := a.performing ⟨name, routes, acts, last⟩) hv
      have hrest := ih (a := a.reporting published) hv hp
      rw [reporting_reporting] at hrest
      exact (hemit.trans hemission).trans hrest

omit [ModuleUnit μ] in
theorem transform_eq [ModuleUnit μ] (e : QueryEvent) (l : LiveModule μ) (f : Fanout ρ) :
    l.transform e f =
      (l.afterEvent e, (LiveModule.publishAll l.name l.routes (answer e l) f).1,
        told e l ++ (LiveModule.publishAll l.name l.routes (answer e l) f).2) := by
  have hname : LiveModule.name { l with unit := (ModuleUnit.transform e l.unit).1.unit } = l.name :=
    l.name_afterEvent e
  cases hp : (ModuleUnit.transform e l.unit).1.panicked with
  | true => simp [LiveModule.transform, answer, told, hp, hname, LiveModule.publishAll, LiveModule.afterEvent]
  | false => simp [LiveModule.transform, answer, told, hp, hname, LiveModule.afterEvent]

theorem leads_transform {v : Visit} {e : QueryEvent} (done ls : List (LiveModule μ))
    {a : Solo μ ρ} (hg : v.generation = a.past.length) (hs : v.source = .event e)
    (ha : v.answers.length = done.length) :
    ∃ answers, answers.length = done.length + ls.length ∧
      Leads others ((a.visiting { v with pending := [] }).setModules (done ++ ls))
        (((a.visiting { v with pending := [], answers }).setModules
          (done ++ (LiveModule.each (LiveModule.transform e) ls
            a.dispatcher.live.reporters).1)).reporting
              (LiveModule.each (LiveModule.transform e) ls a.dispatcher.live.reporters).2) := by
  induction ls generalizing done v a with
  | nil =>
    have hself := ((a.visiting { v with pending := [] }).setModules (done ++ [])).reporting_self
    exact ⟨v.answers, ha, (congrArg (Leads others _) hself).mpr (.refl _)⟩
  | cons l ls ih =>
    let published := LiveModule.publishAll l.name l.routes (answer e l) a.dispatcher.live.reporters
    let v₁ : Visit := { v with answers := v.answers ++ [answer e l] }
    let a₁ : Solo μ ρ := (a.setModules (done ++ l.afterEvent e :: ls)).say (told e l)
    have hask : Leads others _ _ := leads_ask done l ls hg hs ha
    have hpublish : Leads others _ _ := leads_publishAll done.length l.name l.routes (answer e l) v₁
      (a := a₁) hg
    simp only [a₁, visiting_say, say_reporting] at hpublish
    have hlen : v₁.answers.length = (done ++ [l.afterEvent e]).length := by
      simp only [v₁, List.length_append, List.length_singleton, ha]
    obtain ⟨answers, hanswers, hrest⟩ := ih (done ++ [l.afterEvent e]) (v := v₁)
      (a := a.reporting (published.1, told e l ++ published.2)) hg hs hlen
    rw [List.append_assoc, List.append_assoc, List.singleton_append, List.singleton_append] at hrest
    simp only [visiting_reporting, setModules_reporting, reporting_reporting] at hrest
    refine ⟨answers, ?_, ?_⟩
    · rw [hanswers, List.length_append, List.length_singleton, List.length_cons]
      omega
    · rw [LiveModule.each, transform_eq]
      exact (hask.trans hpublish).trans hrest

theorem leads_begin_report {e : QueryEvent} {a : Solo μ ρ} (hr : a.request = .report e)
    (hs : a.stage = .begun) (hp : a.performance = none) (hv : a.visit = none) :
    Leads others a ({ a with stage := .ended }.visiting
      (.fresh a.past.length a.dispatcher.live.shape (.event e))) := by
  apply Leads.step
  intro mem
  refine ⟨{ mem with made := [] }, ?_⟩
  simp [Shared.advance, state, call, visiting, Shared.goOn, Shared.begin, Shared.hold, Shared.put,
    Shared.liveNumber, Visit.fresh, hr, hs, hp, hv]

end Solo

end QueryWatch.Dispatcher
