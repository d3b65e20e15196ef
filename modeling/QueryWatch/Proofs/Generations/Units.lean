import QueryWatch.Proofs.Generations.Solo

namespace QueryWatch.Dispatcher.Solo

variable {μ ρ : Type} [ModuleUnit μ] [ReporterUnit ρ] {others : List (Call μ ρ)} {a : Solo μ ρ}

def reaching (stage : Stage μ ρ) (a : Solo μ ρ) : Solo μ ρ :=
  { a with stage }

omit [ModuleUnit μ] [ReporterUnit ρ] in
theorem reaching_reporting (stage : Stage μ ρ) (t : Fanout ρ × List Signal) :
    (a.reporting t).reaching stage = (a.reaching stage).reporting t :=
  rfl

omit [ModuleUnit μ] [ReporterUnit ρ] in
theorem reaching_say (stage : Stage μ ρ) (shown : List Signal) :
    (a.say shown).reaching stage = (a.reaching stage).say shown :=
  rfl

structure Idle (a : Solo μ ρ) : Prop where
  performance : a.performance = none
  visit : a.visit = none

theorem leads_start (old : Nat) (left : List Nat) (done : List (LiveModule μ)) (l : LiveModule μ)
    (ls : List (LiveModule μ)) (h : a.Idle) :
    Leads others ((a.reaching (.starting a.past.length old (done.length :: left))).setModules
        (done ++ l :: ls))
      (((a.reaching (.starting a.past.length old left)).setModules
        (done ++ (l.start a.dispatcher.now a.dispatcher.live.reporters).1 :: ls)).reporting
          (l.start a.dispatcher.now a.dispatcher.live.reporters).2) := by
  let t := ModuleUnit.start a.dispatcher.now l.unit
  let p := Performance.of l t fun name => [.notice (.startPanicked name)]
  let a₁ : Solo μ ρ := (a.reaching (.starting a.past.length old left)).setModules
    (done ++ { l with unit := t.unit } :: ls)
  have hcall : Leads others
      ((a.reaching (.starting a.past.length old (done.length :: left))).setModules (done ++ l :: ls))
      (a₁.performing p) := by
    apply Leads.step
    intro mem
    refine ⟨{ mem with aims := mem.aims ++ p.sources }, ?_⟩
    simp [Shared.advance, state, call, reaching, setModules, performing, Shared.goOn,
      Shared.startModule, Shared.callModule, Shared.generations, Shared.update, Shared.liveNumber,
      Shared.put, h.performance, h.visit, a₁, p, t]
  have hperform : Leads others _ _ := leads_perform l.name l.routes t.acts p.last (a := a₁)
    h.visit h.performance
  rw [reporting_say] at hperform
  exact hcall.trans hperform

theorem leads_starts (old : Nat) (done ls : List (LiveModule μ)) (h : a.Idle) :
    Leads others
      ((a.reaching (.starting a.past.length old (.range' done.length ls.length))).setModules
        (done ++ ls))
      (((a.reaching (.starting a.past.length old [])).setModules
        (done ++ (LiveModule.each (LiveModule.start a.dispatcher.now) ls
          a.dispatcher.live.reporters).1)).reporting
            (LiveModule.each (LiveModule.start a.dispatcher.now) ls
              a.dispatcher.live.reporters).2) := by
  induction ls generalizing done a with
  | nil =>
    let b : Solo μ ρ := (a.reaching (.starting a.past.length old [])).setModules (done ++ [])
    have hself : b.reporting (a.dispatcher.live.reporters, []) = b := b.reporting_self
    exact (congrArg (Leads others _) hself).mpr (.refl _)
  | cons l ls ih =>
    let started := l.start a.dispatcher.now a.dispatcher.live.reporters
    have hfirst : Leads others _ _ :=
      leads_start old (.range' (done.length + 1) ls.length) done l ls h
    have hlen : (done ++ [started.1]).length = done.length + 1 := List.length_append
    have hrest := ih (done ++ [started.1]) (a := a.reporting started.2) ⟨h.performance, h.visit⟩
    rw [hlen, List.append_assoc, List.append_assoc, List.singleton_append, List.singleton_append]
      at hrest
    simp only [reaching_reporting, setModules_reporting, reporting_reporting] at hrest
    exact hfirst.trans hrest

theorem leads_tick {i : Nat} {l : LiveModule μ} (h : a.Idle)
    (hr : a.request = .tick a.past.length i) (hl : a.dispatcher.live.modules[i]? = some l) :
    Leads others (a.reaching .begun)
      (((a.reaching .ended).setModules (a.dispatcher.live.modules.set i
        (l.tick a.dispatcher.now a.dispatcher.live.reporters).1)).reporting
          (l.tick a.dispatcher.now a.dispatcher.live.reporters).2) := by
  let t := ModuleUnit.tick a.dispatcher.now l.unit
  let p := Performance.of l t fun name => [.notice (.tickPanicked name)]
  let a₁ : Solo μ ρ := (a.reaching .ended).setModules
    (a.dispatcher.live.modules.set i { l with unit := t.unit })
  have hcall : Leads others (a.reaching .begun) (a₁.performing p) := by
    apply Leads.step
    intro mem
    refine ⟨{ mem with aims := mem.aims ++ p.sources }, ?_⟩
    simp [Shared.advance, state, call, reaching, setModules, performing, Shared.goOn,
      Shared.begin, Shared.tickModule, Shared.callModule, Shared.generations, Shared.update,
      Shared.liveNumber, Shared.put, h.performance, h.visit, hr, hl, a₁, p, t]
  have hperform : Leads others _ _ := leads_perform l.name l.routes t.acts p.last (a := a₁)
    h.visit h.performance
  rw [reporting_say] at hperform
  exact hcall.trans hperform

def retiring (earlier : List (Pipeline μ ρ)) (p : Pipeline μ ρ) (a : Solo μ ρ) : Solo μ ρ :=
  { a with past := earlier ++ [p] }

omit [ModuleUnit μ] [ReporterUnit ρ] in
theorem retiring_say (earlier : List (Pipeline μ ρ)) (p : Pipeline μ ρ) (shown : List Signal) :
    (a.say shown).retiring earlier p = (a.retiring earlier p).say shown :=
  rfl

omit [ModuleUnit μ] [ReporterUnit ρ] in
theorem retiring_reporting (earlier : List (Pipeline μ ρ)) (p : Pipeline μ ρ)
    (t : Fanout ρ × List Signal) :
    (a.reporting t).retiring earlier p = (a.retiring earlier p).reporting t :=
  rfl

theorem leads_stop (earlier : List (Pipeline μ ρ)) (p : Pipeline μ ρ) (left : List Part)
    (done : List (LiveModule μ)) (l : LiveModule μ) (ls : List (LiveModule μ)) (h : a.Idle) :
    Leads others
      ((a.reaching (.stopping earlier.length (.module done.length :: left))).retiring earlier
        { p with modules := done ++ l :: ls })
      (((a.reaching (.stopping earlier.length left)).retiring earlier
        { p with modules := done ++ (l.stop a.dispatcher.live.reporters).1 :: ls }).reporting
          (l.stop a.dispatcher.live.reporters).2) := by
  let t := ModuleUnit.stop l.unit
  let q := Performance.of l t fun name => [.notice (.stopPanicked name)]
  let a₁ : Solo μ ρ := (a.reaching (.stopping earlier.length left)).retiring earlier
    { p with modules := done ++ { l with unit := t.unit } :: ls }
  have hcall : Leads others
      ((a.reaching (.stopping earlier.length (.module done.length :: left))).retiring earlier
        { p with modules := done ++ l :: ls }) (a₁.performing q) := by
    apply Leads.step
    intro mem
    refine ⟨{ mem with
      aims := mem.aims ++ q.sources
      history := mem.history ++ [.stopping earlier.length (.module done.length)] }, ?_⟩
    simp [Shared.advance, state, call, reaching, retiring, performing, Shared.goOn,
      Shared.stopPart, Shared.callModule, Shared.generations, Shared.update, Shared.liveNumber,
      Shared.put, Shared.record, h.performance, h.visit, a₁, q, t]
  have hperform : Leads others _ _ := leads_perform l.name l.routes t.acts q.last (a := a₁)
    h.visit h.performance
  rw [reporting_say] at hperform
  exact hcall.trans hperform

theorem leads_stops (earlier : List (Pipeline μ ρ)) (p : Pipeline μ ρ) (left : List Part)
    (done ls : List (LiveModule μ)) (h : a.Idle) :
    Leads others
      ((a.reaching (.stopping earlier.length
        ((List.range' done.length ls.length).map .module ++ left))).retiring earlier
          { p with modules := done ++ ls })
      (((a.reaching (.stopping earlier.length left)).retiring earlier
        { p with modules := done ++ (LiveModule.each LiveModule.stop ls
          a.dispatcher.live.reporters).1 }).reporting
            (LiveModule.each LiveModule.stop ls a.dispatcher.live.reporters).2) := by
  induction ls generalizing done a with
  | nil =>
    let b : Solo μ ρ := (a.reaching (.stopping earlier.length left)).retiring earlier
      { p with modules := done ++ [] }
    have hself : b.reporting (a.dispatcher.live.reporters, []) = b := b.reporting_self
    exact (congrArg (Leads others _) hself).mpr (.refl _)
  | cons l ls ih =>
    let stopped := l.stop a.dispatcher.live.reporters
    have hfirst : Leads others _ _ := leads_stop earlier p
      ((List.range' (done.length + 1) ls.length).map .module ++ left) done l ls h
    have hlen : (done ++ [stopped.1]).length = done.length + 1 := List.length_append
    have hrest := ih (done ++ [stopped.1]) (a := a.reporting stopped.2) ⟨h.performance, h.visit⟩
    rw [hlen, List.append_assoc, List.append_assoc, List.singleton_append, List.singleton_append]
      at hrest
    simp only [reaching_reporting, retiring_reporting, reporting_reporting] at hrest
    exact hfirst.trans hrest

theorem leads_stopOne (earlier : List (Pipeline μ ρ)) (p : Pipeline μ ρ) (left : List Part)
    (done : List ρ) (r : ρ) (rs : List ρ) (h : a.Idle) :
    Leads others
      ((a.reaching (.stopping earlier.length (.reporter done.length :: left))).retiring earlier
        { p with reporters := ⟨done ++ r :: rs⟩ })
      (((a.reaching (.stopping earlier.length left)).retiring earlier
        { p with reporters := ⟨done ++ (Fanout.stopOne r).1 :: rs⟩ }).say (Fanout.stopOne r).2) := by
  apply Leads.step
  intro mem
  refine ⟨{ mem with
    history := mem.history ++ [.stopping earlier.length (.reporter done.length)] }, ?_⟩
  simp [Shared.advance, state, call, reaching, retiring, say, Shared.goOn, Shared.stopPart,
    Shared.stopReporter, Shared.generations, Shared.update, Shared.liveNumber, Shared.put,
    Shared.record, Shared.say, h.performance, h.visit]

theorem leads_stopAll (earlier : List (Pipeline μ ρ)) (p : Pipeline μ ρ) (done rs : List ρ)
    (h : a.Idle) :
    Leads others
      ((a.reaching (.stopping earlier.length
        ((List.range' done.length rs.length).map .reporter))).retiring earlier
          { p with reporters := ⟨done ++ rs⟩ })
      (((a.reaching (.stopping earlier.length [])).retiring earlier
        { p with reporters := ⟨done ++ (Fanout.sweep Fanout.stopOne rs).1⟩ }).say
          (Fanout.sweep Fanout.stopOne rs).2) := by
  induction rs generalizing done a with
  | nil =>
    simp only [Fanout.sweep, say, List.append_nil]
    exact .refl _
  | cons r rs ih =>
    have hfirst : Leads others _ _ := leads_stopOne earlier p
      ((List.range' (done.length + 1) rs.length).map .reporter) done r rs h
    have hlen : (done ++ [(Fanout.stopOne r).1]).length = done.length + 1 := List.length_append
    have hrest := ih (done ++ [(Fanout.stopOne r).1]) (a := a.say (Fanout.stopOne r).2)
      ⟨h.performance, h.visit⟩
    rw [hlen, List.append_assoc, List.append_assoc, List.singleton_append, List.singleton_append]
      at hrest
    simp only [reaching_say, retiring_say, say_say] at hrest
    exact hfirst.trans hrest

/-- What is shown when a generation is stopped, and what its modules make of the live reporters. -/
def stopped (p : Pipeline μ ρ) (f : Fanout ρ) : Fanout ρ × List Signal :=
  ((LiveModule.each LiveModule.stop p.modules f).2.1,
    (LiveModule.each LiveModule.stop p.modules f).2.2 ++ p.reporters.stop.2)

omit [ModuleUnit μ] [ReporterUnit ρ] in
theorem isFree_state (hothers : ∀ c ∈ others, c.visit = none) (hv : a.visit = none) (g : Nat)
    (mem : Memory) : (a.state others mem).isFree g = true := by
  apply List.all_eq_true.2
  intro c hc
  rcases List.mem_append.1 hc with hc | hc
  · rw [hothers c hc]
    rfl
  · obtain rfl := List.mem_singleton.1 hc
    rw [call, hv]
    rfl

theorem leads_drain (earlier : List (Pipeline μ ρ)) (p : Pipeline μ ρ) (h : a.Idle)
    (hothers : ∀ c ∈ others, c.visit = none) :
    Leads others ((a.reaching (.draining earlier.length)).retiring earlier p)
      ((a.reaching (.stopping earlier.length p.shape.parts)).retiring earlier p) := by
  apply Leads.step
  intro mem
  refine ⟨{ mem with history := mem.history ++ [.retired earlier.length] }, ?_⟩
  have hfree := isFree_state (a := (a.reaching (.draining earlier.length)).retiring earlier p)
    hothers h.visit earlier.length mem
  simp only [state, call, reaching, retiring, h.performance, h.visit, Option.map_none] at hfree
  simp [Shared.advance, state, call, reaching, retiring, Shared.goOn, Shared.drain,
    Shared.generations, Shared.put, Shared.record, h.performance, h.visit, hfree]

/-- A generation that nobody holds is stopped, its modules first. -/
theorem leads_retire (earlier : List (Pipeline μ ρ)) (p : Pipeline μ ρ) (h : a.Idle)
    (hothers : ∀ c ∈ others, c.visit = none) :
    ∃ p', Leads others ((a.reaching (.draining earlier.length)).retiring earlier p)
      (((a.reaching (.stopping earlier.length [])).retiring earlier p').reporting
        (stopped p a.dispatcher.live.reporters)) := by
  let each := LiveModule.each LiveModule.stop p.modules a.dispatcher.live.reporters
  have hdrain := leads_drain earlier p h hothers
  have hparts : p.shape.parts = (List.range' 0 p.modules.length).map .module ++
      (List.range' 0 p.reporters.reporters.length).map .reporter := by
    simp [Shape.parts, Pipeline.shape, Fanout.kinds, List.range_eq_range']
  have hmodules : Leads others _ _ := leads_stops earlier p
    ((List.range' 0 p.reporters.reporters.length).map .reporter) [] p.modules h
  have hreporters : Leads others _ _ := leads_stopAll earlier { p with modules := each.1 } []
    p.reporters.reporters (a := a.reporting each.2) ⟨h.performance, h.visit⟩
  rw [hparts] at hdrain
  simp only [reaching_reporting, retiring_reporting, reporting_say] at hreporters
  exact ⟨_, (hdrain.trans hmodules).trans hreporters⟩

end QueryWatch.Dispatcher.Solo
