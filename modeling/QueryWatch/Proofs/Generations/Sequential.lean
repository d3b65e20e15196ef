import QueryWatch.Proofs.Delivery.Attending
import QueryWatch.Proofs.Generations.Units

namespace QueryWatch.Dispatcher.Solo

variable {μ ρ : Type} [ModuleUnit μ] [ReporterUnit ρ] {others : List (Call μ ρ)} {a : Solo μ ρ}

def locking (lock : Option Nat) (a : Solo μ ρ) : Solo μ ρ :=
  { a with lock }

def replacing (p : Pipeline μ ρ) (a : Solo μ ρ) : Solo μ ρ :=
  { a with past := a.past ++ [a.dispatcher.live], dispatcher := { a.dispatcher with live := p } }

omit [ModuleUnit μ] [ReporterUnit ρ] in
theorem reaching_stage {stage : Stage μ ρ} (h : a.stage = stage) : a.reaching stage = a := by
  rw [reaching, ← h]

theorem leads_goOn {stage : Stage μ ρ} {b : Solo μ ρ} (h : a.Idle)
    (hgo : ∀ mem, ((a.reaching stage).state others mem).goOn others.length
      ((a.reaching stage).call mem) = b.state others mem) :
    Leads others (a.reaching stage) b := by
  apply Leads.step
  intro mem
  refine ⟨mem, ?_⟩
  rw [← hgo mem]
  simp [Shared.advance, state, call, reaching, h.performance, h.visit]

theorem leads_lock {c : Configuration} (h : a.Idle) (hr : a.request = .reload c)
    (hl : a.lock = none) :
    Leads others (a.reaching .begun)
      ((a.reaching (.locked c)).locking (some others.length)) := by
  apply leads_goOn h
  intro mem
  simp [state, call, reaching, locking, Shared.goOn, Shared.begin, Shared.acquire, Shared.put, hr,
    hl]

theorem leads_refused (c : Configuration) (h : a.Idle) (hd : a.dispatcher.isShutDown = true) :
    Leads others (a.reaching (.locked c)) (a.reaching (.unlocking false)) := by
  apply leads_goOn h
  intro mem
  simp [state, call, reaching, Shared.goOn, Shared.put, hd]

theorem leads_allowed (c : Configuration) (h : a.Idle) (hd : a.dispatcher.isShutDown = false) :
    Leads others (a.reaching (.locked c)) (a.reaching (.allowed c)) := by
  apply leads_goOn h
  intro mem
  simp [state, call, reaching, Shared.goOn, Shared.put, hd]

theorem leads_build (c : Configuration) (h : a.Idle) :
    let built := Pipeline.build a.dispatcher.moduleKinds a.dispatcher.reporterKinds
      a.dispatcher.network c
    Leads others (a.reaching (.allowed c)) ((a.reaching (.built built.1)).say built.2) := by
  apply leads_goOn h
  intro mem
  simp [state, call, reaching, say, Shared.goOn, Shared.build, Shared.put, Shared.say]

theorem leads_replace (p : Pipeline μ ρ) (h : a.Idle) :
    Leads others (a.reaching (.built p))
      ((a.reaching (.starting (a.past.length + 1) a.past.length
        (.range p.modules.length))).replacing p) := by
  apply leads_goOn h
  intro mem
  simp [state, call, reaching, replacing, Shared.goOn, Shared.replace, Shared.generations,
    Shared.liveNumber, Shared.put]

theorem leads_started (g old : Nat) (h : a.Idle) :
    Leads others (a.reaching (.starting g old [])) (a.reaching (.draining old)) := by
  apply leads_goOn h
  intro mem
  simp [state, call, reaching, Shared.goOn, Shared.put]

theorem leads_stopped_reload {c : Configuration} (old : Nat) (h : a.Idle)
    (hr : a.request = .reload c) :
    Leads others (a.reaching (.stopping old [])) (a.reaching (.unlocking true)) := by
  apply leads_goOn h
  intro mem
  simp [state, call, reaching, Shared.goOn, Shared.put, hr]

theorem leads_stopped_shutdown (old : Nat) (h : a.Idle) (hr : a.request = .shutdown) :
    Leads others (a.reaching (.stopping old [])) (a.reaching .ended) := by
  apply leads_goOn h
  intro mem
  simp [state, call, reaching, Shared.goOn, Shared.put, hr]

theorem leads_unlock (installed : Bool) (h : a.Idle) :
    Leads others (a.reaching (.unlocking installed))
      ((a.reaching (.telling installed)).locking none) := by
  apply leads_goOn h
  intro mem
  simp [state, call, reaching, locking, Shared.goOn, Shared.unlock, Shared.put]

theorem leads_tell (installed : Bool) (h : a.Idle) :
    Leads others (a.reaching (.telling installed))
      ((a.reaching .ended).say
        [if installed then .counted .reloads else .notice .reloadIgnored]) := by
  apply leads_goOn h
  intro mem
  simp [state, call, reaching, say, Shared.goOn, Shared.say, Shared.put]

theorem leads_again (h : a.Idle) (hr : a.request = .shutdown)
    (hd : a.dispatcher.isShutDown = true) :
    Leads others (a.reaching .begun) (a.reaching .ended) := by
  apply leads_goOn h
  intro mem
  simp [state, call, reaching, Shared.goOn, Shared.begin, Shared.put, hr, hd]

def flagging (a : Solo μ ρ) : Solo μ ρ :=
  { a with dispatcher := { a.dispatcher with isShutDown := true } }

theorem leads_flag (h : a.Idle) (hr : a.request = .shutdown)
    (hd : a.dispatcher.isShutDown = false) :
    Leads others (a.reaching .begun) ((a.reaching .flagged).flagging) := by
  apply leads_goOn h
  intro mem
  simp [state, call, reaching, flagging, Shared.goOn, Shared.begin, Shared.put, hr, hd]

theorem leads_flagged (h : a.Idle) (hl : a.lock = none) :
    Leads others (a.reaching .flagged) ((a.reaching .clearing).locking (some others.length)) := by
  apply leads_goOn h
  intro mem
  simp [state, call, reaching, locking, Shared.goOn, Shared.acquire, Shared.put, hl]

theorem leads_clear (h : a.Idle) :
    Leads others (a.reaching .clearing)
      ((a.reaching (.cleared a.past.length)).replacing (.empty a.dispatcher.defaults)) := by
  apply leads_goOn h
  intro mem
  simp [state, call, reaching, replacing, Shared.goOn, Shared.replace, Shared.generations,
    Shared.liveNumber, Shared.put]

theorem leads_cleared (old : Nat) (h : a.Idle) :
    Leads others (a.reaching (.cleared old)) ((a.reaching (.draining old)).locking none) := by
  apply leads_goOn h
  intro mem
  simp [state, call, reaching, locking, Shared.goOn, Shared.unlock, Shared.put]

/-- The call that is alone goes on until it is over, and there is the dispatcher and what it shows. -/
def Ends (others : List (Call μ ρ)) (a : Solo μ ρ) (t : Dispatcher μ ρ × List Signal) : Prop :=
  ∃ b, Leads others a b ∧ b.Idle ∧ b.stage = .ended ∧ b.lock = none ∧ b.dispatcher = t.1 ∧
    b.shown = a.shown ++ t.2

theorem ends_report {e : QueryEvent} (h : a.Idle) (hr : a.request = .report e)
    (hs : a.stage = .begun) (hl : a.lock = none) : Ends others a (a.dispatcher.report e) := by
  let v : Visit := { generation := a.past.length, source := .event e }
  let each := LiveModule.each (LiveModule.transform e) a.dispatcher.live.modules
    a.dispatcher.live.reporters
  let b : Solo μ ρ := ((a.reaching .ended).setModules each.1).reporting each.2
  have hbegin : Leads others a ((a.reaching .ended).visiting v) :=
    leads_begin_report hr hs h.performance h.visit
  obtain ⟨answers, hanswers, htransform⟩ : ∃ answers, _ ∧ Leads others _ _ :=
    leads_transform (v := v) (a := a.reaching .ended) [] a.dispatcher.live.modules rfl rfl rfl
  have heard : Visit.Heard b.dispatcher.live.shape { v with answers } := by
    have hmodules : each.1 = a.dispatcher.live.modules.map (·.afterEvent e) :=
      (LiveModule.fst_each_transform e 0 _ _).1
    change (each.1.map fun l => (l.name, l.routes)).length ≤ answers.length
    rw [hmodules, hanswers, List.length_map, List.length_map]
    exact Nat.le_add_left _ _
  have hrelease : Leads others _ _ :=
    leads_release (v := { v with answers }) (a := b) rfl rfl h.visit heard
  exact ⟨b, (hbegin.trans htransform).trans hrelease, ⟨h.performance, h.visit⟩, rfl, hl, rfl, rfl⟩

theorem leads_missed {i : Nat} (h : a.Idle) (hr : a.request = .tick a.past.length i)
    (hl : a.dispatcher.live.modules[i]? = none) :
    Leads others (a.reaching .begun) (a.reaching .ended) := by
  apply leads_goOn h
  intro mem
  simp [state, call, reaching, Shared.goOn, Shared.begin, Shared.tickModule, Shared.callModule,
    Shared.generations, Shared.put, hr, hl]

theorem ends_tick {i : Nat} (h : a.Idle) (hr : a.request = .tick a.past.length i)
    (hs : a.stage = .begun) (hl : a.lock = none) :
    Ends others a (a.dispatcher.attend (.tick i a.dispatcher.now)) := by
  have hbegun := reaching_stage hs
  cases hi : a.dispatcher.live.modules[i]? with
  | none =>
    have hmissed : Leads others _ _ := leads_missed h hr hi
    rw [hbegun] at hmissed
    refine ⟨_, hmissed, ⟨h.performance, h.visit⟩, rfl, hl, ?_, ?_⟩
    · simp only [attend, Pipeline.tickAt, hi]
      rfl
    · simp only [attend, Pipeline.tickAt, hi, List.append_nil]
      rfl
  | some l =>
    have htick : Leads others _ _ := leads_tick h hr hi
    rw [hbegun] at htick
    refine ⟨_, htick, ⟨h.performance, h.visit⟩, rfl, hl, ?_, ?_⟩
    · simp only [attend, Pipeline.tickAt, hi]
      rfl
    · simp only [attend, Pipeline.tickAt, hi]
      rfl

theorem ends_ignored {c : Configuration} (h : a.Idle) (hr : a.request = .reload c)
    (hs : a.stage = .begun) (hl : a.lock = none) (hd : a.dispatcher.isShutDown = true) :
    Ends others a (a.dispatcher.reload c) := by
  let a₁ : Solo μ ρ := a.locking (some others.length)
  let a₂ : Solo μ ρ := a.locking none
  have h₁ : a₁.Idle := ⟨h.performance, h.visit⟩
  have h₂ : a₂.Idle := ⟨h.performance, h.visit⟩
  have hlock : Leads others _ _ := leads_lock h hr hl
  have hrefused : Leads others _ _ := leads_refused c h₁ hd
  have hunlock : Leads others _ _ := leads_unlock false h₁
  have htell : Leads others _ _ := leads_tell false h₂
  have hreload : a.dispatcher.reload c = (a.dispatcher, [.notice .reloadIgnored]) := by
    simp only [reload, beginReload, hd, if_true, endReload, List.append_nil]
  rw [reaching_stage hs] at hlock
  rw [hreload]
  exact ⟨_, ((hlock.trans hrefused).trans hunlock).trans htell, ⟨h₂.1, h₂.2⟩, rfl, rfl, rfl, rfl⟩

variable (others) in
theorem leads_install {c : Configuration} (h : a.Idle) (hr : a.request = .reload c)
    (hs : a.stage = .begun) (hl : a.lock = none) (hd : a.dispatcher.isShutDown = false) :
    ∃ b : Solo μ ρ, Leads others a ((b.reaching (.draining a.past.length)).retiring a.past a.dispatcher.live) ∧
      b.Idle ∧ b.request = a.request ∧ b.dispatcher = (a.dispatcher.replace c).2.1 ∧
      b.shown = a.shown ++ (a.dispatcher.replace c).2.2 := by
  let built := Pipeline.build a.dispatcher.moduleKinds a.dispatcher.reporterKinds
    a.dispatcher.network c
  let started := LiveModule.each (LiveModule.start a.dispatcher.now) built.1.modules
    built.1.reporters
  let a₁ : Solo μ ρ := a.locking (some others.length)
  let a₂ : Solo μ ρ := (a₁.say built.2).replacing built.1
  let a₃ : Solo μ ρ := (a₂.setModules started.1).reporting started.2
  have h₁ : a₁.Idle := ⟨h.performance, h.visit⟩
  have h₂ : a₂.Idle := ⟨h.performance, h.visit⟩
  have h₃ : a₃.Idle := ⟨h.performance, h.visit⟩
  have hlen : a₂.past.length = a.past.length + 1 := List.length_append
  have hlock : Leads others _ _ := leads_lock h hr hl
  have hallowed : Leads others _ _ := leads_allowed c h₁ hd
  have hbuild : Leads others _ _ := leads_build c h₁
  have hreplace : Leads others _ _ := leads_replace built.1 (a := a₁.say built.2) ⟨h₁.1, h₁.2⟩
  have hstarts : Leads others _ _ := leads_starts a.past.length [] built.1.modules h₂
  have hstarted : Leads others _ _ := leads_started (a.past.length + 1) a.past.length h₃
  rw [reaching_stage hs] at hlock
  rw [hlen, List.length_nil, ← List.range_eq_range'] at hstarts
  have hbuilt := ((hlock.trans hallowed).trans hbuild).trans hreplace
  exact ⟨a₃, (hbuilt.trans hstarts).trans hstarted, h₃, rfl, rfl, List.append_assoc ..⟩

theorem ends_reload {c : Configuration} (h : a.Idle) (hr : a.request = .reload c)
    (hs : a.stage = .begun) (hl : a.lock = none) (hothers : ∀ c ∈ others, c.visit = none) :
    Ends others a (a.dispatcher.reload c) := by
  cases hd : a.dispatcher.isShutDown with
  | true => exact ends_ignored h hr hs hl hd
  | false =>
    obtain ⟨b, hinstall, hb, hreq, hdispatcher, hshown⟩ := leads_install others h hr hs hl hd
    obtain ⟨p', hretire⟩ := leads_retire a.past a.dispatcher.live hb hothers
    let t := stopped a.dispatcher.live b.dispatcher.live.reporters
    let b₁ : Solo μ ρ := (b.retiring a.past p').reporting t
    let b₂ : Solo μ ρ := b₁.locking none
    have h₁ : b₁.Idle := ⟨hb.performance, hb.visit⟩
    have h₂ : b₂.Idle := ⟨hb.performance, hb.visit⟩
    have hstopped : Leads others _ _ := leads_stopped_reload a.past.length h₁ (hreq.trans hr)
    have hunlock : Leads others _ _ := leads_unlock true h₁
    have htell : Leads others _ _ := leads_tell true h₂
    have hend := (((hinstall.trans hretire).trans hstopped).trans hunlock).trans htell
    have hreload : a.dispatcher.reload c = (b₂.dispatcher,
        (a.dispatcher.replace c).2.2 ++ (t.2 ++ [.counted .reloads])) := by
      simp only [reload, beginReload, hd, Bool.false_eq_true, if_false, endReload]
      rw [← hdispatcher]
      rfl
    rw [hreload]
    refine ⟨_, hend, ⟨h₂.1, h₂.2⟩, rfl, rfl, rfl, ?_⟩
    change (b.shown ++ t.2) ++ [.counted .reloads] = _
    rw [hshown, List.append_assoc, List.append_assoc]

theorem ends_shutdown (h : a.Idle) (hr : a.request = .shutdown) (hs : a.stage = .begun)
    (hl : a.lock = none) (hothers : ∀ c ∈ others, c.visit = none) :
    Ends others a a.dispatcher.shutdown := by
  cases hd : a.dispatcher.isShutDown with
  | true =>
    have hagain : Leads others _ _ := leads_again h hr hd
    rw [reaching_stage hs] at hagain
    have hshutdown : a.dispatcher.shutdown = (a.dispatcher, []) := by
      simp only [shutdown, hd, if_true]
    rw [hshutdown]
    exact ⟨_, hagain, ⟨h.1, h.2⟩, rfl, hl, rfl, (List.append_nil _).symm⟩
  | false =>
    let a₁ : Solo μ ρ := a.flagging.locking (some others.length)
    let a₂ : Solo μ ρ := (a₁.replacing (.empty a.dispatcher.defaults)).locking none
    have h₁ : a₁.Idle := ⟨h.1, h.2⟩
    have h₂ : a₂.Idle := ⟨h.1, h.2⟩
    have hflag : Leads others _ _ := leads_flag h hr hd
    have hflagged : Leads others _ _ := leads_flagged (a := a.flagging) ⟨h.1, h.2⟩ hl
    have hclear : Leads others _ _ := leads_clear h₁
    have hcleared : Leads others _ _ := leads_cleared a.past.length
      (a := a₁.replacing (.empty a.dispatcher.defaults)) ⟨h.1, h.2⟩
    obtain ⟨p', hretire⟩ := leads_retire a.past a.dispatcher.live h₂ hothers
    let t := stopped a.dispatcher.live a₂.dispatcher.live.reporters
    have hstopped : Leads others _ _ := leads_stopped_shutdown a.past.length
      (a := (a₂.retiring a.past p').reporting t) ⟨h.1, h.2⟩ hr
    rw [reaching_stage hs] at hflag
    have hreplaced := ((hflag.trans hflagged).trans hclear).trans hcleared
    refine ⟨_, (hreplaced.trans hretire).trans hstopped, ⟨h.1, h.2⟩, rfl, rfl, ?_, ?_⟩
    · simp only [shutdown, hd, Bool.false_eq_true, if_false]
      rfl
    · simp only [shutdown, hd, Bool.false_eq_true, if_false]
      rfl

end QueryWatch.Dispatcher.Solo

namespace QueryWatch.Dispatcher.Shared

variable {μ ρ : Type} [ModuleUnit μ] [ReporterUnit ρ]

structure Quiescent (s : Shared μ ρ) : Prop where
  lock : s.lock = none
  ended : ∀ c ∈ s.calls, c.Ended

/-- What is asked of a quiescent dispatcher is done when the call has gone on for long enough, and it is done
as a function of the dispatcher says. -/
def Does (s : Shared μ ρ) (r : Request) (t : Dispatcher μ ρ × List Signal) : Prop :=
  ∃ n, (run (.request r :: .replicate n (.call s.calls.length)) s).Quiescent ∧
    (run (.request r :: .replicate n (.call s.calls.length)) s).dispatcher = t.1 ∧
    (run (.request r :: .replicate n (.call s.calls.length)) s).shown = s.shown ++ t.2

variable {s : Shared μ ρ}

def solo (r : Request) (s : Shared μ ρ) : Solo μ ρ where
  dispatcher := s.dispatcher
  past := s.past
  lock := s.lock
  shown := s.shown
  request := r

theorem does_of_ends {r : Request} {t : Dispatcher μ ρ × List Signal} (h : s.Quiescent)
    (he : Solo.Ends s.calls (s.solo r) t) : s.Does r t := by
  obtain ⟨b, hleads, hidle, hstage, hlock, hdispatcher, hshown⟩ := he
  obtain ⟨n, mem, hrun⟩ := hleads ⟨s.history, [], r.sources, []⟩
  have hstate : run (.request r :: .replicate n (.call s.calls.length)) s = b.state s.calls mem :=
    hrun
  refine ⟨n, ?_, ?_, ?_⟩
  · rw [hstate]
    refine ⟨hlock, fun c hc => ?_⟩
    rcases List.mem_append.1 hc with hc | hc
    · exact h.ended c hc
    · obtain rfl := List.mem_singleton.1 hc
      refine ⟨hstage, hidle.performance, ?_⟩
      rw [Solo.call, hidle.visit]
      rfl
  · rw [hstate]
    exact hdispatcher
  · rw [hstate]
    exact hshown

/-- Each operation of a dispatcher that nobody else calls is a run of the steps of its call. -/
theorem operations_alone (h : s.Quiescent) :
    (∀ e, s.Does (.report e) (s.dispatcher.report e)) ∧
      (∀ i, s.Does (.tick s.liveNumber i) (s.dispatcher.attend (.tick i s.dispatcher.now))) ∧
      (∀ c, s.Does (.reload c) (s.dispatcher.reload c)) ∧
      s.Does .shutdown s.dispatcher.shutdown := by
  have hothers : ∀ c ∈ s.calls, c.visit = none := fun c hc => (h.ended c hc).2.2
  have hidle (r : Request) : (s.solo r).Idle := ⟨rfl, rfl⟩
  refine ⟨fun e => ?_, fun i => ?_, fun c => ?_, ?_⟩
  · exact does_of_ends h (Solo.ends_report (hidle _) rfl rfl h.lock)
  · exact does_of_ends h (Solo.ends_tick (hidle _) rfl rfl h.lock)
  · exact does_of_ends h (Solo.ends_reload (hidle _) rfl rfl h.lock hothers)
  · exact does_of_ends h (Solo.ends_shutdown (hidle _) rfl rfl h.lock hothers)

end QueryWatch.Dispatcher.Shared
