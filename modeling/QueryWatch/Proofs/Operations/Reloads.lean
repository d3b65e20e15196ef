import QueryWatch.Proofs.Delivery.Calls
import QueryWatch.Proofs.Operations.Basic

namespace QueryWatch

namespace Registry

variable {ε α : Type}

/-- The same kinds, of which nothing is shown while they are built. -/
def quiet (r : Registry ε α) : Registry ε α :=
  ⟨r.factories.map fun build entry site => { build entry site with signals := [] }⟩

@[simp] theorem signals_build_quiet (r : Registry ε α) (kind : String) (entry : ε) (site : Site) :
    (r.quiet.build kind entry site).signals = [] := by
  unfold build quiet
  simp only [KeyMap.get?_map]
  cases r.factories.get? kind <;> rfl

end Registry

namespace Fanout

variable {ρ σ : Type} [ReporterUnit ρ]

omit [ReporterUnit ρ] in
theorem tally_sweep {c : Counter} {f : σ → σ × List Signal} (h : ∀ s, tally c (f s).2 = 0)
    (l : List σ) : tally c (sweep f l).2 = 0 := by
  induction l with
  | nil => rfl
  | cons s rest ih => rw [sweep, tally_append, h, ih]

theorem tally_reloads_deliver (m : Measurement) (r : Watched ρ) :
    tally .reloads (deliver m r).2 = 0 := by
  unfold deliver
  simp only
  split <;> rfl

theorem tally_reloads_visit (o : Offer) (r : Watched ρ) : tally .reloads (visit o r).2 = 0 := by
  unfold visit
  split
  · exact tally_reloads_deliver o.measurement r
  · rfl

theorem tally_reloads_take (os : List Offer) (f : Fanout (Watched ρ)) :
    tally .reloads (f.take os).2 = 0 := by
  induction os generalizing f with
  | nil => rfl
  | cons o os ih =>
    have hsweep := tally_sweep (tally_reloads_visit o) f.reporters
    simp only [take, publish_eq, tally_append, tally_counted, hsweep, ih]
    simp

theorem tally_reloads_stop (f : Fanout (Watched ρ)) : tally .reloads f.stop.2 = 0 := by
  refine tally_sweep (fun r => ?_) f.reporters
  unfold stopOne
  simp only
  split <;> rfl

omit [ReporterUnit ρ] in
theorem tally_reloads_build (r : Registry ReporterEntry ρ) (site : Site)
    (entries : List ReporterEntry) : tally .reloads (build r.quiet site entries).2 = 0 := by
  have hone (entry : ReporterEntry) : tally .reloads (buildOne r.quiet site entry).2 = 0 := by
    unfold buildOne
    simp only [Registry.signals_build_quiet]
    split <;> rfl
  have hall (entries : List ReporterEntry) :
      tally .reloads (buildAll r.quiet site entries).2 = 0 := by
    induction entries with
    | nil => rfl
    | cons entry rest ih => rw [buildAll, tally_append, hone, ih]
  unfold build
  simp only [tally_append, hall]
  split <;> rfl

end Fanout

namespace LiveModule

variable {μ ρ : Type} [ModuleUnit μ] [ReporterUnit ρ]

theorem tally_reloads_run (call : Hushed μ → ModuleTurn (Hushed μ))
    (onPanic : String → List Signal)
    (hcall : ∀ u, ∃ acts : List Act, (call u).acts = acts.filter Act.emits)
    (hpanic : ∀ name, tally .reloads (onPanic name) = 0) (l : LiveModule (Hushed μ))
    (f : Fanout (Watched ρ)) : tally .reloads (l.run call onPanic f).2.2 = 0 := by
  obtain ⟨acts, hacts⟩ := hcall l.unit
  have hperform : tally .reloads (perform l.name l.routes (call l.unit).acts f).2 = 0 := by
    rw [hacts, perform_emits 0]
    exact Fanout.tally_reloads_take _ f
  simp only [run, tally_append, hperform, Nat.zero_add]
  split
  · exact hpanic l.name
  · rfl

omit [ModuleUnit μ] [ReporterUnit ρ] in
theorem tally_each {c : Counter}
    {call : LiveModule μ → Fanout ρ → LiveModule μ × Fanout ρ × List Signal}
    (h : ∀ l f, tally c (call l f).2.2 = 0) (ls : List (LiveModule μ)) (f : Fanout ρ) :
    tally c (each call ls f).2.2 = 0 := by
  induction ls generalizing f with
  | nil => rfl
  | cons l ls ih =>
    simp only [each, tally_append, h, ih]

theorem tally_reloads_start (now : Nat) (ls : List (LiveModule (Hushed μ)))
    (f : Fanout (Watched ρ)) : tally .reloads (each (start now) ls f).2.2 = 0 := by
  apply tally_each
  exact tally_reloads_run (ModuleUnit.start now) (fun name => [.notice (.startPanicked name)])
    (fun u => ⟨(ModuleUnit.start now u.unit).acts, rfl⟩) fun _ => rfl

theorem tally_reloads_stop (ls : List (LiveModule (Hushed μ))) (f : Fanout (Watched ρ)) :
    tally .reloads (each stop ls f).2.2 = 0 := by
  apply tally_each
  exact tally_reloads_run ModuleUnit.stop (fun name => [.notice (.stopPanicked name)])
    (fun u => ⟨(ModuleUnit.stop u.unit).acts, rfl⟩) fun _ => rfl

end LiveModule

namespace Pipeline

variable {μ ρ : Type}

theorem tally_reloads_buildModules (r : Registry ModuleEntry μ) (site : Site)
    (entries : List ModuleEntry) : tally .reloads (buildModules r.quiet site entries).2 = 0 := by
  have hone (entry : ModuleEntry) : tally .reloads (buildModule r.quiet site entry).2 = 0 := by
    unfold buildModule
    simp only [Registry.signals_build_quiet]
    split <;> rfl
  induction entries with
  | nil => rfl
  | cons entry rest ih => rw [buildModules, tally_append, hone, ih]

theorem tally_reloads_build (modules : Registry ModuleEntry μ)
    (reporters : Registry ReporterEntry ρ) (network : Sink.Network) (c : Configuration) :
    tally .reloads (build modules.quiet reporters.quiet network c).2 = 0 := by
  unfold build
  simp only [tally_append, Fanout.tally_reloads_build, tally_reloads_buildModules]

end Pipeline

namespace Dispatcher

variable {μ ρ : Type} [ModuleUnit μ] [ReporterUnit ρ]

/-- The dispatcher with all its units, those that are yet to be built too, under observation. -/
def overhear (d : Dispatcher μ ρ) : Dispatcher (Hushed μ) (Watched ρ) :=
  { d.observe with
    moduleKinds := d.observe.moduleKinds.quiet
    reporterKinds := d.observe.reporterKinds.quiet }

theorem tally_reloads_reload (c : Configuration) (d : Dispatcher μ ρ) (h : d.isShutDown = false) :
    tally .reloads (d.overhear.reload c).2 = 1 := by
  have hraising : tally .reloads (d.overhear.setting.raising d.overhear.now c) = 0 := by
    have hbuild : tally .reloads (d.overhear.setting.built c).2 = 0 :=
      Pipeline.tally_reloads_build d.observe.moduleKinds d.observe.reporterKinds d.network c
    have hstart : tally .reloads ((d.overhear.setting.built c).1.start d.overhear.now).2 = 0 :=
      LiveModule.tally_reloads_start d.now _ _
    rw [Setting.raising, tally_append, hbuild, hstart]
  have hretire (d' : Dispatcher (Hushed μ) (Watched ρ)) :
      tally .reloads (retire d.overhear.live d').2 = 0 := by
    simp only [retire, tally_append, LiveModule.tally_reloads_stop, Fanout.tally_reloads_stop]
  simp only [reload, d.overhear.beginReload_eq c h, endReload, tally_append, hraising, hretire,
    tally_counted]
  simp

end Dispatcher

end QueryWatch
