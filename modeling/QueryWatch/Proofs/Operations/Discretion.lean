import QueryWatch.Proofs.Operations.Misfits

namespace QueryWatch

namespace Construction

variable {α : Type} {c : Construction α}

/-- An attempt that shows nothing by itself unless it gives a unit. -/
def Discreet (c : Construction α) : Prop :=
  c.Fails → c.signals = []

theorem discreet_built (u : α) (shown : List Signal) : (⟨.built u, shown⟩ : Construction α).Discreet :=
  fun h => absurd rfl (h u)

theorem discreet_refused (e : BuildError) : (⟨.refused e, []⟩ : Construction α).Discreet :=
  fun _ => rfl

theorem discreet_ofExcept (r : Except BuildError α) : (ofExcept r).Discreet := by
  intro _
  cases r <;> rfl

theorem Discreet.map {β : Type} {f : α → β} (h : c.Discreet) : (c.map f).Discreet := by
  intro hf
  apply h
  intro u hu
  apply hf (f u)
  rw [Construction.map, hu]

end Construction

namespace Setting

variable {μ ρ : Type} {s : Setting μ ρ} {g : GlobalSettings} {ms : List ModuleEntry}
  {rs : List ReporterEntry}

theorem attempts_eq_nil (hmodules : s.moduleKinds.Every Construction.Discreet)
    (hreporters : s.reporterKinds.Every Construction.Discreet)
    (hms : ∀ e ∈ ms, (s.moduleKinds.build e.kind e ⟨g, s.network⟩).Fails)
    (hrs : ∀ e ∈ rs, (s.reporterKinds.build e.kind e ⟨g, s.network⟩).Fails) :
    s.attempts g ms rs = [] := by
  rw [attempts, List.append_eq_nil_iff, List.flatMap_eq_nil_iff, List.flatMap_eq_nil_iff]
  exact ⟨fun e he => hreporters e.kind e _ (hrs e he), fun e he => hmodules e.kind e _ (hms e he)⟩

end Setting

/-- Each misfit is counted once, and that is all that is counted of it. -/
theorem Misfits.tally_built {μ ρ : Type} {s : Setting μ ρ} {c c' : Configuration}
    {ms : List ModuleEntry} {rs : List ReporterEntry} (h : Misfits s c c' ms rs)
    (hmodules : s.moduleKinds.Every Construction.Discreet)
    (hreporters : s.reporterKinds.Every Construction.Discreet) (k : Counter) :
    tally k (s.built c').2 = tally k (s.built c).2 +
      (rs.countP fun e => Counter.reporterInitFailures e.kind = k) +
      ms.countP fun e => Counter.moduleInitFailures e.kind = k := by
  have hattempts := Setting.attempts_eq_nil hmodules hreporters h.modules_fail h.reporters_fail
  rw [h.built_interleaved.2.tally_eq, s.tally_mishaps, hattempts, tally_nil]
  omega

theorem BuiltinModule.discreet_registry : registry.Every Construction.Discreet := by
  have hempty : (Registry.empty : Registry ModuleEntry BuiltinModule).Every Construction.Discreet :=
    Registry.every_empty fun _ => Construction.discreet_refused _
  exact ((hempty.register "slow_query" fun _ _ => Construction.discreet_ofExcept _).register
    "heartbeat" fun _ _ => Construction.discreet_ofExcept _).register
    "request_rate" fun _ _ => Construction.discreet_ofExcept _

namespace Sink

open Construction

variable (entry : ReporterEntry) (site : Site)

theorem TimeSeriesSink.discreet_build : (TimeSeriesSink.build entry site).Discreet := by
  unfold TimeSeriesSink.build
  split
  · exact discreet_refused _
  · dsimp only
    split
    · exact discreet_built _ _
    · split
      · exact discreet_refused _
      · exact discreet_refused _
      · split
        · exact fun _ => rfl
        · exact discreet_built _ _

theorem GaugeSink.discreet_build : (GaugeSink.build entry site).Discreet := by
  unfold GaugeSink.build
  split
  · exact discreet_refused _
  · dsimp only
    split
    · exact discreet_built _ _
    · exact discreet_built _ _

theorem BusSink.discreet_build : (BusSink.build entry site).Discreet := by
  unfold BusSink.build
  split
  · exact discreet_refused _
  · split
    · exact discreet_refused _
    · exact discreet_built _ _

theorem MonitorSink.discreet_build : (MonitorSink.build entry site).Discreet := by
  unfold MonitorSink.build
  split
  · exact discreet_refused _
  · split
    · exact discreet_refused _
    · dsimp only
      split
      · exact discreet_built _ _
      · exact discreet_built _ _

end Sink

theorem BuiltinReporter.discreet_registry : registry.Every Construction.Discreet := by
  have hempty : (Registry.empty : Registry ReporterEntry BuiltinReporter).Every
      Construction.Discreet :=
    Registry.every_empty fun _ => Construction.discreet_refused _
  exact ((((hempty.register "log" fun _ _ => Construction.discreet_ofExcept _).register
    "influxdb" fun entry site => (Sink.TimeSeriesSink.discreet_build entry site).map).register
    "datadog" fun entry site => (Sink.GaugeSink.discreet_build entry site).map).register
    "kafka" fun entry site => (Sink.BusSink.discreet_build entry site).map).register
    "riemann" fun entry site => (Sink.MonitorSink.discreet_build entry site).map

def Setting.builtin (defaults : GlobalSettings) (network : Sink.Network) :
    Setting BuiltinModule BuiltinReporter where
  moduleKinds := BuiltinModule.registry
  reporterKinds := BuiltinReporter.registry
  defaults := defaults
  network := network

theorem Misfits.tally_builtin {defaults : GlobalSettings} {network : Sink.Network}
    {c c' : Configuration} {ms : List ModuleEntry} {rs : List ReporterEntry}
    (h : Misfits (.builtin defaults network) c c' ms rs) (k : Counter) :
    tally k ((Setting.builtin defaults network).built c').2 =
      tally k ((Setting.builtin defaults network).built c).2 +
        (rs.countP fun e => Counter.reporterInitFailures e.kind = k) +
        ms.countP fun e => Counter.moduleInitFailures e.kind = k :=
  h.tally_built BuiltinModule.discreet_registry BuiltinReporter.discreet_registry k

end QueryWatch
