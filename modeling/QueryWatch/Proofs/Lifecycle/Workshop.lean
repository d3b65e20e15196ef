import QueryWatch.Proofs.Lifecycle.Timers
import QueryWatch.Proofs.Operations.Basic

namespace QueryWatch

namespace Registry

variable {ε α β : Type} {P : α → Prop} {r : Registry ε α}

def All (P : α → Prop) (r : Registry ε α) : Prop :=
  ∀ kind entry site u, (r.build kind entry site).outcome = .built u → P u

theorem all_empty (P : α → Prop) : (empty : Registry ε α).All P := by
  intro kind entry site u hu
  cases hu

theorem All.register (h : r.All P) (kind : String) {f : Factory ε α}
    (hf : ∀ entry site u, (f entry site).outcome = .built u → P u) : (r.register kind f).All P :=
  Every.register (P := fun c => ∀ u, c.outcome = .built u → P u) h kind hf

theorem All.map {P : β → Prop} {f : α → β} (h : r.All fun u => P (f u)) : (r.map f).All P := by
  intro kind entry site v hv
  unfold build Registry.map at hv
  simp only [KeyMap.get?_map] at hv
  cases hget : r.factories.get? kind with
  | none =>
    rw [hget] at hv
    cases hv
  | some make =>
    rw [hget] at hv
    have hbuild : (r.build kind entry site).outcome = (make entry site).outcome := by
      rw [build, hget]
    obtain ⟨u, hu, rfl⟩ := Construction.exists_of_map_built hv
    exact h kind entry site u (hbuild.trans hu)

end Registry

/-- What a dispatcher is given, modules coming from their factories without a timer that runs. -/
structure Workshop (μ ρ : Type) extends Setting (AnyModule μ) ρ where
  idle : moduleKinds.All fun u => AnyModule.task? u = none

namespace BuiltinModule

variable {μ α : Type}

theorem of_factory {wrap : α → BuiltinModule} {P : BuiltinModule → Prop}
    {build : ModuleEntry → GlobalSettings → Except BuildError α}
    (h : ∀ entry global a, build entry global = .ok a → P (wrap a)) (entry : ModuleEntry)
    (site : Site) (u : BuiltinModule) (hu : (factory wrap build entry site).outcome = .built u) :
    P u := by
  unfold factory at hu
  cases ha : build entry site.global with
  | ok a =>
    rw [ha] at hu
    cases hu
    exact h entry site.global a ha
  | error e =>
    rw [ha] at hu
    cases hu

theorem idle_registry :
    registry.All fun u => AnyModule.task? (.inl u : AnyModule μ) = none := by
  have hwatcher (entry : ModuleEntry) (global : GlobalSettings) (w : SlowQuery.Watcher)
      (_ : SlowQuery.Watcher.build entry global = .ok w) :
      AnyModule.task? (.inl (.slowQuery w) : AnyModule μ) = none := rfl
  have hheartbeat (entry : ModuleEntry) (global : GlobalSettings) (b : Periodic.Heartbeat)
      (hb : Periodic.Heartbeat.build entry global = .ok b) :
      AnyModule.task? (.inl (.heartbeat b) : AnyModule μ) = none := by
    unfold Periodic.Heartbeat.build at hb
    cases hp : Periodic.period entry.options with
    | ok nanos =>
      rw [hp] at hb
      cases hb
      rfl
    | error e =>
      rw [hp] at hb
      cases hb
  have hrate (entry : ModuleEntry) (global : GlobalSettings) (r : Periodic.RequestRate)
      (hr : Periodic.RequestRate.build entry global = .ok r) :
      AnyModule.task? (.inl (.requestRate r) : AnyModule μ) = none := by
    unfold Periodic.RequestRate.build at hr
    cases hp : Periodic.period entry.options with
    | ok nanos =>
      rw [hp] at hr
      cases hr
      rfl
    | error e =>
      rw [hp] at hr
      cases hr
  exact (((Registry.all_empty _).register "slow_query" (of_factory hwatcher)).register
    "heartbeat" (of_factory hheartbeat)).register "request_rate" (of_factory hrate)

end BuiltinModule

namespace Workshop

variable {μ ρ : Type}

/-- The kinds that are there from the start, and any others. -/
def modulesWith (custom : List (String × Factory ModuleEntry μ)) :
    Registry ModuleEntry (AnyModule μ) :=
  custom.foldl (fun r k => r.register k.1 fun entry site => (k.2 entry site).map .inr)
    (BuiltinModule.registry.map .inl)

theorem idle_modulesWith (custom : List (String × Factory ModuleEntry μ)) :
    (modulesWith custom).All fun u => AnyModule.task? u = none := by
  have hfold (r : Registry ModuleEntry (AnyModule μ)) (hr : r.All fun u => AnyModule.task? u = none) :
      (custom.foldl (fun r k => r.register k.1 fun entry site => (k.2 entry site).map .inr) r).All
        fun u => AnyModule.task? u = none := by
    induction custom generalizing r with
    | nil => exact hr
    | cons k custom ih =>
      apply ih
      apply hr.register k.1
      intro entry site u hu
      obtain ⟨v, -, rfl⟩ := Construction.exists_of_map_built hu
      rfl
  exact hfold _ BuiltinModule.idle_registry.map

def standard (custom : List (String × Factory ModuleEntry μ))
    (reporterKinds : Registry ReporterEntry ρ) (defaults : GlobalSettings)
    (network : Sink.Network) : Workshop μ ρ where
  moduleKinds := modulesWith custom
  reporterKinds := reporterKinds
  defaults := defaults
  network := network
  idle := idle_modulesWith custom

end Workshop

end QueryWatch
