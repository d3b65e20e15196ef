import QueryWatch.QueryEvent
import QueryWatch.Signal

namespace QueryWatch

/-- What a call of a unit comes to: it changes the unit and shows signals, and it may end in a panic, which
whoever calls has to deal with. -/
structure Turn (σ : Type) where
  unit : σ
  signals : List Signal := []
  panicked : Bool := false

inductive Act
  | signal (s : Signal)
  | emit (m : Measurement)

structure ModuleTurn (σ : Type) where
  unit : σ
  acts : List Act := []
  panicked : Bool := false

/-- A unit that takes measurements to where they are wanted. It keeps the kind it was configured with. -/
class ReporterUnit (ρ : Type) where
  kind : ρ → String
  report : Measurement → ρ → Turn ρ
  stop : ρ → Turn ρ
  kind_report (m : Measurement) (r : ρ) : kind (report m r).unit = kind r := by intros; rfl
  kind_stop (r : ρ) : kind (stop r).unit = kind r := by intros; rfl

/-- A unit that makes measurements, out of events and when its time has come. It keeps the name it was
configured with. -/
class ModuleUnit (μ : Type) where
  name : μ → String
  transform : QueryEvent → μ → Turn μ × List Measurement
  start : (now : Nat) → μ → ModuleTurn μ
  stop : μ → ModuleTurn μ
  /-- When the next tick is due, if the module has a timer that runs. -/
  due? : μ → Option Nat
  tick : (now : Nat) → μ → ModuleTurn μ
  name_transform (e : QueryEvent) (u : μ) : name (transform e u).1.unit = name u := by intros; rfl
  name_start (now : Nat) (u : μ) : name (start now u).unit = name u := by intros; rfl
  name_stop (u : μ) : name (stop u).unit = name u := by intros; rfl
  name_tick (now : Nat) (u : μ) : name (tick now u).unit = name u := by intros; rfl

namespace Turn

variable {σ τ : Type}

def map (f : σ → τ) (t : Turn σ) : Turn τ :=
  ⟨f t.unit, t.signals, t.panicked⟩

end Turn

namespace ModuleTurn

variable {σ τ : Type}

def map (f : σ → τ) (t : ModuleTurn σ) : ModuleTurn τ :=
  ⟨f t.unit, t.acts, t.panicked⟩

end ModuleTurn

instance {α β : Type} [ReporterUnit α] [ReporterUnit β] : ReporterUnit (α ⊕ β) where
  kind
    | .inl a => ReporterUnit.kind a
    | .inr b => ReporterUnit.kind b
  report m
    | .inl a => (ReporterUnit.report m a).map .inl
    | .inr b => (ReporterUnit.report m b).map .inr
  stop
    | .inl a => (ReporterUnit.stop a).map .inl
    | .inr b => (ReporterUnit.stop b).map .inr
  kind_report m
    | .inl a => ReporterUnit.kind_report m a
    | .inr b => ReporterUnit.kind_report m b
  kind_stop
    | .inl a => ReporterUnit.kind_stop a
    | .inr b => ReporterUnit.kind_stop b

instance {α β : Type} [ModuleUnit α] [ModuleUnit β] : ModuleUnit (α ⊕ β) where
  name
    | .inl a => ModuleUnit.name a
    | .inr b => ModuleUnit.name b
  transform e
    | .inl a => let (t, ms) := ModuleUnit.transform e a; (t.map .inl, ms)
    | .inr b => let (t, ms) := ModuleUnit.transform e b; (t.map .inr, ms)
  start now
    | .inl a => (ModuleUnit.start now a).map .inl
    | .inr b => (ModuleUnit.start now b).map .inr
  stop
    | .inl a => (ModuleUnit.stop a).map .inl
    | .inr b => (ModuleUnit.stop b).map .inr
  due?
    | .inl a => ModuleUnit.due? a
    | .inr b => ModuleUnit.due? b
  tick now
    | .inl a => (ModuleUnit.tick now a).map .inl
    | .inr b => (ModuleUnit.tick now b).map .inr
  name_transform e
    | .inl a => ModuleUnit.name_transform e a
    | .inr b => ModuleUnit.name_transform e b
  name_start now
    | .inl a => ModuleUnit.name_start now a
    | .inr b => ModuleUnit.name_start now b
  name_stop
    | .inl a => ModuleUnit.name_stop a
    | .inr b => ModuleUnit.name_stop b
  name_tick now
    | .inl a => ModuleUnit.name_tick now a
    | .inr b => ModuleUnit.name_tick now b

end QueryWatch
