import QueryWatch.Modules
import QueryWatch.Proofs.Periodic.Loop

namespace QueryWatch

abbrev AnyModule (μ : Type) := BuiltinModule ⊕ μ

namespace AnyModule

variable {μ : Type}

def isPeriodic : AnyModule μ → Bool
  | .inl (.heartbeat _) => true
  | .inl (.requestRate _) => true
  | _ => false

def task? : AnyModule μ → Option PeriodicTask
  | .inl (.heartbeat h) => h.task
  | .inl (.requestRate r) => r.task
  | _ => none

def running (u : AnyModule μ) : Nat :=
  (task? u).toList.countP fun t => !t.cancelled

/-- A module whose timer runs, if it is one with a timer. -/
def Armed (u : AnyModule μ) : Prop :=
  isPeriodic u = true → ∃ t, task? u = some t ∧ t.cancelled = false

theorem running_of_armed {u : AnyModule μ} (h : Armed u) :
    running u = if isPeriodic u then 1 else 0 := by
  cases hp : isPeriodic u with
  | true =>
    obtain ⟨t, ht, hnot⟩ := h hp
    simp [running, ht, hnot]
  | false =>
    have hnone : task? u = none := by
      match u with
      | .inl (.slowQuery _) => rfl
      | .inl (.heartbeat _) => cases hp
      | .inl (.requestRate _) => cases hp
      | .inr _ => rfl
    simp [running, hnone]

/-- Another threshold for the slow queries; it is nothing to other modules. -/
def retune (f : SlowQuery.Decider → SlowQuery.Decider) : AnyModule μ → Option (AnyModule μ)
  | .inl (.slowQuery w) => some (.inl (.slowQuery (w.mapDecider f)))
  | _ => none

theorem armed_retune {f : SlowQuery.Decider → SlowQuery.Decider} {u v : AnyModule μ}
    (h : retune f u = some v) : Armed v := by
  intro hp
  match u with
  | .inl (.slowQuery _) =>
    cases h
    cases hp
  | .inl (.heartbeat _) => cases h
  | .inl (.requestRate _) => cases h
  | .inr _ => cases h

theorem running_retune {f : SlowQuery.Decider → SlowQuery.Decider} {u v : AnyModule μ}
    (h : retune f u = some v) : running v = running u := by
  match u with
  | .inl (.slowQuery _) =>
    cases h
    rfl
  | .inl (.heartbeat _) => cases h
  | .inl (.requestRate _) => cases h
  | .inr _ => cases h

variable [ModuleUnit μ]

theorem armed_start (now : Nat) {u : AnyModule μ} (h : task? u = none) :
    Armed (ModuleUnit.start now u).unit := by
  intro hp
  match u with
  | .inl (.slowQuery _) => cases hp
  | .inl (.heartbeat b) =>
    have hb : b.task = none := h
    refine ⟨(PeriodicTask.start b.title b.period now).1, ?_, PeriodicTask.not_cancelled_start ..⟩
    change (b.start now).unit.task = _
    simp only [Periodic.Heartbeat.start, hb]
  | .inl (.requestRate r) =>
    have hr : r.task = none := h
    refine ⟨(PeriodicTask.start r.title r.period now).1, ?_, PeriodicTask.not_cancelled_start ..⟩
    change (r.start now).unit.task = _
    simp only [Periodic.RequestRate.start, hr]
  | .inr _ => cases hp

theorem armed_transform (e : QueryEvent) {u : AnyModule μ} (h : Armed u) :
    Armed (ModuleUnit.transform e u).1.unit := by
  intro hp
  match u with
  | .inl (.slowQuery _) => cases hp
  | .inl (.heartbeat _) => exact h rfl
  | .inl (.requestRate _) => exact h rfl
  | .inr _ => cases hp

theorem armed_tick (now : Nat) {u : AnyModule μ} (h : Armed u) :
    Armed (ModuleUnit.tick now u).unit := by
  intro hp
  match u with
  | .inl (.slowQuery _) => cases hp
  | .inl (.heartbeat b) =>
    obtain ⟨t, ht, hnot⟩ := h rfl
    have hb : b.task = some t := ht
    refine ⟨t.taken now, ?_, hnot⟩
    change (b.tick now).unit.task = _
    simp only [Periodic.Heartbeat.tick, hb]
  | .inl (.requestRate r) =>
    obtain ⟨t, ht, hnot⟩ := h rfl
    have hr : r.task = some t := ht
    refine ⟨t.taken now, ?_, hnot⟩
    change (r.tick now).unit.task = _
    simp only [Periodic.RequestRate.tick, hr]
  | .inr _ => cases hp

theorem running_stop (u : AnyModule μ) : running (ModuleUnit.stop u).unit = 0 := by
  match u with
  | .inl (.slowQuery _) => rfl
  | .inl (.heartbeat _) => rfl
  | .inl (.requestRate _) => rfl
  | .inr _ => rfl

end AnyModule

end QueryWatch
