import QueryWatch.Proofs.Delivery.Calls
import QueryWatch.Proofs.Lifecycle.Erasure
import QueryWatch.Proofs.Lifecycle.History

namespace QueryWatch

def Signal.occurrence? : Signal → Option Occurrence
  | .sighted (.moduleBuilt _ (.array [.int g, .int i]) _) =>
    some (.built (.module g.toNat i.toNat))
  | .sighted (.reporterBuilt _ (.array [.int g, .int i])) =>
    some (.built (.reporter g.toNat i.toNat))
  | .sighted (.moduleCalled _ (.array [.int g, .int i, .int n]) call) =>
    some (if call = "stop" then .stopped (.module g.toNat i.toNat) n.toNat
      else .called (.module g.toNat i.toNat) n.toNat)
  | .sighted (.reporterStopped _ (.array [.int g, .int i])) =>
    some (.stopped (.reporter g.toNat i.toNat) 0)
  | _ => none

/-- The history that was shown. -/
def historyOf (shown : List Signal) : History :=
  shown.filterMap Signal.occurrence?

@[simp] theorem historyOf_append (a b : List Signal) :
    historyOf (a ++ b) = historyOf a ++ historyOf b :=
  List.filterMap_append

def Numbered.badge {ρ : Type} (r : Numbered ρ) : Badge :=
  .reporter r.generation r.place

def LiveModule.badge {σ : Type} (l : LiveModule (Numbered σ)) : Badge :=
  .module l.unit.generation l.unit.place

namespace Fanout

variable {ρ : Type} [ReporterUnit ρ]

theorem historyOf_sweep {σ : Type} (f : σ → σ × List Signal) (l : List σ) :
    historyOf (sweep f l).2 = l.flatMap fun s => historyOf (f s).2 := by
  induction l with
  | nil => rfl
  | cons s rest ih => rw [sweep, historyOf_append, ih, List.flatMap_cons]

theorem historyOf_deliver (m : Measurement) (r : Numbered ρ) : historyOf (deliver m r).2 = [] := by
  unfold deliver
  simp only
  split <;> rfl

theorem historyOf_take (os : List Offer) (f : Fanout (Numbered ρ)) :
    historyOf (f.take os).2 = [] := by
  induction os generalizing f with
  | nil => rfl
  | cons o os ih =>
    have hvisit (r : Numbered ρ) : historyOf (visit o r).2 = [] := by
      unfold visit
      split
      · exact historyOf_deliver o.measurement r
      · rfl
    have hpublish : historyOf (.counted (.measurements o.name) ::
        (sweep (visit o) f.reporters).2) = [] := by
      change historyOf (sweep (visit o) f.reporters).2 = []
      rw [historyOf_sweep, List.flatMap_eq_nil_iff]
      exact fun r _ => hvisit r
    simp only [take, publish_eq, historyOf_append, hpublish, ih, List.append_nil]

theorem historyOf_stop (f : Fanout (Numbered ρ)) :
    historyOf f.stop.2 = f.reporters.map fun r => .stopped r.badge 0 := by
  have hone (r : Numbered ρ) : historyOf (stopOne r).2 = [.stopped r.badge 0] := by
    have hsignals : historyOf (ReporterUnit.stop r).signals = [.stopped r.badge 0] := rfl
    unfold stopOne
    simp only
    split
    · rw [historyOf_append, hsignals]
      rfl
    · exact hsignals
  change historyOf (sweep stopOne f.reporters).2 = _
  rw [historyOf_sweep]
  simp only [hone, List.map_eq_flatMap]

end Fanout

namespace LiveModule

variable {μ ρ : Type} [ModuleUnit μ] [ReporterUnit ρ]

def asCalled (l : LiveModule (Numbered (AnyModule μ))) : Occurrence :=
  .called l.badge (AnyModule.running l.unit.unit)

theorem historyOf_publishAll (name : String) (routes : Option (List String))
    (ms : List Measurement) (f : Fanout (Numbered ρ)) :
    historyOf (publishAll name routes ms f).2 = [] := by
  rw [publishAll_eq 0]
  exact Fanout.historyOf_take _ f

theorem historyOf_transform (e : QueryEvent) (l : LiveModule (Numbered (AnyModule μ)))
    (f : Fanout (Numbered ρ)) :
    historyOf (l.transform e f).2.2 = [(l.afterEvent e).asCalled] := by
  have hsignals : historyOf (ModuleUnit.transform e l.unit).1.signals =
      [(l.afterEvent e).asCalled] := rfl
  unfold transform
  simp only
  split
  · rw [historyOf_append, hsignals]
    rfl
  · rw [historyOf_append, hsignals, historyOf_publishAll, List.append_nil]

theorem historyOf_run (call : String) (t : AnyModule μ → ModuleTurn (AnyModule μ))
    (onPanic : String → List Signal) (hpanic : ∀ name, historyOf (onPanic name) = [])
    (l : LiveModule (Numbered (AnyModule μ))) (f : Fanout (Numbered ρ)) :
    historyOf (l.run (fun u => u.turn call (t u.unit)) onPanic f).2.2 =
      historyOf [l.unit.seen l.name call (AnyModule.running (t l.unit.unit).unit)] := by
  let shown := (perform l.name l.routes ((t l.unit.unit).acts.filter Act.emits) f).2
  have hshown : historyOf shown = [] := by
    change historyOf (perform l.name l.routes ((t l.unit.unit).acts.filter Act.emits) f).2 = []
    rw [perform_emits 0]
    exact Fanout.historyOf_take _ f
  change historyOf (l.unit.seen l.name call (AnyModule.running (t l.unit.unit).unit) ::
    shown ++ if (t l.unit.unit).panicked then onPanic l.name else []) = _
  rw [historyOf_append, ← List.singleton_append, historyOf_append, hshown]
  split
  · rw [hpanic, List.append_nil, List.append_nil]
  · exact (List.append_nil _).trans (List.append_nil _)

theorem historyOf_start (now : Nat) (l : LiveModule (Numbered (AnyModule μ)))
    (f : Fanout (Numbered ρ)) :
    historyOf (l.start now f).2.2 = [(l.called (ModuleUnit.start now)).asCalled] :=
  historyOf_run "start" (ModuleUnit.start now) _ (fun _ => rfl) l f

theorem historyOf_tick (now : Nat) (l : LiveModule (Numbered (AnyModule μ)))
    (f : Fanout (Numbered ρ)) : historyOf (l.tick now f).2.2 = [(l.afterTick now).asCalled] :=
  historyOf_run "tick" (ModuleUnit.tick now) _ (fun _ => rfl) l f

theorem historyOf_stop (l : LiveModule (Numbered (AnyModule μ))) (f : Fanout (Numbered ρ)) :
    historyOf (l.stop f).2.2 = [.stopped l.badge 0] := by
  have hseen : historyOf (l.stop f).2.2 =
      [.stopped l.badge (AnyModule.running (ModuleUnit.stop l.unit.unit).unit)] :=
    historyOf_run "stop" ModuleUnit.stop (fun name => [.notice (.stopPanicked name)])
      (fun _ => rfl) l f
  rw [hseen, AnyModule.running_stop]

omit [ModuleUnit μ] [ReporterUnit ρ] in
theorem historyOf_each {call : LiveModule μ → Fanout ρ → LiveModule μ × Fanout ρ × List Signal}
    {tells : LiveModule μ → Occurrence} (h : ∀ l f, historyOf (call l f).2.2 = [tells l])
    (ls : List (LiveModule μ)) (f : Fanout ρ) :
    historyOf (each call ls f).2.2 = ls.map tells := by
  induction ls generalizing f with
  | nil => rfl
  | cons l ls ih =>
    simp only [each, historyOf_append, h, ih, List.map_cons, List.singleton_append]

end LiveModule

namespace Setting

variable {μ ρ : Type} (s : Setting μ ρ) (generation : Nat) (site : Site)

theorem historyOf_buildModule (place : Nat) (e : ModuleEntry) :
    let l? := (Pipeline.buildModule s.numbered.moduleKinds site (e.numbered generation place)).1
    historyOf (Pipeline.buildModule s.numbered.moduleKinds site (e.numbered generation place)).2 =
      l?.toList.map fun l => .built l.badge := by
  have hbuild := s.build_numbered_module e.kind generation place site e
  unfold Pipeline.buildModule
  rw [show (e.numbered generation place).kind = e.kind from rfl, hbuild]
  cases hc : (s.moduleKinds.build e.kind e site).outcome <;>
    simp only [Construction.numbered, hc] <;> rfl

theorem historyOf_buildModules (i : Nat) (es : List ModuleEntry) :
    let built := Pipeline.buildModules s.numbered.moduleKinds site
      ((es.zipIdx i).map fun e => e.1.numbered generation e.2)
    historyOf built.2 = built.1.map fun l => .built l.badge := by
  induction es generalizing i with
  | nil => rfl
  | cons e es ih =>
    simp only [List.zipIdx_cons, List.map_cons, Pipeline.buildModules, historyOf_append, ih,
      historyOf_buildModule, List.map_append]

theorem historyOf_buildOne (place : Nat) (e : ReporterEntry) :
    let r? := (Fanout.buildOne s.numbered.reporterKinds site (e.numbered generation place)).1
    historyOf (Fanout.buildOne s.numbered.reporterKinds site (e.numbered generation place)).2 =
      r?.toList.map fun r => .built r.badge := by
  have hbuild := s.build_numbered_reporter e.kind generation place site e
  unfold Fanout.buildOne
  rw [show (e.numbered generation place).kind = e.kind from rfl, hbuild]
  cases hc : (s.reporterKinds.build e.kind e site).outcome <;>
    simp only [Construction.numbered, hc] <;> rfl

theorem historyOf_buildAll (i : Nat) (es : List ReporterEntry) :
    let built := Fanout.buildAll s.numbered.reporterKinds site
      ((es.zipIdx i).map fun e => e.1.numbered generation e.2)
    historyOf built.2 = built.1.map fun r => .built r.badge := by
  induction es generalizing i with
  | nil => rfl
  | cons e es ih =>
    simp only [List.zipIdx_cons, List.map_cons, Fanout.buildAll, historyOf_append, ih,
      historyOf_buildOne, List.map_append]

theorem badges_buildModules (i : Nat) (es : List ModuleEntry) :
    ((Pipeline.buildModules s.numbered.moduleKinds site
      ((es.zipIdx i).map fun e => e.1.numbered generation e.2)).1.map LiveModule.badge).Sublist
      ((List.range' i es.length).map (.module generation)) := by
  induction es generalizing i with
  | nil => exact .slnil
  | cons e es ih =>
    simp only [List.zipIdx_cons, List.map_cons, Pipeline.buildModules, List.map_append,
      List.length_cons, List.range'_succ, buildModule_numbered]
    cases (Pipeline.buildModule s.moduleKinds site e).1 with
    | none => exact (ih (i + 1)).cons _
    | some l => exact (ih (i + 1)).cons_cons _

theorem badges_buildAll (i : Nat) (es : List ReporterEntry) :
    ((Fanout.buildAll s.numbered.reporterKinds site
      ((es.zipIdx i).map fun e => e.1.numbered generation e.2)).1.map Numbered.badge).Sublist
      ((List.range' i es.length).map (.reporter generation)) := by
  induction es generalizing i with
  | nil => exact .slnil
  | cons e es ih =>
    simp only [List.zipIdx_cons, List.map_cons, Fanout.buildAll, List.map_append,
      List.length_cons, List.range'_succ, buildOne_numbered]
    cases (Fanout.buildOne s.reporterKinds site e).1 with
    | none => exact (ih (i + 1)).cons _
    | some r => exact (ih (i + 1)).cons_cons _

end Setting

end QueryWatch
