import QueryWatch.Proofs.Lifecycle.Numbered

namespace QueryWatch

namespace Numbered

variable {μ : Type}

def retune (f : SlowQuery.Decider → SlowQuery.Decider) (u : Numbered (AnyModule μ)) :
    Option (Numbered (AnyModule μ)) :=
  (AnyModule.retune f u.unit).map fun unit => { u with unit }

variable {f : SlowQuery.Decider → SlowQuery.Decider} {u : Numbered (AnyModule μ)}

theorem retune_of_none (h : AnyModule.retune f u.unit = none) : retune f u = none := by
  rw [retune, h, Option.map_none]

theorem retune_of_some {unit : AnyModule μ} (h : AnyModule.retune f u.unit = some unit) :
    retune f u = some { u with unit } := by
  rw [retune, h, Option.map_some]

theorem emitted_turn [ModuleUnit μ] (u : Numbered (AnyModule μ)) (call : String)
    (t : ModuleTurn (AnyModule μ)) :
    LiveModule.emitted (u.turn call t).acts = LiveModule.emitted t.acts :=
  emitted_filter t.acts

end Numbered

namespace LiveModule

variable {μ σ : Type}

def numbered (generation place : Nat) (l : LiveModule σ) : LiveModule (Numbered σ) :=
  ⟨⟨generation, place, l.unit⟩, l.routes⟩

def unnumbered (l : LiveModule (Numbered σ)) : LiveModule σ :=
  ⟨l.unit.unit, l.routes⟩

variable [ModuleUnit μ]

theorem eventOffersFrom_unnumbered (e : QueryEvent) (i : Nat)
    (ls : List (LiveModule (Numbered (AnyModule μ)))) :
    eventOffersFrom e i ls = eventOffersFrom e i (ls.map unnumbered) := by
  induction ls generalizing i with
  | nil => rfl
  | cons l ls ih => exact congrArg (_ ++ ·) (ih (i + 1))

theorem tickOffers_unnumbered (i now : Nat) (l : LiveModule (Numbered (AnyModule μ))) :
    l.tickOffers i now = l.unnumbered.tickOffers i now := by
  have hemitted : emitted (ModuleUnit.tick now l.unit).acts =
      emitted (ModuleUnit.tick now l.unnumbered.unit).acts := Numbered.emitted_turn ..
  rw [tickOffers, tickOffers, hemitted]
  rfl

theorem callOffers_start_unnumbered (now : Nat) (l : LiveModule (Numbered (AnyModule μ))) :
    l.callOffers (ModuleUnit.start now) = l.unnumbered.callOffers (ModuleUnit.start now) := by
  have hemitted : emitted (ModuleUnit.start now l.unit).acts =
      emitted (ModuleUnit.start now l.unnumbered.unit).acts := Numbered.emitted_turn ..
  rw [callOffers, callOffers, hemitted]
  rfl

theorem farewell_unnumbered (ls : List (LiveModule (Numbered (AnyModule μ)))) :
    farewell ls = farewell (ls.map unnumbered) := by
  rw [farewell, farewell, List.flatMap_map]
  congr 1
  funext l
  have hemitted : emitted (ModuleUnit.stop l.unit).acts =
      emitted (ModuleUnit.stop l.unnumbered.unit).acts := Numbered.emitted_turn ..
  rw [callOffers, callOffers, hemitted]
  rfl

end LiveModule

namespace Occasion

variable {μ : Type} [ModuleUnit μ]

theorem offers_unnumbered (o : Occasion) (ls : List (LiveModule (Numbered (AnyModule μ)))) :
    o.offers ls = o.offers (ls.map LiveModule.unnumbered) := by
  cases o with
  | event e => exact LiveModule.eventOffersFrom_unnumbered e 0 ls
  | tick i now =>
    simp only [offers, List.getElem?_map]
    cases ls[i]? with
    | none => rfl
    | some l => exact l.tickOffers_unnumbered i now

theorem after_unnumbered (o : Occasion) (ls : List (LiveModule (Numbered (AnyModule μ)))) :
    (o.after ls).map LiveModule.unnumbered = o.after (ls.map LiveModule.unnumbered) := by
  cases o with
  | event e =>
    simp only [after, List.map_map]
    rfl
  | tick i now =>
    simp only [after, List.getElem?_map]
    cases ls[i]? with
    | none => rfl
    | some l =>
      simp only [Option.map_some, List.map_set]
      rfl

end Occasion

namespace Fanout

variable {ρ : Type} [ReporterUnit ρ]

def unnumbered (f : Fanout (Numbered ρ)) : Fanout ρ :=
  ⟨f.reporters.map (·.unit)⟩

theorem unnumbered_take (os : List Offer) (f : Fanout (Numbered ρ)) :
    (f.take os).1.unnumbered = (f.unnumbered.take os).1 := by
  apply ext
  rw [reporters_take, unnumbered, unnumbered, reporters_take, List.map_map, List.map_map]
  apply List.map_congr_left
  intro r _
  rw [Function.comp_apply, Numbered.fed_eq]
  rfl

end Fanout

namespace Pipeline

variable {μ ρ : Type}

def unnumbered (p : Pipeline (Numbered μ) (Numbered ρ)) : Pipeline μ ρ where
  global := p.global
  modules := p.modules.map LiveModule.unnumbered
  reporters := p.reporters.unnumbered

variable [ModuleUnit μ] [ReporterUnit ρ]

theorem unnumbered_start (now : Nat) (p : Pipeline (Numbered (AnyModule μ)) (Numbered ρ)) :
    (p.start now).1.unnumbered = (p.unnumbered.start now).1 := by
  have hoffers : p.modules.flatMap (LiveModule.callOffers (ModuleUnit.start now)) =
      p.unnumbered.modules.flatMap (LiveModule.callOffers (ModuleUnit.start now)) := by
    rw [unnumbered, List.flatMap_map]
    congr 1
    funext l
    exact l.callOffers_start_unnumbered now
  rw [fst_start, fst_start]
  simp only [unnumbered, List.map_map, Fanout.unnumbered_take, hoffers]
  rfl

end Pipeline

namespace Setting

variable {μ ρ : Type} (s : Setting μ ρ) (generation : Nat) (site : Site)

theorem buildModule_numbered (place : Nat) (e : ModuleEntry) :
    (Pipeline.buildModule s.numbered.moduleKinds site (e.numbered generation place)).1 =
      (Pipeline.buildModule s.moduleKinds site e).1.map (LiveModule.numbered generation place) := by
  have hbuild := s.build_numbered_module e.kind generation place site e
  unfold Pipeline.buildModule
  rw [show (e.numbered generation place).kind = e.kind from rfl, hbuild]
  cases hc : (s.moduleKinds.build e.kind e site).outcome <;>
    simp only [Construction.numbered, hc] <;> rfl

theorem buildOne_numbered (place : Nat) (e : ReporterEntry) :
    (Fanout.buildOne s.numbered.reporterKinds site (e.numbered generation place)).1 =
      (Fanout.buildOne s.reporterKinds site e).1.map fun unit => ⟨generation, place, unit⟩ := by
  have hbuild := s.build_numbered_reporter e.kind generation place site e
  unfold Fanout.buildOne
  rw [show (e.numbered generation place).kind = e.kind from rfl, hbuild]
  cases hc : (s.reporterKinds.build e.kind e site).outcome <;>
    simp only [Construction.numbered, hc] <;> rfl

theorem buildModules_unnumbered (i : Nat) (es : List ModuleEntry) :
    (Pipeline.buildModules s.numbered.moduleKinds site
      ((es.zipIdx i).map fun e => e.1.numbered generation e.2)).1.map LiveModule.unnumbered =
      (Pipeline.buildModules s.moduleKinds site es).1 := by
  induction es generalizing i with
  | nil => rfl
  | cons e es ih =>
    simp only [List.zipIdx_cons, List.map_cons, Pipeline.buildModules, List.map_append, ih,
      buildModule_numbered]
    cases (Pipeline.buildModule s.moduleKinds site e).1 <;> rfl

theorem buildAll_unnumbered (i : Nat) (es : List ReporterEntry) :
    (Fanout.buildAll s.numbered.reporterKinds site
      ((es.zipIdx i).map fun e => e.1.numbered generation e.2)).1.map (·.unit) =
      (Fanout.buildAll s.reporterKinds site es).1 := by
  induction es generalizing i with
  | nil => rfl
  | cons e es ih =>
    simp only [List.zipIdx_cons, List.map_cons, Fanout.buildAll, List.map_append, ih,
      buildOne_numbered]
    cases (Fanout.buildOne s.reporterKinds site e).1 <;> rfl

theorem build_unnumbered (c : Configuration) :
    (Pipeline.build s.numbered.moduleKinds s.numbered.reporterKinds s.network
      (c.numbered generation)).1.unnumbered =
      (Pipeline.build s.moduleKinds s.reporterKinds s.network c).1 := by
  have hmodules := s.buildModules_unnumbered generation ⟨c.global, s.network⟩ 0 c.modules
  have hreporters := s.buildAll_unnumbered generation ⟨c.global, s.network⟩ 0 c.reporters
  simp only [Pipeline.build, Pipeline.unnumbered, Fanout.build, Fanout.unnumbered,
    Configuration.numbered, hmodules, hreporters]

end Setting

theorem Setting.raised_unnumbered {μ ρ : Type} [ModuleUnit μ] [ReporterUnit ρ]
    (s : Setting (AnyModule μ) ρ) (generation now : Nat) (c : Configuration) :
    (s.numbered.raised now (c.numbered generation)).unnumbered = s.raised now c := by
  rw [raised, Pipeline.unnumbered_start]
  exact congrArg (fun p => (Pipeline.start now p).1) (s.build_unnumbered generation c)

def Operation.numbered {α : Type} (generation : Nat) : Operation α → Operation α
  | .reload c => .reload (c.numbered generation)
  | o => o

namespace Dispatcher

variable {μ ρ : Type} [ModuleUnit μ] [ReporterUnit ρ]
  {d : Dispatcher (Numbered (AnyModule μ)) (Numbered ρ)} {e : Dispatcher (AnyModule μ) ρ}

/-- The dispatcher with numbers is the one without them, apart from the numbers. -/
structure Mirrors (d : Dispatcher (Numbered (AnyModule μ)) (Numbered ρ))
    (e : Dispatcher (AnyModule μ) ρ) : Prop where
  setting : d.setting = e.setting.numbered
  now : d.now = e.now
  isShutDown : d.isShutDown = e.isShutDown
  live : d.live.unnumbered = e.live

theorem Mirrors.attend (h : Mirrors d e) (o : Occasion) : Mirrors (d.attend o).1 (e.attend o).1 := by
  rw [fst_attend, fst_attend, ← h.live]
  refine { h with live := ?_ }
  simp only [Pipeline.unnumbered, o.after_unnumbered, Fanout.unnumbered_take, o.offers_unnumbered]

omit [ModuleUnit μ] in
theorem go_retune (f : SlowQuery.Decider → SlowQuery.Decider)
    (ls : List (LiveModule (Numbered (AnyModule μ)))) :
    (withModule.go (fun u => (Numbered.retune f u).map (·, ())) ls).1.map LiveModule.unnumbered =
      (withModule.go (fun u => (AnyModule.retune f u).map (·, ()))
        (ls.map LiveModule.unnumbered)).1 := by
  induction ls with
  | nil => rfl
  | cons l ls ih =>
    cases hf : AnyModule.retune f l.unit.unit with
    | none =>
      have hplain : AnyModule.retune f l.unnumbered.unit = none := hf
      simp only [withModule.go, List.map_cons, Numbered.retune_of_none hf, hplain, Option.map_none, ih]
    | some v =>
      have hplain : AnyModule.retune f l.unnumbered.unit = some v := hf
      simp only [withModule.go, List.map_cons, Numbered.retune_of_some hf, hplain, Option.map_some]
      rfl

theorem Mirrors.reload (h : Mirrors d e) (generation : Nat) (c : Configuration) :
    Mirrors (d.reload (c.numbered generation)).1 (e.reload c).1 := by
  cases he : e.isShutDown with
  | true =>
    rw [reload_of_shutDown _ d (h.isShutDown.trans he), reload_of_shutDown c e he]
    exact h
  | false =>
    have hraised := e.setting.raised_unnumbered generation e.now c
    rw [fst_reload _ d (h.isShutDown.trans he), fst_reload c e he, ← hraised, h.setting, h.now,
      ← h.live]
    refine { h with live := ?_, now := rfl }
    simp only [Pipeline.unnumbered, Fanout.unnumbered_take, LiveModule.farewell_unnumbered]

theorem Mirrors.shutdown (h : Mirrors d e) : Mirrors d.shutdown.1 e.shutdown.1 := by
  cases he : e.isShutDown with
  | true =>
    rw [shutdown_of_shutDown d (h.isShutDown.trans he), shutdown_of_shutDown e he]
    exact h
  | false =>
    have hdefaults : d.defaults = e.defaults := congrArg Setting.defaults h.setting
    rw [fst_shutdown d (h.isShutDown.trans he), fst_shutdown e he]
    exact { h with live := congrArg Pipeline.empty hdefaults, isShutDown := rfl }

/-- Whatever is asked of both, numbers make no difference. -/
theorem Mirrors.operate (h : Mirrors d e) (generation : Nat)
    (o : Operation (SlowQuery.Decider → SlowQuery.Decider)) :
    Mirrors (d.operate Numbered.retune (o.numbered generation)).1
      (e.operate AnyModule.retune o).1 := by
  cases o with
  | attend o => exact h.attend o
  | elapse now => exact { h with now := rfl }
  | manage f =>
    have hgo : _ = (withModule.go (fun u => (AnyModule.retune f u).map (·, ()))
        d.live.unnumbered.modules).1 := go_retune f d.live.modules
    have hsame : (Operation.manage f).numbered generation = .manage f := rfl
    rw [hsame, Dispatcher.operate, Dispatcher.operate, fst_withModule, fst_withModule, ← h.live,
      ← hgo]
    exact { h with live := rfl }
  | reload c => exact h.reload generation c
  | shutdown => exact h.shutdown

end Dispatcher

end QueryWatch
