import QueryWatch.Proofs.Delivery.Attending

namespace QueryWatch

/-- Something that is asked of a dispatcher; the changes are those that modules can be put through. -/
inductive Operation (α : Type)
  | attend (o : Occasion)
  | elapse (now : Nat)
  /-- The first module that a change applies to is changed. -/
  | manage (a : α)
  | reload (c : Configuration)
  | shutdown

namespace LiveModule

variable {μ ρ : Type} [ModuleUnit μ] [ReporterUnit ρ]

def called (call : μ → ModuleTurn μ) (l : LiveModule μ) : LiveModule μ :=
  { l with unit := (call l.unit).unit }

def callOffers (call : μ → ModuleTurn μ) (l : LiveModule μ) : List Offer :=
  (emitted (call l.unit).acts).map fun m => ⟨0, l.name, l.routes, m⟩

/-- What modules emit while they are stopped. -/
def farewell (ls : List (LiveModule μ)) : List Offer :=
  ls.flatMap (callOffers ModuleUnit.stop)

theorem fst_each_run (call : μ → ModuleTurn μ) (onPanic : String → List Signal)
    (ls : List (LiveModule μ)) (f : Fanout ρ) :
    (each (run call onPanic) ls f).1 = ls.map (called call) ∧
      (each (run call onPanic) ls f).2.1 = (f.take (ls.flatMap (callOffers call))).1 := by
  induction ls generalizing f with
  | nil => exact ⟨rfl, rfl⟩
  | cons l ls ih =>
    have hreporters : (l.run call onPanic f).2.1 = (f.take (l.callOffers call)).1 :=
      fst_perform 0 l.name l.routes _ f
    obtain ⟨hunits, hrest⟩ := ih (l.run call onPanic f).2.1
    refine ⟨?_, ?_⟩
    · simp only [each, List.map_cons, hunits]
      rfl
    · simp only [each, List.flatMap_cons, Fanout.fst_take_append, ← hreporters, hrest]

end LiveModule

namespace Fanout

variable {ρ : Type} [ReporterUnit ρ]

omit [ReporterUnit ρ] in
theorem ext {f g : Fanout ρ} (h : f.reporters = g.reporters) : f = g := by
  cases f
  cases g
  cases h
  rfl

@[simp] theorem fst_take_empty (os : List Offer) : (take os ({} : Fanout ρ)).1 = {} :=
  ext (by rw [reporters_take]; rfl)

theorem kinds_take (os : List Offer) (f : Fanout ρ) : (take os f).1.kinds = f.kinds := by
  rw [kinds, kinds, reporters_take, List.map_map]
  apply List.map_congr_left
  intro r _
  exact ReporterUnit.kind_fed _ r

end Fanout

theorem Pipeline.fst_start {μ ρ : Type} [ModuleUnit μ] [ReporterUnit ρ] (now : Nat)
    (p : Pipeline μ ρ) :
    (p.start now).1 = { p with
      modules := p.modules.map (LiveModule.called (ModuleUnit.start now))
      reporters := (p.reporters.take
        (p.modules.flatMap (LiveModule.callOffers (ModuleUnit.start now)))).1 } := by
  obtain ⟨hmodules, hreporters⟩ := LiveModule.fst_each_run (ModuleUnit.start now)
    (fun name => [.notice (.startPanicked name)]) p.modules p.reporters
  rw [← hmodules, ← hreporters]
  rfl

/-- What a dispatcher is given once and for all. -/
structure Setting (μ ρ : Type) where
  moduleKinds : Registry ModuleEntry μ
  reporterKinds : Registry ReporterEntry ρ
  defaults : GlobalSettings
  network : Sink.Network

namespace Setting

variable {μ ρ : Type} [ModuleUnit μ] [ReporterUnit ρ]

omit [ModuleUnit μ] [ReporterUnit ρ] in
def built (s : Setting μ ρ) (c : Configuration) : Pipeline μ ρ × List Signal :=
  Pipeline.build s.moduleKinds s.reporterKinds s.network c

def raised (s : Setting μ ρ) (now : Nat) (c : Configuration) : Pipeline μ ρ :=
  ((s.built c).1.start now).1

def raising (s : Setting μ ρ) (now : Nat) (c : Configuration) : List Signal :=
  (s.built c).2 ++ ((s.built c).1.start now).2

def dispatcher (s : Setting μ ρ) (now : Nat) (c : Configuration) : Dispatcher μ ρ :=
  (Dispatcher.new s.moduleKinds s.reporterKinds s.defaults s.network now c).1

theorem dispatcher_eq (s : Setting μ ρ) (now : Nat) (c : Configuration) :
    s.dispatcher now c =
      { live := s.raised now c
        moduleKinds := s.moduleKinds
        reporterKinds := s.reporterKinds
        defaults := s.defaults
        network := s.network
        now := now } :=
  rfl

theorem shown_new (s : Setting μ ρ) (now : Nat) (c : Configuration) :
    (Dispatcher.new s.moduleKinds s.reporterKinds s.defaults s.network now c).2 =
      s.raising now c :=
  List.append_nil _

end Setting

namespace Dispatcher

variable {μ ρ α : Type} [ModuleUnit μ] [ReporterUnit ρ]

def setting (d : Dispatcher μ ρ) : Setting μ ρ :=
  ⟨d.moduleKinds, d.reporterKinds, d.defaults, d.network⟩

def operate (change : α → μ → Option μ) :
    Operation α → Dispatcher μ ρ → Dispatcher μ ρ × List Signal
  | .attend o, d => d.attend o
  | .elapse now, d => ({ d with now }, [])
  | .manage a, d => ((d.withModule fun u => (change a u).map (·, ())).1, [])
  | .reload c, d => d.reload c
  | .shutdown, d => d.shutdown

def after (change : α → μ → Option μ) (os : List (Operation α)) (d : Dispatcher μ ρ) :
    Dispatcher μ ρ :=
  os.foldl (fun d o => (d.operate change o).1) d

theorem after_append (change : α → μ → Option μ) (os more : List (Operation α))
    (d : Dispatcher μ ρ) : d.after change (os ++ more) = (d.after change os).after change more :=
  List.foldl_append

theorem after_concat (change : α → μ → Option μ) (os : List (Operation α)) (o : Operation α)
    (d : Dispatcher μ ρ) :
    d.after change (os ++ [o]) = ((d.after change os).operate change o).1 :=
  d.after_append change os [o]

theorem fst_attend (o : Occasion) (d : Dispatcher μ ρ) :
    (d.attend o).1 = { d with live := { d.live with
      modules := o.after d.live.modules
      reporters := (d.live.reporters.take (o.offers d.live.modules)).1 } } := by
  obtain ⟨hmodules, hreporters⟩ := d.live_attend o
  rw [← hmodules, ← hreporters]
  cases o with
  | event e => rfl
  | tick i now =>
    simp only [attend, Pipeline.tickAt]
    cases d.live.modules[i]? <;> rfl

omit [ModuleUnit μ] [ReporterUnit ρ] in
theorem fst_withModule {β : Type} (f : μ → Option (μ × β)) (d : Dispatcher μ ρ) :
    (d.withModule f).1 =
      { d with live := { d.live with modules := (withModule.go f d.live.modules).1 } } :=
  rfl

/-- All that comes of a pipeline that is retired is what its modules emit while they are stopped. -/
theorem fst_retire (old : Pipeline μ ρ) (d : Dispatcher μ ρ) :
    (retire old d).1 = { d with live := { d.live with
      reporters := (d.live.reporters.take (LiveModule.farewell old.modules)).1 } } := by
  have hreporters : (LiveModule.each LiveModule.stop old.modules d.live.reporters).2.1 =
      (d.live.reporters.take (LiveModule.farewell old.modules)).1 :=
    (LiveModule.fst_each_run ModuleUnit.stop (fun name => [.notice (.stopPanicked name)])
      old.modules d.live.reporters).2
  rw [← hreporters]
  rfl

theorem beginReload_eq (c : Configuration) (d : Dispatcher μ ρ) (h : d.isShutDown = false) :
    d.beginReload c = (some d.live, { d with live := d.setting.raised d.now c },
      d.setting.raising d.now c) := by
  rw [beginReload, if_neg (by rw [h]; exact Bool.false_ne_true)]
  rfl

theorem fst_reload (c : Configuration) (d : Dispatcher μ ρ) (h : d.isShutDown = false) :
    (d.reload c).1 = { d with live := { d.setting.raised d.now c with
      reporters := ((d.setting.raised d.now c).reporters.take
        (LiveModule.farewell d.live.modules)).1 } } := by
  simp only [reload, d.beginReload_eq c h, endReload]
  exact fst_retire d.live { d with live := d.setting.raised d.now c }

theorem fst_reload_of_silent (c : Configuration) (d : Dispatcher μ ρ) (h : d.isShutDown = false)
    (hsilent : LiveModule.farewell d.live.modules = []) :
    (d.reload c).1 = d.setting.dispatcher d.now c := by
  rw [fst_reload c d h, hsilent, Setting.dispatcher_eq, h]
  rfl

theorem reload_of_shutDown (c : Configuration) (d : Dispatcher μ ρ) (h : d.isShutDown = true) :
    d.reload c = (d, [.notice .reloadIgnored]) := by
  simp [reload, beginReload, endReload, h]

theorem fst_shutdown (d : Dispatcher μ ρ) (h : d.isShutDown = false) :
    d.shutdown.1 = { d with live := .empty d.defaults, isShutDown := true } := by
  rw [shutdown, if_neg (by rw [h]; exact Bool.false_ne_true)]
  simp only [fst_retire, Pipeline.empty, Fanout.fst_take_empty]

theorem shutdown_of_shutDown (d : Dispatcher μ ρ) (h : d.isShutDown = true) :
    d.shutdown = (d, []) := by
  rw [shutdown, if_pos h]

end Dispatcher

end QueryWatch
