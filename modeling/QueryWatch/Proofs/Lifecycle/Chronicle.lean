import QueryWatch.Proofs.Lifecycle.Settled
import QueryWatch.Proofs.Lifecycle.Sightings
import QueryWatch.Proofs.Lifecycle.Workshop

namespace QueryWatch

def Pipeline.badges {μ ρ : Type} (p : Pipeline (Numbered μ) (Numbered ρ)) : List Badge :=
  p.modules.map LiveModule.badge ++ p.reporters.reporters.map Numbered.badge

namespace Dispatcher

variable {μ ρ : Type} [ModuleUnit μ] [ReporterUnit ρ]

omit [ModuleUnit μ] [ReporterUnit ρ] in
def beginShutdown (d : Dispatcher μ ρ) : Option (Pipeline μ ρ) × Dispatcher μ ρ :=
  if d.isShutDown then (none, d)
  else (some d.live, { d with live := .empty d.defaults, isShutDown := true })

def endShutdown (old : Option (Pipeline μ ρ)) (d : Dispatcher μ ρ) : Dispatcher μ ρ × List Signal :=
  match old with
  | none => (d, [])
  | some old => d.retire old

theorem shutdown_halves (d : Dispatcher μ ρ) :
    d.shutdown = d.beginShutdown.2.endShutdown d.beginShutdown.1 := by
  unfold shutdown beginShutdown
  split <;> rfl

end Dispatcher

/-- A dispatcher with numbered units, and what happened to them. -/
structure Chronicle (μ ρ : Type) where
  dispatcher : Dispatcher (Numbered (AnyModule μ)) (Numbered ρ)
  next : Nat
  history : History

namespace Chronicle

variable {μ ρ : Type} [ModuleUnit μ] [ReporterUnit ρ]

def start (s : Workshop μ ρ) (now : Nat) (c : Configuration) : Chronicle μ ρ :=
  let (dispatcher, shown) := Dispatcher.new s.numbered.moduleKinds s.numbered.reporterKinds
    s.defaults s.network now (c.numbered 0)
  { dispatcher, next := 1, history := historyOf shown ++ [.live dispatcher.live.badges] }

def add (h : Chronicle μ ρ) :
    Operation (SlowQuery.Decider → SlowQuery.Decider) → Chronicle μ ρ
  | .reload c =>
    let (old, replaced, shown) := h.dispatcher.beginReload (c.numbered h.next)
    let (dispatcher, more) := replaced.endReload old
    { dispatcher, next := h.next + 1
      history := h.history ++ historyOf shown ++ [.live replaced.live.badges] ++ historyOf more }
  | .shutdown =>
    let (old, replaced) := h.dispatcher.beginShutdown
    let (dispatcher, more) := replaced.endShutdown old
    { dispatcher, next := h.next + 1
      history := h.history ++ [.live replaced.live.badges] ++ historyOf more }
  | o =>
    let (dispatcher, shown) := h.dispatcher.operate Numbered.retune o
    { h with dispatcher, history := h.history ++ historyOf shown }

def of (s : Workshop μ ρ) (now : Nat) (c : Configuration)
    (os : List (Operation (SlowQuery.Decider → SlowQuery.Decider))) : Chronicle μ ρ :=
  os.foldl add (start s now c)

theorem of_concat (s : Workshop μ ρ) (now : Nat) (c : Configuration)
    (os : List (Operation (SlowQuery.Decider → SlowQuery.Decider)))
    (o : Operation (SlowQuery.Decider → SlowQuery.Decider)) :
    of s now c (os ++ [o]) = (of s now c os).add o :=
  List.foldl_append

theorem dispatcher_add (h : Chronicle μ ρ)
    (o : Operation (SlowQuery.Decider → SlowQuery.Decider)) :
    (h.add o).dispatcher = (h.dispatcher.operate Numbered.retune (o.numbered h.next)).1 := by
  cases o with
  | shutdown => exact congrArg Prod.fst h.dispatcher.shutdown_halves.symm
  | reload c => rfl
  | attend o => rfl
  | elapse now => rfl
  | manage f => rfl

end Chronicle

namespace Fanout

variable {ρ : Type} [ReporterUnit ρ]

theorem badges_take (os : List Offer) (f : Fanout (Numbered ρ)) :
    (f.take os).1.reporters.map Numbered.badge = f.reporters.map Numbered.badge := by
  rw [reporters_take, List.map_map]
  apply List.map_congr_left
  intro r _
  rw [Function.comp_apply, Numbered.fed_eq]
  rfl

end Fanout

namespace Pipeline

variable {μ ρ : Type} [ModuleUnit μ] [ReporterUnit ρ]

theorem badges_start (now : Nat) (p : Pipeline (Numbered (AnyModule μ)) (Numbered ρ)) :
    (p.start now).1.badges = p.badges := by
  rw [fst_start]
  simp only [badges, Fanout.badges_take, List.map_map]
  rfl

theorem historyOf_start (now : Nat) (p : Pipeline (Numbered (AnyModule μ)) (Numbered ρ)) :
    historyOf (p.start now).2 = (p.start now).1.modules.map LiveModule.asCalled := by
  rw [fst_start, List.map_map]
  exact LiveModule.historyOf_each (LiveModule.historyOf_start now) p.modules p.reporters

omit [ModuleUnit μ] [ReporterUnit ρ] in
theorem order_badges (p : Pipeline (Numbered μ) (Numbered ρ)) :
    p.badges.Pairwise fun b b' => b.isModule = false → b'.isModule = false := by
  rw [badges, List.pairwise_append]
  refine ⟨?_, ?_, ?_⟩
  · rw [List.pairwise_map]
    exact List.pairwise_of_forall fun l l' h => absurd h Bool.false_ne_true.symm
  · rw [List.pairwise_map]
    exact List.pairwise_of_forall fun _ _ _ => rfl
  · intro b hb b' _ hmodule
    obtain ⟨l, -, rfl⟩ := List.mem_map.1 hb
    cases hmodule

end Pipeline

theorem Dispatcher.badges_retire {μ ρ : Type} [ModuleUnit μ] [ReporterUnit ρ]
    (old : Pipeline (Numbered (AnyModule μ)) (Numbered ρ))
    (d : Dispatcher (Numbered (AnyModule μ)) (Numbered ρ)) :
    (retire old d).1.live.badges = d.live.badges := by
  rw [fst_retire]
  simp only [Pipeline.badges, Fanout.badges_take]

/-- What is seen of a retirement: each unit is stopped, the modules first. -/
theorem Dispatcher.historyOf_retire {μ ρ : Type} [ModuleUnit μ] [ReporterUnit ρ]
    (old : Pipeline (Numbered (AnyModule μ)) (Numbered ρ))
    (d : Dispatcher (Numbered (AnyModule μ)) (Numbered ρ)) :
    historyOf (retire old d).2 = old.badges.map (.stopped · 0) := by
  have hmodules := LiveModule.historyOf_each LiveModule.historyOf_stop old.modules
    d.live.reporters
  have hreporters := old.reporters.historyOf_stop
  simp only [retire, historyOf_append, hmodules, hreporters, Pipeline.badges, List.map_append,
    List.map_map]
  rfl

namespace Setting

variable {μ ρ : Type} (s : Setting (AnyModule μ) ρ) (g : Nat) (c : Configuration)

theorem historyOf_build_reporters (r : Registry ReporterEntry (Numbered ρ)) (site : Site)
    (es : List ReporterEntry) :
    historyOf (Fanout.build r site es).2 = historyOf (Fanout.buildAll r site es).2 := by
  unfold Fanout.build
  simp only [historyOf_append]
  split
  · exact List.append_nil _
  · exact List.append_nil _

theorem historyOf_built :
    historyOf (s.numbered.built (c.numbered g)).2 =
      ((s.numbered.built (c.numbered g)).1.reporters.reporters.map Numbered.badge ++
        (s.numbered.built (c.numbered g)).1.modules.map LiveModule.badge).map .built := by
  have hmodules := s.historyOf_buildModules g ⟨c.global, s.network⟩ 0 c.modules
  have hreporters := s.historyOf_buildAll g ⟨c.global, s.network⟩ 0 c.reporters
  simp only [built, Pipeline.build, historyOf_append, historyOf_build_reporters,
    List.map_append, List.map_map]
  exact congrArg₂ (· ++ ·) hreporters hmodules

theorem historyOf_raising [ModuleUnit μ] [ReporterUnit ρ] (now : Nat) :
    historyOf (s.numbered.raising now (c.numbered g)) =
      ((s.numbered.built (c.numbered g)).1.reporters.reporters.map Numbered.badge ++
        (s.numbered.built (c.numbered g)).1.modules.map LiveModule.badge).map .built ++
      (s.numbered.raised now (c.numbered g)).modules.map LiveModule.asCalled := by
  rw [raising, historyOf_append, historyOf_built, Pipeline.historyOf_start]
  rfl

theorem badges_sublist :
    (s.numbered.built (c.numbered g)).1.badges.Sublist
      ((List.range' 0 c.modules.length).map (.module g) ++
        (List.range' 0 c.reporters.length).map (.reporter g)) :=
  List.Sublist.append (s.badges_buildModules g ⟨c.global, s.network⟩ 0 c.modules)
    (s.badges_buildAll g ⟨c.global, s.network⟩ 0 c.reporters)

theorem generation_of_mem {b : Badge} (hb : b ∈ (s.numbered.built (c.numbered g)).1.badges) :
    b.generation = g := by
  rcases List.mem_append.1 ((s.badges_sublist g c).subset hb) with hb | hb
  · obtain ⟨i, -, rfl⟩ := List.mem_map.1 hb
    rfl
  · obtain ⟨i, -, rfl⟩ := List.mem_map.1 hb
    rfl

theorem nodup_badges : (s.numbered.built (c.numbered g)).1.badges.Nodup := by
  refine (s.badges_sublist g c).nodup (List.nodup_append'.2 ⟨?_, ?_, ?_⟩)
  · exact List.Nodup.map (fun i j h => by cases h; rfl) List.nodup_range'
  · exact List.Nodup.map (fun i j h => by cases h; rfl) List.nodup_range'
  · intro b hmodule hreporter
    obtain ⟨i, -, rfl⟩ := List.mem_map.1 hmodule
    obtain ⟨j, -, heq⟩ := List.mem_map.1 hreporter
    cases heq

end Setting

end QueryWatch
