import QueryWatch.Proofs.Operations.FreshStart
import QueryWatch.Reporters

namespace QueryWatch

/-- A list that is made up of two others, each in its order. -/
inductive Interleaved {α : Type} : List α → List α → List α → Prop
  | nil : Interleaved [] [] []
  | left {xs ys zs : List α} (a : α) (h : Interleaved xs ys zs) : Interleaved (a :: xs) ys (a :: zs)
  | right {xs ys zs : List α} (a : α) (h : Interleaved xs ys zs) : Interleaved xs (a :: ys) (a :: zs)

namespace Interleaved

variable {α : Type} {xs ys zs xs' ys' zs' : List α}

theorem nil_right (xs : List α) : Interleaved xs [] xs := by
  induction xs with
  | nil => exact .nil
  | cons a xs ih => exact .left a ih

theorem nil_left (ys : List α) : Interleaved [] ys ys := by
  induction ys with
  | nil => exact .nil
  | cons a ys ih => exact .right a ih

theorem append (h : Interleaved xs ys zs) (h' : Interleaved xs' ys' zs') :
    Interleaved (xs ++ xs') (ys ++ ys') (zs ++ zs') := by
  induction h with
  | nil => exact h'
  | left a h ih => exact .left a ih
  | right a h ih => exact .right a ih

theorem appendLeft (h : Interleaved xs ys zs) (more : List α) :
    Interleaved (xs ++ more) ys (zs ++ more) := by
  have hmore := h.append (nil_right more)
  rwa [List.append_nil] at hmore

theorem tally_eq {shown lost both : List Signal} (h : Interleaved shown lost both) (k : Counter) :
    tally k both = tally k shown + tally k lost := by
  induction h with
  | nil => rfl
  | left a h ih =>
    simp only [tally, List.countP_cons] at ih ⊢
    omega
  | right a h ih =>
    simp only [tally, List.countP_cons] at ih ⊢
    omega

end Interleaved

namespace Construction

variable {α : Type} {c : Construction α}

def Fails (c : Construction α) : Prop :=
  ∀ u, c.outcome ≠ .built u

instance (c : Construction α) : Decidable c.Fails :=
  match h : c.outcome with
  | .built u => isFalse fun hc => hc u h
  | .refused _ => isTrue fun u hu => by cases h.symm.trans hu
  | .panicked => isTrue fun u hu => by cases h.symm.trans hu

/-- What is shown of an attempt that gives no unit: what it has shown itself, a count and a record. -/
def mishap (counter : Counter) (refusal : BuildError → Notice) (panic : Notice) (c : Construction α) :
    List Signal :=
  c.signals ++ [.counted counter, .notice (match c.outcome with
    | .refused e => refusal e
    | _ => panic)]

@[simp] theorem tally_mishap (k counter : Counter) (refusal : BuildError → Notice) (panic : Notice)
    (c : Construction α) :
    tally k (c.mishap counter refusal panic) = tally k c.signals + if counter = k then 1 else 0 := by
  rw [mishap, tally_append, tally_counted, tally_notice, tally_nil, Nat.zero_add]

end Construction

theorem tally_mishaps {ε α : Type} (k : Counter) (attempt : ε → Construction α) (counter : ε → Counter)
    (refusal : ε → BuildError → Notice) (panic : ε → Notice) (lost : List ε) :
    tally k (lost.flatMap fun e => (attempt e).mishap (counter e) (refusal e) (panic e)) =
      tally k (lost.flatMap fun e => (attempt e).signals) + lost.countP fun e => counter e = k := by
  induction lost with
  | nil => rfl
  | cons e lost ih =>
    simp only [List.flatMap_cons, tally_append, Construction.tally_mishap, List.countP_cons,
      decide_eq_true_eq, ih]
    omega

def gather {ε α : Type} (f : ε → Option α × List Signal) : List ε → List α × List Signal
  | [] => ([], [])
  | e :: es => ((f e).1.toList ++ (gather f es).1, (f e).2 ++ (gather f es).2)

theorem gather_interleaved {ε α : Type} {f : ε → Option α × List Signal} {mishap : ε → List Signal}
    {es lost all : List ε} (h : Interleaved es lost all) (hlost : ∀ e ∈ lost, f e = (none, mishap e)) :
    (gather f all).1 = (gather f es).1 ∧
      Interleaved (gather f es).2 (lost.flatMap mishap) (gather f all).2 := by
  induction h with
  | nil => exact ⟨rfl, .nil⟩
  | left e h ih =>
    obtain ⟨hunits, hshown⟩ := ih hlost
    refine ⟨?_, ?_⟩
    · rw [gather, gather, hunits]
    · exact (Interleaved.nil_right (f e).2).append hshown
  | right e h ih =>
    obtain ⟨hnone, hmore⟩ := List.forall_mem_cons.1 hlost
    obtain ⟨hunits, hshown⟩ := ih hmore
    refine ⟨?_, ?_⟩
    · rw [gather, hnone, hunits]
      rfl
    · rw [gather, hnone, List.flatMap_cons]
      exact (Interleaved.nil_left (mishap e)).append hshown

namespace Fanout

variable {ρ : Type} (r : Registry ReporterEntry ρ) (site : Site)

theorem buildAll_eq (es : List ReporterEntry) : buildAll r site es = gather (buildOne r site) es := by
  induction es with
  | nil => rfl
  | cons e es ih =>
    rw [buildAll, ih]
    rfl

def mishap (e : ReporterEntry) : List Signal :=
  (r.build e.kind e site).mishap (.reporterInitFailures e.kind) (.reporterNotBuilt e.kind)
    (.reporterBuildPanicked e.kind)

variable {r site}

theorem buildOne_of_fails {e : ReporterEntry} (h : (r.build e.kind e site).Fails) :
    buildOne r site e = (none, mishap r site e) := by
  unfold buildOne mishap Construction.mishap
  cases ho : (r.build e.kind e site).outcome with
  | built u => exact absurd ho (h u)
  | refused error => simp only [ho]
  | panicked => simp only [ho]

theorem build_interleaved {es lost all : List ReporterEntry} (h : Interleaved es lost all)
    (hlost : ∀ e ∈ lost, (r.build e.kind e site).Fails) :
    (build r site all).1 = (build r site es).1 ∧
      Interleaved (build r site es).2 (lost.flatMap (mishap r site)) (build r site all).2 := by
  obtain ⟨hunits, hshown⟩ := gather_interleaved h fun e he => buildOne_of_fails (hlost e he)
  rw [← buildAll_eq, ← buildAll_eq] at hunits hshown
  unfold build
  simp only [hunits]
  -- Whether there is a warning depends on the reporters that were built alone.
  exact ⟨trivial, hshown.appendLeft _⟩

end Fanout

namespace Pipeline

variable {μ : Type} (r : Registry ModuleEntry μ) (site : Site)

theorem buildModules_eq (es : List ModuleEntry) :
    buildModules r site es = gather (buildModule r site) es := by
  induction es with
  | nil => rfl
  | cons e es ih =>
    rw [buildModules, ih]
    rfl

def mishap (e : ModuleEntry) : List Signal :=
  (r.build e.kind e site).mishap (.moduleInitFailures e.kind) (.moduleNotBuilt e.kind)
    (.moduleBuildPanicked e.kind)

variable {r site}

theorem buildModule_of_fails {e : ModuleEntry} (h : (r.build e.kind e site).Fails) :
    buildModule r site e = (none, mishap r site e) := by
  unfold buildModule mishap Construction.mishap
  cases ho : (r.build e.kind e site).outcome with
  | built u => exact absurd ho (h u)
  | refused error => simp only [ho]
  | panicked => simp only [ho]

theorem buildModules_interleaved {es lost all : List ModuleEntry} (h : Interleaved es lost all)
    (hlost : ∀ e ∈ lost, (r.build e.kind e site).Fails) :
    (buildModules r site all).1 = (buildModules r site es).1 ∧
      Interleaved (buildModules r site es).2 (lost.flatMap (mishap r site))
        (buildModules r site all).2 := by
  rw [buildModules_eq, buildModules_eq]
  exact gather_interleaved h fun e he => buildModule_of_fails (hlost e he)

end Pipeline

/-- A configuration with entries put in, wherever, that cannot be built. -/
structure Misfits {μ ρ : Type} (s : Setting μ ρ) (c c' : Configuration) (ms : List ModuleEntry)
    (rs : List ReporterEntry) : Prop where
  global : c'.global = c.global
  modules : Interleaved c.modules ms c'.modules
  reporters : Interleaved c.reporters rs c'.reporters
  modules_fail : ∀ e ∈ ms, (s.moduleKinds.build e.kind e ⟨c.global, s.network⟩).Fails
  reporters_fail : ∀ e ∈ rs, (s.reporterKinds.build e.kind e ⟨c.global, s.network⟩).Fails

namespace Setting

variable {μ ρ : Type} (s : Setting μ ρ) (g : GlobalSettings) (ms : List ModuleEntry)
  (rs : List ReporterEntry)

def mishaps : List Signal :=
  rs.flatMap (Fanout.mishap s.reporterKinds ⟨g, s.network⟩) ++
    ms.flatMap (Pipeline.mishap s.moduleKinds ⟨g, s.network⟩)

def attempts : List Signal :=
  (rs.flatMap fun e => (s.reporterKinds.build e.kind e ⟨g, s.network⟩).signals) ++
    ms.flatMap fun e => (s.moduleKinds.build e.kind e ⟨g, s.network⟩).signals

theorem tally_mishaps (k : Counter) :
    tally k (s.mishaps g ms rs) = tally k (s.attempts g ms rs) +
      (rs.countP fun e => Counter.reporterInitFailures e.kind = k) +
      ms.countP fun e => Counter.moduleInitFailures e.kind = k := by
  have hreporters := QueryWatch.tally_mishaps k
    (fun e : ReporterEntry => s.reporterKinds.build e.kind e ⟨g, s.network⟩)
    (fun e => .reporterInitFailures e.kind) (fun e => .reporterNotBuilt e.kind)
    (fun e => .reporterBuildPanicked e.kind) rs
  have hmodules := QueryWatch.tally_mishaps k
    (fun e : ModuleEntry => s.moduleKinds.build e.kind e ⟨g, s.network⟩)
    (fun e => .moduleInitFailures e.kind) (fun e => .moduleNotBuilt e.kind)
    (fun e => .moduleBuildPanicked e.kind) ms
  simp only [mishaps, attempts, tally_append]
  unfold Fanout.mishap Pipeline.mishap
  omega

end Setting

namespace Misfits

variable {μ ρ : Type} {s : Setting μ ρ} {c c' : Configuration} {ms : List ModuleEntry}
  {rs : List ReporterEntry}

theorem built_interleaved (h : Misfits s c c' ms rs) :
    (s.built c').1 = (s.built c).1 ∧
      Interleaved (s.built c).2 (s.mishaps c.global ms rs) (s.built c').2 := by
  obtain ⟨hreporters, hshown⟩ := Fanout.build_interleaved h.reporters h.reporters_fail
  obtain ⟨hmodules, hmore⟩ := Pipeline.buildModules_interleaved h.modules h.modules_fail
  unfold Setting.built Pipeline.build
  simp only [h.global, hreporters, hmodules]
  exact ⟨trivial, hshown.append hmore⟩

variable [ModuleUnit μ] [ReporterUnit ρ]

theorem raised_eq (h : Misfits s c c' ms rs) (now : Nat) : s.raised now c' = s.raised now c := by
  rw [Setting.raised, Setting.raised, h.built_interleaved.1]

theorem raising_interleaved (h : Misfits s c c' ms rs) (now : Nat) :
    Interleaved (s.raising now c) (s.mishaps c.global ms rs) (s.raising now c') := by
  obtain ⟨hbuilt, hshown⟩ := h.built_interleaved
  rw [Setting.raising, Setting.raising, hbuilt]
  exact hshown.appendLeft _

theorem fst_reload (h : Misfits s c c' ms rs) {d : Dispatcher μ ρ} (hd : d.setting = s) :
    (d.reload c').1 = (d.reload c).1 := by
  cases hshut : d.isShutDown with
  | true => rw [d.reload_of_shutDown c' hshut, d.reload_of_shutDown c hshut]
  | false => rw [d.fst_reload c' hshut, d.fst_reload c hshut, hd, h.raised_eq]

theorem reload_interleaved (h : Misfits s c c' ms rs) {d : Dispatcher μ ρ} (hd : d.setting = s)
    (hshut : d.isShutDown = false) :
    Interleaved (d.reload c).2 (s.mishaps c.global ms rs) (d.reload c').2 := by
  unfold Dispatcher.reload
  simp only [d.beginReload_eq c hshut, d.beginReload_eq c' hshut, hd, h.raised_eq]
  exact (h.raising_interleaved d.now).appendLeft _

end Misfits

/-- Two operations that are the same, entries that cannot be built apart. -/
inductive Operation.Padded {μ ρ α : Type} (s : Setting μ ρ) : Operation α → Operation α → Prop
  | same (o : Operation α) : Padded s o o
  | reload {c c' : Configuration} {ms : List ModuleEntry} {rs : List ReporterEntry}
    (h : Misfits s c c' ms rs) : Padded s (.reload c) (.reload c')

namespace Dispatcher

variable {μ ρ α : Type} [ModuleUnit μ] [ReporterUnit ρ] {s : Setting μ ρ} {d : Dispatcher μ ρ}
  {change : α → μ → Option μ}

theorem fst_operate_padded {o o' : Operation α} (h : o.Padded s o') (hd : d.setting = s) :
    (d.operate change o').1 = (d.operate change o).1 := by
  cases h with
  | same => rfl
  | reload hmisfits => exact hmisfits.fst_reload hd

theorem after_padded {os os' : List (Operation α)} (h : List.Forall₂ (Operation.Padded s) os os')
    (hd : d.setting = s) : d.after change os' = d.after change os := by
  induction h generalizing d with
  | nil => rfl
  | cons ho hos ih =>
    rw [after, after, List.foldl_cons, List.foldl_cons, fst_operate_padded ho hd]
    exact ih ((setting_operate change _ d).trans hd)

/-- What entries that cannot be built come to. -/
structure Harmless (s : Setting μ ρ) (change : α → μ → Option μ) (c c' : Configuration)
    (ms : List ModuleEntry) (rs : List ReporterEntry) : Prop where
  built : (s.built c').1 = (s.built c).1
  reload : ∀ d : Dispatcher μ ρ, d.setting = s → (d.reload c').1 = (d.reload c).1
  after : ∀ (now : Nat) (os os' : List (Operation α)), List.Forall₂ (Operation.Padded s) os os' →
    (s.dispatcher now c').after change os' = (s.dispatcher now c).after change os
  deliveries : ∀ (now : Nat) (os os' : List (Operation α)), List.Forall₂ (Operation.Padded s) os os' →
    ∀ o, ((s.dispatcher now c').after change os').deliveries o =
      ((s.dispatcher now c).after change os).deliveries o
  /-- All that is shown beside is what is shown of the misfits. -/
  shown_built : Interleaved (s.built c).2 (s.mishaps c.global ms rs) (s.built c').2
  shown_new : ∀ now, Interleaved
    (new s.moduleKinds s.reporterKinds s.defaults s.network now c).2 (s.mishaps c.global ms rs)
    (new s.moduleKinds s.reporterKinds s.defaults s.network now c').2
  shown_reload : ∀ d : Dispatcher μ ρ, d.setting = s → d.isShutDown = false →
    Interleaved (d.reload c).2 (s.mishaps c.global ms rs) (d.reload c').2
  counted : ∀ k, tally k (s.built c').2 = tally k (s.built c).2 +
    tally k (s.attempts c.global ms rs) +
    (rs.countP fun e => Counter.reporterInitFailures e.kind = k) +
    ms.countP fun e => Counter.moduleInitFailures e.kind = k

/-- Entries that cannot be built disturb nothing, whatever the kinds and wherever they stand. -/
theorem misfits_harmless {c c' : Configuration} {ms : List ModuleEntry} {rs : List ReporterEntry}
    (h : Misfits s c c' ms rs) (change : α → μ → Option μ) : Harmless s change c c' ms rs := by
  obtain ⟨hbuilt, hshown⟩ := h.built_interleaved
  have hafter (now : Nat) (os os' : List (Operation α))
      (hos : List.Forall₂ (Operation.Padded s) os os') :
      (s.dispatcher now c').after change os' = (s.dispatcher now c).after change os := by
    rw [s.dispatcher_eq, h.raised_eq, ← s.dispatcher_eq]
    exact after_padded hos rfl
  refine
    { built := hbuilt
      reload := fun d hd => h.fst_reload hd
      after := hafter
      deliveries := ?_
      shown_built := hshown
      shown_new := ?_
      shown_reload := fun d hd hshut => h.reload_interleaved hd hshut
      counted := ?_ }
  · intro now os os' hos o
    rw [hafter now os os' hos]
  · intro now
    rw [s.shown_new, s.shown_new]
    exact h.raising_interleaved now
  · intro k
    rw [hshown.tally_eq, s.tally_mishaps]
    omega

/-- The kinds that are there from the start, and one of either sort whose factory panics. -/
def withFaulty : Setting BuiltinModule BuiltinReporter where
  moduleKinds := BuiltinModule.registry.register "faulty" fun _ _ => ⟨.panicked, []⟩
  reporterKinds := BuiltinReporter.registry.register "faulty" fun _ _ => ⟨.panicked, []⟩
  defaults := ⟨"localhost", "cassandra", true, 8998⟩
  network := .isolated

def logAt (level : String) : ReporterEntry :=
  ⟨"log", .ofList [("level", .string level)]⟩

def beatEvery (period : Int) : ModuleEntry :=
  ⟨"heartbeat", none, some ["log"], .ofList [("period", .int period)]⟩

def sound : Configuration where
  global := withFaulty.defaults
  reporters := [logAt "info"]
  modules := [beatEvery 5]

/-- Kinds that nobody knows, options that are wrong and factories that panic stand around the same units. -/
def mixed : Configuration where
  global := withFaulty.defaults
  reporters := [⟨"carbon", ∅⟩, logAt "loud", logAt "info", ⟨"faulty", ∅⟩]
  modules := [⟨"faulty", none, none, ∅⟩, beatEvery 5, beatEvery 0, ⟨"carbon", none, none, ∅⟩]

theorem misfits_harmless_mixed :
    let ms := [⟨"faulty", none, none, ∅⟩, beatEvery 0, ⟨"carbon", none, none, ∅⟩]
    let rs := [⟨"carbon", ∅⟩, logAt "loud", ⟨"faulty", ∅⟩]
    Misfits withFaulty sound mixed ms rs ∧
      Harmless withFaulty (fun (_ : Unit) u => some u) sound mixed ms rs := by
  intro ms rs
  have h : Misfits withFaulty sound mixed ms rs :=
    { global := rfl
      modules := .right _ (.left _ (.right _ (.right _ .nil)))
      reporters := .right _ (.right _ (.left _ (.right _ .nil)))
      modules_fail := by decide +kernel
      reporters_fail := by decide +kernel }
  exact ⟨h, misfits_harmless h _⟩

end Dispatcher

end QueryWatch
