import Mathlib.Data.List.Induction
import QueryWatch.Modules
import QueryWatch.Proofs.Delivery.Fairness
import QueryWatch.Proofs.Operations.Reloads

namespace QueryWatch

namespace Fanout

variable {ρ : Type} [ReporterUnit ρ] {f g : Fanout ρ}

/-- The same reporters, of which the first have been given something more at the start. -/
def Strayed (f g : Fanout ρ) : Prop :=
  ∃ (start : Fanout ρ) (strays os : List Offer),
    f = (start.take (strays ++ os)).1 ∧ g = (start.take os).1

theorem Strayed.refl (f : Fanout ρ) : Strayed f f :=
  ⟨f, [], [], rfl, rfl⟩

theorem Strayed.start (strays : List Offer) (f : Fanout ρ) : Strayed (f.take strays).1 f :=
  ⟨f, strays, [], by rw [List.append_nil], rfl⟩

theorem Strayed.take (h : Strayed f g) (os : List Offer) : Strayed (f.take os).1 (g.take os).1 := by
  obtain ⟨start, strays, before, rfl, rfl⟩ := h
  refine ⟨start, strays, before ++ os, ?_, ?_⟩
  · rw [← List.append_assoc, fst_take_append (strays ++ before)]
  · rw [fst_take_append before]

theorem Strayed.kinds_eq (h : Strayed f g) : f.kinds = g.kinds := by
  obtain ⟨start, strays, os, rfl, rfl⟩ := h
  rw [kinds_take, kinds_take]

end Fanout

namespace Dispatcher

variable {μ ρ α : Type} [ModuleUnit μ] [ReporterUnit ρ] {d d' : Dispatcher μ ρ}

def deliveries (o : Occasion) (d : Dispatcher μ ρ) : List (Nat × Measurement) :=
  callsIn (d.observe.attend o).2

theorem deliveries_eq (o : Occasion) (d : Dispatcher μ ρ) :
    d.deliveries o = (o.offers d.live.modules).flatMap (·.calls d.live.reporters.kinds) := by
  have hall := callsIn_observe [o] d
  simp only [attendAll, story, List.append_nil] at hall
  exact hall

/-- Two dispatchers that have nothing but strays between them. -/
structure Alike (d d' : Dispatcher μ ρ) : Prop where
  setting : d.setting = d'.setting
  now : d.now = d'.now
  isShutDown : d.isShutDown = d'.isShutDown
  global : d.live.global = d'.live.global
  modules : d.live.modules = d'.live.modules
  reporters : d.live.reporters.Strayed d'.live.reporters

omit [ModuleUnit μ] in
theorem Alike.refl (d : Dispatcher μ ρ) : Alike d d :=
  ⟨rfl, rfl, rfl, rfl, rfl, .refl _⟩

theorem Alike.deliveries_eq (h : Alike d d') (o : Occasion) : d.deliveries o = d'.deliveries o := by
  rw [d.deliveries_eq, d'.deliveries_eq, h.modules, h.reporters.kinds_eq]

theorem Alike.attend (h : Alike d d') (o : Occasion) : Alike (d.attend o).1 (d'.attend o).1 := by
  rw [fst_attend, fst_attend]
  refine { h with modules := ?_, reporters := ?_ }
  · simp only [h.modules]
  · simp only [h.modules]
    exact h.reporters.take _

omit [ModuleUnit μ] in
theorem Alike.withModule {β : Type} (h : Alike d d') (f : μ → Option (μ × β)) :
    Alike (d.withModule f).1 (d'.withModule f).1 := by
  rw [fst_withModule, fst_withModule, h.modules]
  exact { h with modules := rfl }

theorem Alike.reload (h : Alike d d') (c : Configuration) : Alike (d.reload c).1 (d'.reload c).1 := by
  cases hd : d.isShutDown with
  | true =>
    have hd' : d'.isShutDown = true := h.isShutDown ▸ hd
    rw [reload_of_shutDown c d hd, reload_of_shutDown c d' hd']
    exact h
  | false =>
    have hd' : d'.isShutDown = false := h.isShutDown ▸ hd
    rw [fst_reload c d hd, fst_reload c d' hd', h.modules, h.setting, h.now]
    exact { h with global := rfl, modules := rfl, reporters := .refl _, now := rfl }

theorem Alike.shutdown (h : Alike d d') : Alike d.shutdown.1 d'.shutdown.1 := by
  cases hd : d.isShutDown with
  | true =>
    have hd' : d'.isShutDown = true := h.isShutDown ▸ hd
    rw [shutdown_of_shutDown d hd, shutdown_of_shutDown d' hd']
    exact h
  | false =>
    have hd' : d'.isShutDown = false := h.isShutDown ▸ hd
    rw [fst_shutdown d hd, fst_shutdown d' hd']
    have hdefaults : d.defaults = d'.defaults := congrArg Setting.defaults h.setting
    exact { h with
      global := hdefaults, modules := rfl, reporters := .refl _, isShutDown := rfl }

theorem Alike.operate (h : Alike d d') (change : α → μ → Option μ) (o : Operation α) :
    Alike (d.operate change o).1 (d'.operate change o).1 := by
  cases o with
  | attend o => exact h.attend o
  | elapse now => exact { h with now := rfl }
  | manage a => exact h.withModule _
  | reload c => exact h.reload c
  | shutdown => exact h.shutdown

end Dispatcher

/-- What is known of a dispatcher from what was asked of it. -/
structure Log (α : Type) where
  /-- The configuration of the last reload that was not ignored. -/
  configuration : Configuration
  installed : Nat
  since : List (Operation α) := []
  now : Nat
  isShutDown : Bool := false

namespace Log

variable {α : Type}

def start (now : Nat) (c : Configuration) : Log α where
  configuration := c
  installed := now
  now := now

def add (l : Log α) : Operation α → Log α
  | .reload c =>
    if l.isShutDown then { l with since := l.since ++ [.reload c] } else start l.now c
  | .elapse now => { l with since := l.since ++ [.elapse now], now }
  | .shutdown => { l with since := l.since ++ [.shutdown], isShutDown := true }
  | o => { l with since := l.since ++ [o] }

def of (now : Nat) (c : Configuration) (os : List (Operation α)) : Log α :=
  os.foldl add (start now c)

theorem of_concat (now : Nat) (c : Configuration) (os : List (Operation α)) (o : Operation α) :
    of now c (os ++ [o]) = (of now c os).add o :=
  List.foldl_append

theorem isShutDown_add (l : Log α) (o : Operation α) (h : o ≠ .shutdown) :
    (l.add o).isShutDown = l.isShutDown := by
  cases o with
  | reload c =>
    rw [add]
    split
    · rfl
    · next hl => exact (Bool.eq_false_iff.2 hl).symm
  | shutdown => exact absurd rfl h
  | attend o => rfl
  | elapse now => rfl
  | manage a => rfl

theorem isShutDown_of (now : Nat) (c : Configuration) (os : List (Operation α)) :
    (of now c os).isShutDown = true ↔ .shutdown ∈ os := by
  induction os using List.reverseRecOn with
  | nil => simp [of, start]
  | append_singleton os o ih =>
    rw [of_concat, List.mem_append, List.mem_singleton]
    by_cases ho : o = .shutdown
    · subst ho
      simp [add]
    · rw [isShutDown_add _ o ho, ih]
      exact ⟨.inl, fun h => h.resolve_right fun heq => ho heq.symm⟩

def dispatcher {μ ρ : Type} [ModuleUnit μ] [ReporterUnit ρ] (l : Log α) (s : Setting μ ρ)
    (change : α → μ → Option μ) : Dispatcher μ ρ :=
  (s.dispatcher l.installed l.configuration).after change l.since

end Log

namespace Dispatcher

variable {μ ρ α : Type} [ModuleUnit μ] [ReporterUnit ρ] {d : Dispatcher μ ρ} {s : Setting μ ρ}
  {change : α → μ → Option μ} {l : Log α}

theorem setting_operate (change : α → μ → Option μ) (o : Operation α) (d : Dispatcher μ ρ) :
    (d.operate change o).1.setting = d.setting := by
  cases o with
  | attend o =>
    rw [operate, fst_attend]
    rfl
  | elapse now => rfl
  | manage a => rfl
  | reload c =>
    rw [operate]
    cases hd : d.isShutDown with
    | true => rw [reload_of_shutDown c d hd]
    | false =>
      rw [fst_reload c d hd]
      rfl
  | shutdown =>
    rw [operate]
    cases hd : d.isShutDown with
    | true => rw [shutdown_of_shutDown d hd]
    | false =>
      rw [fst_shutdown d hd]
      rfl

/-- A dispatcher that a log tells the truth about. -/
structure Tracked (s : Setting μ ρ) (change : α → μ → Option μ) (l : Log α)
    (d : Dispatcher μ ρ) : Prop where
  setting : d.setting = s
  now : d.now = l.now
  isShutDown : d.isShutDown = l.isShutDown
  alike : Alike d (l.dispatcher s change)

theorem Tracked.start (now : Nat) (c : Configuration) :
    Tracked s change (.start now c) (s.dispatcher now c) :=
  ⟨rfl, rfl, rfl, .refl _⟩

theorem Tracked.alike_concat (h : Tracked s change l d) (o : Operation α) :
    Alike (d.operate change o).1
      ({ l with since := l.since ++ [o] }.dispatcher s change) := by
  have hboth := h.alike.operate change o
  rw [Log.dispatcher, after_concat]
  exact hboth

theorem Tracked.reload (h : Tracked s change l d) (c : Configuration) :
    Tracked s change (l.add (.reload c)) (d.reload c).1 := by
  have hboth := h.alike_concat (.reload c)
  have hsetting := (d.setting_operate change (.reload c)).trans h.setting
  cases hd : d.isShutDown with
  | true =>
    have hl : l.isShutDown = true := h.isShutDown ▸ hd
    rw [Log.add, if_pos hl]
    refine ⟨hsetting, ?_, ?_, hboth⟩
    · rw [reload_of_shutDown c d hd]
      exact h.now
    · rw [reload_of_shutDown c d hd]
      exact h.isShutDown
  | false =>
    have hl : l.isShutDown = false := h.isShutDown ▸ hd
    rw [Log.add, if_neg (by rw [hl]; exact Bool.false_ne_true), ← h.now]
    refine ⟨hsetting, ?_, ?_, ?_⟩
    · rw [fst_reload c d hd]
      rfl
    · rw [fst_reload c d hd]
      exact hd
    · rw [fst_reload c d hd, h.setting]
      exact ⟨h.setting, rfl, hd, rfl, rfl, .start _ _⟩

theorem Tracked.shutdown (h : Tracked s change l d) :
    Tracked s change (l.add .shutdown) d.shutdown.1 := by
  have hboth := h.alike_concat .shutdown
  refine ⟨(d.setting_operate change .shutdown).trans h.setting, ?_, ?_, hboth⟩
  · cases hd : d.isShutDown with
    | true =>
      rw [shutdown_of_shutDown d hd]
      exact h.now
    | false =>
      rw [fst_shutdown d hd]
      exact h.now
  · cases hd : d.isShutDown with
    | true =>
      rw [shutdown_of_shutDown d hd]
      exact hd
    | false =>
      rw [fst_shutdown d hd]
      rfl

theorem Tracked.operate (h : Tracked s change l d) (o : Operation α) :
    Tracked s change (l.add o) (d.operate change o).1 := by
  have hboth := h.alike_concat o
  have hsetting := (d.setting_operate change o).trans h.setting
  cases o with
  | attend o =>
    rw [Dispatcher.operate, fst_attend] at hsetting hboth ⊢
    exact ⟨hsetting, h.now, h.isShutDown, hboth⟩
  | elapse now => exact ⟨hsetting, rfl, h.isShutDown, hboth⟩
  | manage a => exact ⟨hsetting, h.now, h.isShutDown, hboth⟩
  | reload c => exact h.reload c
  | shutdown => exact h.shutdown

theorem tracked_after (s : Setting μ ρ) (change : α → μ → Option μ) (now : Nat)
    (c : Configuration) (os : List (Operation α)) :
    Tracked s change (.of now c os) ((s.dispatcher now c).after change os) := by
  induction os using List.reverseRecOn with
  | nil => exact .start now c
  | append_singleton os o ih =>
    rw [after_concat, Log.of_concat]
    exact ih.operate o

/-- A dispatcher that was shut down and has nothing left. -/
structure Over (d : Dispatcher μ ρ) : Prop where
  isShutDown : d.isShutDown = true
  modules : d.live.modules = []
  reporters : d.live.reporters = {}

theorem Over.attend (h : Over d) (o : Occasion) : d.attend o = (d, []) := by
  obtain ⟨⟨global, modules, reporters⟩, _⟩ := d
  obtain ⟨-, rfl, rfl⟩ := h
  cases o <;> rfl

theorem Over.operate (h : Over d) (change : α → μ → Option μ) (o : Operation α) :
    Over (d.operate change o).1 := by
  cases o with
  | attend o =>
    rw [Dispatcher.operate, h.attend o]
    exact h
  | elapse now => exact ⟨h.isShutDown, h.modules, h.reporters⟩
  | manage a =>
    rw [Dispatcher.operate, fst_withModule, h.modules]
    exact ⟨h.isShutDown, rfl, h.reporters⟩
  | reload c =>
    rw [Dispatcher.operate, reload_of_shutDown c d h.isShutDown]
    exact h
  | shutdown =>
    rw [Dispatcher.operate, shutdown_of_shutDown d h.isShutDown]
    exact h

theorem over_operate (h : d.isShutDown = true → Over d) (change : α → μ → Option μ)
    (o : Operation α) (ho : (d.operate change o).1.isShutDown = true) :
    Over (d.operate change o).1 := by
  cases hd : d.isShutDown with
  | true => exact (h hd).operate change o
  | false =>
    cases o with
    | attend o =>
      rw [operate, fst_attend] at ho
      exact absurd (hd.symm.trans ho) Bool.false_ne_true
    | elapse now => exact absurd (hd.symm.trans ho) Bool.false_ne_true
    | manage a => exact absurd (hd.symm.trans ho) Bool.false_ne_true
    | reload c =>
      rw [operate, fst_reload c d hd] at ho
      exact absurd (hd.symm.trans ho) Bool.false_ne_true
    | shutdown =>
      rw [operate, fst_shutdown d hd]
      exact ⟨rfl, rfl, rfl⟩

theorem over_after (s : Setting μ ρ) (change : α → μ → Option μ) (now : Nat) (c : Configuration)
    (os : List (Operation α)) (h : ((s.dispatcher now c).after change os).isShutDown = true) :
    Over ((s.dispatcher now c).after change os) := by
  induction os using List.reverseRecOn with
  | nil => cases h
  | append_singleton os o ih =>
    rw [after_concat] at h ⊢
    exact over_operate ih change o h

/-- What a dispatcher does after some operations depends on those since its last reload alone, and after a
shutdown it does nothing. -/
structure StartsAfresh (s : Setting μ ρ) (change : α → μ → Option μ) (now : Nat)
    (c : Configuration) (os : List (Operation α)) : Prop where
  deliveries : ∀ o, ((s.dispatcher now c).after change os).deliveries o =
    ((Log.of now c os).dispatcher s change).deliveries o
  alike : Alike ((s.dispatcher now c).after change os) ((Log.of now c os).dispatcher s change)
  counted : .shutdown ∉ os → ∀ c',
    tally .reloads (((s.dispatcher now c).after change os).overhear.reload c').2 = 1
  /-- Once it was shut down, it has no units, delivers nothing and builds nothing. -/
  final : .shutdown ∈ os →
    let d := (s.dispatcher now c).after change os
    d.live.modules.length = 0 ∧ d.live.reporters.size = 0 ∧
      (∀ o, d.attend o = (d, []) ∧ d.deliveries o = []) ∧
      ∀ c', d.reload c' = (d, [.notice .reloadIgnored]) ∧
        tally .reloads (d.overhear.reload c').2 = 0

/-- Reload is a fresh start, and shutdown is final. -/
theorem starts_afresh (s : Setting μ ρ) (change : α → μ → Option μ) (now : Nat)
    (c : Configuration) (os : List (Operation α)) : StartsAfresh s change now c os := by
  have htracked := tracked_after s change now c os
  have hshut := htracked.isShutDown
  refine ⟨htracked.alike.deliveries_eq, htracked.alike, fun hnot c' => ?_, fun hmem => ?_⟩
  · apply tally_reloads_reload
    rw [hshut, Bool.eq_false_iff]
    exact fun hlog => hnot ((Log.isShutDown_of now c os).1 hlog)
  · have hdown := hshut.trans ((Log.isShutDown_of now c os).2 hmem)
    have hover := over_after s change now c os hdown
    refine ⟨?_, ?_, fun o => ⟨hover.attend o, ?_⟩, fun c' => ⟨?_, ?_⟩⟩
    · rw [hover.modules, List.length_nil]
    · rw [hover.reporters]
      rfl
    · rw [deliveries_eq, hover.modules]
      cases o <;> rfl
    · exact reload_of_shutDown c' _ hdown
    · rw [reload_of_shutDown c' (overhear _) hdown]
      rfl

theorem after_eq_dispatcher (hsilent : ∀ ls : List (LiveModule μ), LiveModule.farewell ls = [])
    (s : Setting μ ρ) (change : α → μ → Option μ) (now : Nat) (c : Configuration)
    (os : List (Operation α)) :
    (s.dispatcher now c).after change os = (Log.of now c os).dispatcher s change := by
  induction os using List.reverseRecOn with
  | nil => rfl
  | append_singleton os o ih =>
    have htracked := tracked_after s change now c os
    have hsince : (((s.dispatcher now c).after change os).operate change o).1 =
        { Log.of now c os with since := (Log.of now c os).since ++ [o] }.dispatcher s change := by
      rw [Log.dispatcher, after_concat, ih]
      rfl
    rw [after_concat, Log.of_concat]
    cases o with
    | reload c' =>
      cases hl : (Log.of now c os).isShutDown with
      | true =>
        rw [Log.add, if_pos hl]
        exact hsince
      | false =>
        rw [Log.add, if_neg (by rw [hl]; exact Bool.false_ne_true), operate,
          fst_reload_of_silent c' _ (htracked.isShutDown.trans hl) (hsilent _), htracked.setting,
          htracked.now]
        rfl
    | attend o => exact hsince
    | elapse now => exact hsince
    | manage a => exact hsince
    | shutdown => exact hsince

end Dispatcher

namespace BuiltinModule

theorem farewell_eq_nil (ls : List (LiveModule BuiltinModule)) : LiveModule.farewell ls = [] := by
  rw [LiveModule.farewell, List.flatMap_eq_nil_iff]
  intro l _
  rw [LiveModule.callOffers]
  cases l.unit <;> rfl

end BuiltinModule

end QueryWatch
