import Mathlib.Data.List.Induction
import QueryWatch.Proofs.Lifecycle.Known

namespace QueryWatch

variable {μ ρ : Type}

namespace Chronicle

open History (AtRest)

variable [ModuleUnit μ] [ReporterUnit ρ] {s : Workshop μ ρ} {h : Chronicle μ ρ}

/-- What holds of a chronicle at any time. -/
structure Kept (s : Workshop μ ρ) (h : Chronicle μ ρ) : Prop where
  setting : h.dispatcher.setting = s.numbered
  rest : AtRest h.history h.next h.dispatcher.live.badges
  known : ∀ l ∈ h.dispatcher.live.modules, l.Known h.history
  gone : ∀ b, b ∉ h.dispatcher.live.badges → h.history.running b = 0

theorem kept_raised {k : History} {g : Nat} {old : List Badge} (now : Nat) (c : Configuration)
    (hrest : AtRest k g old) (hgone : ∀ b, b ∉ old → k.running b = 0)
    (horder : old.Pairwise fun b b' => b.isModule = false → b'.isModule = false) :
    let p := s.numbered.raised now (c.numbered g)
    let k' := k ++ historyOf (s.numbered.raising now (c.numbered g)) ++ [.live p.badges] ++
      old.map (.stopped · 0)
    AtRest k' (g + 1) p.badges ∧ (∀ l ∈ p.modules, l.Known k') ∧
      ∀ b, b ∉ p.badges → k'.running b = 0 := by
  let built := (s.numbered.built (c.numbered g)).1
  let p := s.numbered.raised now (c.numbered g)
  have hbadges : p.badges = built.badges := built.badges_start now
  have harmed : ∀ l ∈ p.modules, AnyModule.Armed l.unit.unit := by
    intro l hl
    change l ∈ (built.start now).1.modules at hl
    rw [Pipeline.fst_start] at hl
    obtain ⟨l', hl', rfl⟩ := List.mem_map.1 hl
    exact AnyModule.armed_start now (s.idle_built g c l' hl')
  -- The reporters are built first, but stopped last.
  have hperm : (built.reporters.reporters.map Numbered.badge ++
      built.modules.map LiveModule.badge).Perm p.badges := by
    rw [hbadges]
    exact List.perm_append_comm
  have hgeneration : ∀ b ∈ p.badges, b.generation = g := by
    rw [hbadges]
    exact fun b hb => s.generation_of_mem g c hb
  have hnodup : p.badges.Nodup := by
    rw [hbadges]
    exact s.nodup_badges g c
  have hturn := p.turnover hrest hgone hperm hgeneration hnodup harmed horder
  rw [s.historyOf_raising g c, ← List.append_assoc]
  exact hturn

theorem kept_start (s : Workshop μ ρ) (now : Nat) (c : Configuration) :
    Kept s (start s now c) := by
  obtain ⟨hrest, hknown, hgone⟩ := kept_raised (s := s) now c (History.atRest_nil 0)
    (fun _ _ => rfl) .nil
  have hhistory : (start s now c).history =
      [] ++ historyOf (s.numbered.raising now (c.numbered 0)) ++
        [.live (s.numbered.raised now (c.numbered 0)).badges] ++ [].map (.stopped · 0) := by
    rw [List.map_nil, List.append_nil, List.nil_append, ← s.toSetting.numbered.shown_new]
    rfl
  rw [← hhistory] at hrest hknown hgone
  exact ⟨rfl, hrest, hknown, hgone⟩

theorem kept_retired {k : History} {g : Nat} (old : Pipeline (Numbered (AnyModule μ)) (Numbered ρ))
    {d : Dispatcher (Numbered (AnyModule μ)) (Numbered ρ)} (hsetting : d.setting = s.numbered)
    (hrest : AtRest k g d.live.badges) (hknown : ∀ l ∈ d.live.modules, l.Known k)
    (hgone : ∀ b, b ∉ d.live.badges → k.running b = 0) :
    Kept s { dispatcher := (d.retire old).1, next := g, history := k } := by
  have hbadges := d.badges_retire old
  refine ⟨?_, ?_, ?_, ?_⟩
  · rw [Dispatcher.fst_retire]
    exact hsetting
  · rwa [hbadges]
  · rw [Dispatcher.fst_retire]
    exact hknown
  · rwa [hbadges]

omit [ModuleUnit μ] [ReporterUnit ρ] in
theorem Kept.again (hk : Kept s h) :
    Kept s { h with
      next := h.next + 1
      history := h.history ++ [.live h.dispatcher.live.badges] } where
  setting := hk.setting
  rest := hk.rest.swap.next
  known := fun l hl => ⟨(hk.known l hl).armed, (History.running_live _).trans (hk.known l hl).running⟩
  gone := fun b hb => (History.running_live _).trans (hk.gone b hb)

theorem Kept.reload (hk : Kept s h) (c : Configuration) : Kept s (h.add (.reload c)) := by
  cases hd : h.dispatcher.isShutDown with
  | true =>
    have hbegin : h.dispatcher.beginReload (c.numbered h.next) =
        (none, h.dispatcher, [.notice .reloadIgnored]) := if_pos hd
    have hadd : h.add (.reload c) = { h with
        next := h.next + 1
        history := h.history ++ [] ++ [.live h.dispatcher.live.badges] ++ [] } := by
      simp only [add, hbegin, Dispatcher.endReload]
      rfl
    rw [hadd, List.append_nil, List.append_nil]
    exact hk.again
  | false =>
    let d : Dispatcher (Numbered (AnyModule μ)) (Numbered ρ) :=
      { h.dispatcher with live := s.numbered.raised h.dispatcher.now (c.numbered h.next) }
    have hadd : h.add (.reload c) =
        { dispatcher := (Dispatcher.retire h.dispatcher.live d).1
          next := h.next + 1
          history := h.history ++
            historyOf (s.numbered.raising h.dispatcher.now (c.numbered h.next)) ++
            [.live d.live.badges] ++ h.dispatcher.live.badges.map (.stopped · 0) } := by
      have hretired : historyOf ((Dispatcher.retire h.dispatcher.live d).2 ++
          [.counted .reloads]) = h.dispatcher.live.badges.map (.stopped · 0) := by
        rw [historyOf_append, Dispatcher.historyOf_retire]
        exact List.append_nil _
      rw [← hretired]
      simp only [add, h.dispatcher.beginReload_eq (c.numbered h.next) hd, hk.setting,
        Dispatcher.endReload]
      rfl
    obtain ⟨hrest, hknown, hgone⟩ := kept_raised (s := s) h.dispatcher.now c hk.rest hk.gone
      h.dispatcher.live.order_badges
    rw [hadd]
    exact kept_retired h.dispatcher.live (d := d) hk.setting hrest hknown hgone

theorem Kept.shutdown (hk : Kept s h) : Kept s (h.add .shutdown) := by
  cases hd : h.dispatcher.isShutDown with
  | true =>
    have hbegin : h.dispatcher.beginShutdown = (none, h.dispatcher) := if_pos hd
    have hadd : h.add .shutdown = { h with
        next := h.next + 1
        history := h.history ++ [.live h.dispatcher.live.badges] ++ [] } := by
      simp only [add, hbegin, Dispatcher.endShutdown]
      rfl
    rw [hadd, List.append_nil]
    exact hk.again
  | false =>
    let d : Dispatcher (Numbered (AnyModule μ)) (Numbered ρ) :=
      { h.dispatcher with live := .empty h.dispatcher.defaults, isShutDown := true }
    have hbegin : h.dispatcher.beginShutdown = (some h.dispatcher.live, d) :=
      if_neg (by rw [hd]; exact Bool.false_ne_true)
    have hadd : h.add .shutdown =
        { dispatcher := (d.retire h.dispatcher.live).1
          next := h.next + 1
          history := h.history ++ [.live d.live.badges] ++
            h.dispatcher.live.badges.map (.stopped · 0) } := by
      rw [← Dispatcher.historyOf_retire h.dispatcher.live d]
      simp only [add, hbegin, Dispatcher.endShutdown]
    obtain ⟨hrest, hknown, hgone⟩ := d.live.turnover hk.rest hk.gone (.refl [])
      (fun b hb => by cases hb) .nil (fun l hl => by cases hl) h.dispatcher.live.order_badges
    have hnothing : h.history ++ [].map .built ++ d.live.modules.map LiveModule.asCalled =
        h.history := (List.append_nil _).trans (List.append_nil _)
    rw [hnothing] at hrest hknown hgone
    rw [hadd]
    exact kept_retired h.dispatcher.live (d := d) hk.setting hrest hknown hgone

omit [ModuleUnit μ] [ReporterUnit ρ] in
theorem Kept.call (hk : Kept s h) {d : Dispatcher (Numbered (AnyModule μ)) (Numbered ρ)}
    {calls : History} (hsetting : d.setting = h.dispatcher.setting)
    (hbadges : d.live.badges = h.dispatcher.live.badges)
    (hcalls : ∀ o ∈ calls, ∃ b ∈ h.dispatcher.live.badges, ∃ n, o = .called b n)
    (hknown : ∀ l ∈ d.live.modules, l.Known (h.history ++ calls)) :
    Kept s { h with dispatcher := d, history := h.history ++ calls } := by
  refine ⟨hsetting.trans hk.setting, ?_, hknown, ?_⟩
  · have hrest := hk.rest.callAll hcalls
    rwa [← hbadges] at hrest
  · intro b hb
    have hnot : b ∉ h.dispatcher.live.badges := hbadges ▸ hb
    have hsilent : (h.history ++ calls).running b = h.history.running b := by
      apply History.running_of_silent
      intro o ho n
      obtain ⟨b', hb', k, rfl⟩ := hcalls o ho
      have hne : b' ≠ b := fun heq => hnot (heq ▸ hb')
      exact if_neg hne
    exact hsilent.trans (hk.gone b hnot)

theorem Kept.attend (hk : Kept s h) (o : Occasion) : Kept s (h.add (.attend o)) := by
  have hadd : h.add (.attend o) = { h with
      dispatcher := (h.dispatcher.attend o).1
      history := h.history ++ historyOf (h.dispatcher.attend o).2 } := rfl
  have hnodup := (List.nodup_append'.1 hk.rest.nodup).1
  rw [hadd, o.historyOf_attend, Dispatcher.fst_attend]
  apply hk.call
  · rfl
  · simp only [Pipeline.badges, Fanout.badges_take, o.badges_after]
  · intro x hx
    obtain ⟨b, hb, n, rfl⟩ := Occasion.called_of_mem_seen hx
    exact ⟨b, List.mem_append_left _ hb, n, rfl⟩
  · exact o.known_after hnodup hk.known

omit [ModuleUnit μ] in
theorem known_retune {k : History} (f : SlowQuery.Decider → SlowQuery.Decider)
    (ls : List (LiveModule (Numbered (AnyModule μ)))) (hknown : ∀ l ∈ ls, l.Known k) :
    let tuned := (Dispatcher.withModule.go (fun u => (Numbered.retune f u).map (·, ())) ls).1
    tuned.map LiveModule.badge = ls.map LiveModule.badge ∧ ∀ l ∈ tuned, l.Known k := by
  induction ls with
  | nil => exact ⟨rfl, hknown⟩
  | cons l ls ih =>
    obtain ⟨hl, hls⟩ := List.forall_mem_cons.1 hknown
    cases hf : AnyModule.retune f l.unit.unit with
    | none =>
      obtain ⟨hbadges, hrest⟩ := ih hls
      simp only [Dispatcher.withModule.go, Numbered.retune_of_none hf, Option.map_none]
      exact ⟨congrArg (l.badge :: ·) hbadges, List.forall_mem_cons.2 ⟨hl, hrest⟩⟩
    | some v =>
      have hrunning := hl.running.trans (AnyModule.running_retune hf).symm
      simp only [Dispatcher.withModule.go, Numbered.retune_of_some hf, Option.map_some]
      exact ⟨rfl, List.forall_mem_cons.2 ⟨⟨AnyModule.armed_retune hf, hrunning⟩, hls⟩⟩

theorem Kept.manage (hk : Kept s h) (f : SlowQuery.Decider → SlowQuery.Decider) :
    Kept s (h.add (.manage f)) := by
  obtain ⟨hbadges, hknown⟩ := known_retune f h.dispatcher.live.modules hk.known
  apply hk.call
  · rfl
  · exact congrArg (· ++ _) hbadges
  · intro o ho
    cases ho
  · intro l hl
    rw [show historyOf [] = [] from rfl, List.append_nil]
    exact hknown l hl

theorem Kept.add (hk : Kept s h) (o : Operation (SlowQuery.Decider → SlowQuery.Decider)) :
    Kept s (h.add o) := by
  cases o with
  | attend o => exact hk.attend o
  | elapse now =>
    apply hk.call
    · rfl
    · rfl
    · intro o ho
      cases ho
    · intro l hl
      rw [show historyOf [] = [] from rfl, List.append_nil]
      exact hk.known l hl
  | manage f => exact hk.manage f
  | reload c => exact hk.reload c
  | shutdown => exact hk.shutdown

theorem kept_of (s : Workshop μ ρ) (now : Nat) (c : Configuration)
    (os : List (Operation (SlowQuery.Decider → SlowQuery.Decider))) : Kept s (of s now c os) := by
  induction os using List.reverseRecOn with
  | nil => exact kept_start s now c
  | append_singleton os o ih =>
    rw [of_concat]
    exact ih.add o

theorem mirrors_of (s : Workshop μ ρ) (now : Nat) (c : Configuration)
    (os : List (Operation (SlowQuery.Decider → SlowQuery.Decider))) :
    Dispatcher.Mirrors (of s now c os).dispatcher
      ((s.dispatcher now c).after AnyModule.retune os) := by
  induction os using List.reverseRecOn with
  | nil => exact ⟨rfl, rfl, rfl, s.raised_unnumbered 0 now c⟩
  | append_singleton os o ih =>
    rw [of_concat, dispatcher_add, Dispatcher.after_concat]
    exact ih.operate _ o

/-- What is known of the units of a dispatcher after some operations. -/
structure Accounted (s : Workshop μ ρ) (now : Nat) (c : Configuration)
    (os : List (Operation (SlowQuery.Decider → SlowQuery.Decider))) : Prop where
  /-- The chronicle is that of the dispatcher without numbers. -/
  plain : Dispatcher.Mirrors (of s now c os).dispatcher
    ((s.dispatcher now c).after AnyModule.retune os)
  lawful : ∀ (before after : History) (o : Occurrence),
    (of s now c os).history = before ++ o :: after → before.Allowed o
  distinct : (of s now c os).history.built.Nodup
  live : (of s now c os).dispatcher.live.badges.Nodup ∧
    ∀ b ∈ (of s now c os).dispatcher.live.badges, b ∈ (of s now c os).history.built
  /-- A unit is live and was never stopped, or it is not live and was stopped once. -/
  stops : ∀ b ∈ (of s now c os).history.built,
    b ∈ (of s now c os).dispatcher.live.badges ∧ (of s now c os).history.stops b = 0 ∨
      b ∉ (of s now c os).dispatcher.live.badges ∧ (of s now c os).history.stops b = 1
  /-- A live module has one task if it is one with a timer, and none if not. -/
  timers : ∀ l ∈ (of s now c os).dispatcher.live.modules,
    AnyModule.running l.unit.unit = (if AnyModule.isPeriodic l.unit.unit then 1 else 0) ∧
      (of s now c os).history.running l.badge = AnyModule.running l.unit.unit
  cancelled : ∀ b, b ∉ (of s now c os).dispatcher.live.badges →
    (of s now c os).history.running b = 0

/-- Whatever a dispatcher is asked for and whichever units panic, every unit is accounted for. -/
theorem units_accounted (s : Workshop μ ρ) (now : Nat) (c : Configuration)
    (os : List (Operation (SlowQuery.Decider → SlowQuery.Decider))) : Accounted s now c os := by
  have hk := kept_of s now c os
  have hlawful := hk.rest.lawful
  refine ⟨mirrors_of s now c os, ?_, hlawful.nodup_built, ⟨hk.rest.nodup, hk.rest.built⟩, ?_, ?_,
    hk.gone⟩
  · intro before after o heq
    rw [heq] at hlawful
    exact hlawful.allowed
  · intro b hb
    have hstops := hk.rest.stops b hb
    by_cases hlive : b ∈ (of s now c os).dispatcher.live.badges
    · exact .inl ⟨hlive, hstops.trans (if_pos hlive)⟩
    · exact .inr ⟨hlive, hstops.trans (if_neg hlive)⟩
  · intro l hl
    have hl' := hk.known l hl
    exact ⟨AnyModule.running_of_armed hl'.armed, hl'.running⟩

end Chronicle

end QueryWatch
