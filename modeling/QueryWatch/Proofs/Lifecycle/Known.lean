import QueryWatch.Proofs.Calls
import QueryWatch.Proofs.Lifecycle.Chronicle

namespace QueryWatch

variable {μ ρ : Type}

theorem Pipeline.outcome_of_buildModule {r : Registry ModuleEntry μ} {site : Site} {e : ModuleEntry}
    {l : LiveModule μ} (h : (buildModule r site e).1 = some l) :
    (r.build e.kind e site).outcome = .built l.unit := by
  unfold buildModule at h
  simp only at h
  split at h
  · next u hu =>
    cases h
    exact hu
  · cases h
  · cases h

namespace Workshop

variable (s : Workshop μ ρ) (g : Nat)

theorem idle_buildModules (site : Site) (i : Nat) (es : List ModuleEntry) :
    ∀ l ∈ (Pipeline.buildModules s.numbered.moduleKinds site
      ((es.zipIdx i).map fun e => e.1.numbered g e.2)).1, AnyModule.task? l.unit.unit = none := by
  induction es generalizing i with
  | nil =>
    intro l hl
    cases hl
  | cons e es ih =>
    intro l hl
    rw [List.zipIdx_cons, List.map_cons, Pipeline.buildModules] at hl
    rcases List.mem_append.1 hl with hl | hl
    · rw [Option.mem_toList, s.buildModule_numbered g site i e, Option.map_eq_some_iff] at hl
      obtain ⟨l', hl', rfl⟩ := hl
      exact s.idle _ _ _ _ (Pipeline.outcome_of_buildModule hl')
    · exact ih (i + 1) l hl

theorem idle_built (c : Configuration) :
    ∀ l ∈ (s.numbered.built (c.numbered g)).1.modules, AnyModule.task? l.unit.unit = none :=
  s.idle_buildModules g ⟨c.global, s.network⟩ 0 c.modules

end Workshop

namespace LiveModule

/-- The timer of a module runs, if it has one, and what is known of it is right. -/
structure Known (h : History) (l : LiveModule (Numbered (AnyModule μ))) : Prop where
  armed : AnyModule.Armed l.unit.unit
  running : h.running l.badge = AnyModule.running l.unit.unit

variable [ModuleUnit μ] {h : History}

omit [ModuleUnit μ] in
theorem known_calledAll (ls : List (LiveModule (Numbered (AnyModule μ))))
    (hnodup : (ls.map badge).Nodup) (harmed : ∀ l ∈ ls, AnyModule.Armed l.unit.unit) :
    ∀ l ∈ ls, Known (h ++ ls.map asCalled) l := by
  intro l hl
  exact ⟨harmed l hl, History.running_calledAll badge
    (fun l => AnyModule.running l.unit.unit) hnodup hl⟩

omit [ModuleUnit μ] in
theorem Known.other {l l' : LiveModule (Numbered (AnyModule μ))} (hl : l.Known h)
    (hne : l.badge ≠ l'.badge) : l.Known (h ++ [l'.asCalled]) := by
  have hnot : l.badge ∉ [l'].map badge := fun hmem => hne (List.mem_singleton.1 hmem)
  have hsame := History.running_calledAll_of_notMem badge
    (fun l => AnyModule.running l.unit.unit) (h := h) hnot
  exact ⟨hl.armed, hsame.trans hl.running⟩

omit [ModuleUnit μ] in
theorem badge_ne {ls : List (LiveModule (Numbered (AnyModule μ)))} {i j : Nat}
    {l l' : LiveModule (Numbered (AnyModule μ))} (hnodup : (ls.map badge).Nodup)
    (hi : ls[i]? = some l) (hj : ls[j]? = some l') (hne : i ≠ j) : l.badge ≠ l'.badge := by
  intro heq
  have hlt : i < (ls.map badge).length := by
    rw [List.length_map]
    exact (List.getElem?_eq_some_iff.1 hi).1
  apply hne
  apply (List.getElem?_inj hlt hnodup).1
  rw [List.getElem?_map, List.getElem?_map, hi, hj, Option.map_some, Option.map_some, heq]

end LiveModule

namespace Occasion

variable [ModuleUnit μ]

def seen (ls : List (LiveModule (Numbered (AnyModule μ)))) : Occasion → History
  | event e => (ls.map (·.afterEvent e)).map LiveModule.asCalled
  | tick i now =>
    match ls[i]? with
    | some l => [(l.afterTick now).asCalled]
    | none => []

theorem historyOf_attend [ReporterUnit ρ] (o : Occasion)
    (d : Dispatcher (Numbered (AnyModule μ)) (Numbered ρ)) :
    historyOf (d.attend o).2 = o.seen d.live.modules := by
  cases o with
  | event e =>
    rw [seen, List.map_map]
    exact LiveModule.historyOf_each (LiveModule.historyOf_transform e) d.live.modules
      d.live.reporters
  | tick i now =>
    simp only [Dispatcher.attend, Pipeline.tickAt, seen]
    cases d.live.modules[i]? with
    | none => rfl
    | some l => exact l.historyOf_tick now d.live.reporters

theorem badges_after (o : Occasion) (ls : List (LiveModule (Numbered (AnyModule μ)))) :
    (o.after ls).map LiveModule.badge = ls.map LiveModule.badge := by
  cases o with
  | event e =>
    simp only [after, List.map_map]
    rfl
  | tick i now =>
    simp only [after]
    cases hl : ls[i]? with
    | none => rfl
    | some l => exact map_set_eq LiveModule.badge hl rfl

theorem called_of_mem_seen {o : Occasion} {ls : List (LiveModule (Numbered (AnyModule μ)))}
    {x : Occurrence} (hx : x ∈ o.seen ls) :
    ∃ b ∈ ls.map LiveModule.badge, ∃ n, x = .called b n := by
  cases o with
  | event e =>
    obtain ⟨l', hl', rfl⟩ := List.mem_map.1 hx
    obtain ⟨l, hl, rfl⟩ := List.mem_map.1 hl'
    exact ⟨l.badge, List.mem_map_of_mem hl, _, rfl⟩
  | tick i now =>
    rw [seen] at hx
    split at hx
    · next l hl =>
      obtain rfl := List.mem_singleton.1 hx
      exact ⟨l.badge, List.mem_map_of_mem (List.mem_of_getElem? hl), _, rfl⟩
    · cases hx

theorem known_after (o : Occasion) {h : History} {ls : List (LiveModule (Numbered (AnyModule μ)))}
    (hnodup : (ls.map LiveModule.badge).Nodup) (hknown : ∀ l ∈ ls, l.Known h) :
    ∀ l ∈ o.after ls, l.Known (h ++ o.seen ls) := by
  cases o with
  | event e =>
    apply LiveModule.known_calledAll (ls.map (·.afterEvent e))
    · rw [← (event e).badges_after ls] at hnodup
      exact hnodup
    · intro l' hl'
      obtain ⟨l, hl, rfl⟩ := List.mem_map.1 hl'
      exact AnyModule.armed_transform e (hknown l hl).armed
  | tick i now =>
    simp only [after, seen]
    cases hl : ls[i]? with
    | none =>
      intro l hmem
      rw [List.append_nil]
      exact hknown l hmem
    | some l =>
      have harmed := AnyModule.armed_tick now (hknown l (List.mem_of_getElem? hl)).armed
      intro l' hmem
      obtain ⟨j, hj⟩ := List.getElem?_of_mem hmem
      rw [List.getElem?_set] at hj
      split at hj
      · obtain rfl : l.afterTick now = l' := by
          split at hj
          · exact Option.some.inj hj
          · cases hj
        exact LiveModule.known_calledAll [l.afterTick now] (List.nodup_singleton _)
          (fun l' hl' => by rwa [List.mem_singleton.1 hl']) _ List.mem_cons_self
      · next hne =>
        have hl' := hknown l' (List.mem_of_getElem? hj)
        have hother : l'.badge ≠ l.badge :=
          LiveModule.badge_ne hnodup hj hl fun heq => hne heq.symm
        exact hl'.other hother

end Occasion

namespace Pipeline

open History (AtRest)

variable [ModuleUnit μ] [ReporterUnit ρ]

omit [ModuleUnit μ] [ReporterUnit ρ] in
/-- After one pipeline took the place of another, everything is known of the units of both. -/
theorem turnover {h : History} {g : Nat} {old order : List Badge}
    (p : Pipeline (Numbered (AnyModule μ)) (Numbered ρ)) (hrest : AtRest h g old)
    (hgone : ∀ b, b ∉ old → h.running b = 0) (hperm : order.Perm p.badges)
    (hg : ∀ b ∈ p.badges, b.generation = g) (hnodup : p.badges.Nodup)
    (harmed : ∀ l ∈ p.modules, AnyModule.Armed l.unit.unit)
    (horder : old.Pairwise fun b b' => b.isModule = false → b'.isModule = false) :
    let h' := h ++ order.map .built ++ p.modules.map LiveModule.asCalled ++ [.live p.badges] ++
      old.map (.stopped · 0)
    AtRest h' (g + 1) p.badges ∧ (∀ l ∈ p.modules, l.Known h') ∧
      ∀ b, b ∉ p.badges → h'.running b = 0 := by
  have hmodule {l : LiveModule (Numbered (AnyModule μ))} (hl : l ∈ p.modules) :
      l.badge ∈ p.badges := List.mem_append_left _ (List.mem_map_of_mem hl)
  refine ⟨?_, ?_, ?_⟩
  · apply hrest.turnover hperm hg hnodup ?_ horder
    intro o ho
    obtain ⟨l, hl, rfl⟩ := List.mem_map.1 ho
    exact ⟨l.badge, hmodule hl, _, rfl⟩
  · intro l hl
    have hknown := LiveModule.known_calledAll (h := h ++ order.map .built) p.modules
      (List.nodup_append'.1 hnodup).1 harmed l hl
    have hnot : l.badge ∉ old := by
      intro hold
      have hbefore := hrest.earlier _ (hrest.built _ hold)
      have hnow := hg _ (hmodule hl)
      omega
    refine ⟨hknown.armed, ?_⟩
    rw [History.running_stoppedAll_of_notMem hnot, History.running_live, hknown.running]
  · intro b hb
    apply History.running_stoppedAll
    by_cases hold : b ∈ old
    · exact .inl hold
    · have hnot : b ∉ p.modules.map LiveModule.badge := fun hmem => hb (List.mem_append_left _ hmem)
      have hcalled := History.running_calledAll_of_notMem LiveModule.badge
        (fun l => AnyModule.running l.unit.unit) (h := h ++ order.map .built) hnot
      refine .inr ?_
      rw [History.running_live]
      exact hcalled.trans ((History.running_builtAll order).trans (hgone b hold))

end Pipeline

end QueryWatch
