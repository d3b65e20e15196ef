import QueryWatch.Proofs.Delivery.Calls

namespace QueryWatch

theorem Offer.le_of_mem_callsFrom {o : Offer} {i : Nat} {kinds : List String}
    {c : Nat × Measurement} (h : c ∈ o.callsFrom i kinds) : i ≤ c.1 := by
  induction kinds generalizing i with
  | nil => cases h
  | cons kind kinds ih =>
    rw [callsFrom] at h
    rcases List.mem_append.1 h with h | h
    · split at h
      · have hc : c = (i, o.measurement) := List.mem_singleton.1 h
        exact Nat.le_of_eq (congrArg Prod.fst hc).symm
      · cases h
    · exact Nat.le_of_succ_le (ih h)

theorem Offer.filter_callsFrom {o : Offer} {i n : Nat} {kinds : List String} {kind : String}
    (h : kinds[n]? = some kind) :
    (o.callsFrom i kinds).filter (·.1 = i + n) =
      if o.admits kind then [(i + n, o.measurement)] else [] := by
  induction kinds generalizing i n with
  | nil => cases h
  | cons first kinds ih =>
    rw [callsFrom, List.filter_append]
    cases n with
    | zero =>
      obtain rfl : first = kind := Option.some.inj h
      have hrest : (o.callsFrom (i + 1) kinds).filter (·.1 = i + 0) = [] := by
        apply List.filter_eq_nil_iff.2
        intro c hc
        have hle := le_of_mem_callsFrom hc
        simp only [decide_eq_true_eq]
        omega
      rw [hrest, List.append_nil]
      split
      · simp
      · rfl
    | succ n =>
      have hhead : (if o.admits first then [(i, o.measurement)] else []).filter
          (·.1 = i + (n + 1)) = [] := by
        split
        · simp
        · rfl
      have hshift : i + (n + 1) = i + 1 + n := by omega
      rw [hhead, List.nil_append, hshift]
      exact ih h

theorem inbox_of_calls (os : List Offer) {kinds : List String} {j : Nat} {kind : String}
    (h : kinds[j]? = some kind) :
    ((os.flatMap (·.calls kinds)).filter (·.1 = j)).map (·.2) = inbox kind os := by
  induction os with
  | nil => rfl
  | cons o os ih =>
    have hfirst : (o.calls kinds).filter (·.1 = j) =
        if o.admits kind then [(j, o.measurement)] else [] := by
      have hcalls := Offer.filter_callsFrom (o := o) (i := 0) h
      rwa [Nat.zero_add] at hcalls
    rw [List.flatMap_cons, List.filter_append, List.map_append, ih, hfirst, inbox_cons _ o os]
    cases ha : o.admits kind <;> simp [inbox, ha]

namespace LiveModule

variable {μ : Type} [ModuleUnit μ]

def ownStory (i : Nat) : List Occasion → LiveModule μ → List Offer
  | [], _ => []
  | .event e :: os, l => l.eventOffers i e ++ ownStory i os (l.afterEvent e)
  | .tick j now :: os, l =>
    if j = i then l.tickOffers i now ++ ownStory i os (l.afterTick now) else ownStory i os l

theorem module_of_mem_eventOffers {i : Nat} {e : QueryEvent} {l : LiveModule μ} {o : Offer}
    (h : o ∈ l.eventOffers i e) : o.module = i := by
  unfold eventOffers at h
  split at h
  · cases h
  · obtain ⟨m, -, rfl⟩ := List.mem_map.1 h
    rfl

theorem module_of_mem_tickOffers {i now : Nat} {l : LiveModule μ} {o : Offer}
    (h : o ∈ l.tickOffers i now) : o.module = i := by
  obtain ⟨m, -, rfl⟩ := List.mem_map.1 h
  rfl

theorem le_module_of_mem {i : Nat} {e : QueryEvent} {ls : List (LiveModule μ)} {o : Offer}
    (h : o ∈ eventOffersFrom e i ls) : i ≤ o.module := by
  induction ls generalizing i with
  | nil => cases h
  | cons l ls ih =>
    rcases List.mem_append.1 h with h | h
    · exact Nat.le_of_eq (module_of_mem_eventOffers h).symm
    · exact Nat.le_of_succ_le (ih h)

theorem filter_module_self {i : Nat} {os : List Offer} (h : ∀ o ∈ os, o.module = i) :
    os.filter (·.module = i) = os :=
  List.filter_eq_self.2 fun o ho => decide_eq_true (h o ho)

theorem filter_module_other {i : Nat} {os : List Offer} (h : ∀ o ∈ os, o.module ≠ i) :
    os.filter (·.module = i) = [] :=
  List.filter_eq_nil_iff.2 fun o ho => by simpa using h o ho

theorem filter_eventOffersFrom {i n : Nat} {e : QueryEvent} {ls : List (LiveModule μ)}
    {l : LiveModule μ} (h : ls[n]? = some l) :
    (eventOffersFrom e i ls).filter (·.module = i + n) = l.eventOffers (i + n) e := by
  induction ls generalizing i n with
  | nil => cases h
  | cons first ls ih =>
    rw [eventOffersFrom, List.filter_append]
    cases n with
    | zero =>
      obtain rfl : first = l := Option.some.inj h
      have hrest : ∀ o ∈ eventOffersFrom e (i + 1) ls, o.module ≠ i + 0 := by
        intro o ho
        have hle := le_module_of_mem ho
        omega
      rw [filter_module_other hrest, List.append_nil]
      exact filter_module_self fun o ho => module_of_mem_eventOffers ho
    | succ n =>
      have hhead : ∀ o ∈ first.eventOffers i e, o.module ≠ i + (n + 1) := by
        intro o ho
        have hi := module_of_mem_eventOffers ho
        omega
      have hshift : i + (n + 1) = i + 1 + n := by omega
      rw [filter_module_other hhead, List.nil_append, hshift]
      exact ih h

theorem filter_story (os : List Occasion) {ls : List (LiveModule μ)} {i : Nat}
    {l : LiveModule μ} (h : ls[i]? = some l) :
    (story os ls).filter (·.module = i) = l.ownStory i os := by
  induction os generalizing ls l with
  | nil => rfl
  | cons o os ih =>
    rw [story, List.filter_append]
    cases o with
    | event e =>
      have hoffers := filter_eventOffersFrom (i := 0) (e := e) h
      rw [Nat.zero_add] at hoffers
      have hafter : ((Occasion.event e).after ls)[i]? = some (l.afterEvent e) := by
        simp only [Occasion.after, List.getElem?_map, h, Option.map_some]
      rw [Occasion.offers, hoffers, ih hafter, ownStory]
    | tick j now =>
      rw [ownStory]
      by_cases hj : j = i
      · subst hj
        have hlt := (List.getElem?_eq_some_iff.1 h).1
        have hafter : ((Occasion.tick j now).after ls)[j]? = some (l.afterTick now) := by
          simp only [Occasion.after, h, List.getElem?_set_self hlt]
        rw [if_pos rfl, ih hafter]
        simp only [Occasion.offers, h]
        rw [filter_module_self fun o ho => module_of_mem_tickOffers ho]
      · have hafter : ((Occasion.tick j now).after ls)[i]? = some l := by
          simp only [Occasion.after]
          cases ls[j]? with
          | none => exact h
          | some l' => exact (List.getElem?_set_ne hj).trans h
        rw [if_neg hj, ih hafter]
        simp only [Occasion.offers]
        cases ls[j]? with
        | none => rfl
        | some l' =>
          have hother : ∀ o ∈ l'.tickOffers j now, o.module ≠ i :=
            fun o ho hi => hj ((module_of_mem_tickOffers ho).symm.trans hi)
          simp only [filter_module_other hother, List.nil_append]

end LiveModule

namespace Dispatcher

variable {μ ρ : Type} [ModuleUnit μ] [ReporterUnit ρ]

/-- What a dispatcher does with events and with the measurements of timers. -/
structure Fair (os : List Occasion) (d : Dispatcher μ ρ) : Prop where
  calls : callsIn (d.observe.attendAll os).2 =
    (story os d.live.modules).flatMap (·.calls d.live.reporters.kinds)
  plainModules : (d.observe.attendAll os).1.live.modules.map LiveModule.plain =
    (d.attendAll os).1.live.modules
  plainReporters : (d.observe.attendAll os).1.live.reporters.reporters.map (·.unit) =
    (d.attendAll os).1.live.reporters.reporters
  /-- A reporter gets its share of the story and becomes what that makes of it, whoever else there is. -/
  share : ∀ j r, d.live.reporters.reporters[j]? = some r →
    let ms := inbox (ReporterUnit.kind r) (story os d.live.modules)
    ((callsIn (d.observe.attendAll os).2).filter (·.1 = j)).map (·.2) = ms ∧
      (d.attendAll os).1.live.reporters.reporters[j]? = some (ReporterUnit.fed ms r)
  /-- What comes of a module is a matter of that module. -/
  apart : ∀ i l, d.live.modules[i]? = some l →
    (story os d.live.modules).filter (·.module = i) = l.ownStory i os
  measurements : ∀ name, tally (.measurements name) (d.observe.attendAll os).2 =
    (story os d.live.modules).countP (·.name = name)
  failures : ∀ kind, tally (.reportFailures kind) (d.observe.attendAll os).2 =
    Fanout.failures kind (story os d.live.modules) d.live.reporters.reporters
  /-- A timer of a module that is not live any more delivers by the same rule. -/
  stray : ∀ (l : LiveModule μ) (now : Nat),
    callsIn (l.hush.tick now d.observe.live.reporters).2.2 =
        (l.tickOffers 0 now).flatMap (·.calls d.live.reporters.kinds) ∧
      ∀ name, tally (.measurements name) (l.hush.tick now d.observe.live.reporters).2.2 =
        (l.tickOffers 0 now).countP (·.name = name)

omit [ModuleUnit μ] in
theorem kinds_observe (d : Dispatcher μ ρ) :
    d.observe.live.reporters.kinds = d.live.reporters.kinds := by
  rw [Fanout.kinds, Fanout.kinds, ← d.units_observe, List.map_map]
  rfl

omit [ModuleUnit μ] in
theorem failures_observe (kind : String) (os : List Offer) (d : Dispatcher μ ρ) :
    Fanout.failures kind os d.observe.live.reporters.reporters =
      Fanout.failures kind os d.live.reporters.reporters := by
  rw [Fanout.failures_unit, d.units_observe]

theorem callsIn_observe (os : List Occasion) (d : Dispatcher μ ρ) :
    callsIn (d.observe.attendAll os).2 =
      (story os d.live.modules).flatMap (·.calls d.live.reporters.kinds) := by
  rw [← callsIn_told, told_attendAll, callsIn_told, story_observe,
    Fanout.callsIn_take _ d.seated_observe, kinds_observe]

theorem reporters_attendAll (os : List Occasion) (d : Dispatcher μ ρ) :
    (d.attendAll os).1.live.reporters.reporters = d.live.reporters.reporters.map fun r =>
      ReporterUnit.fed (inbox (ReporterUnit.kind r) (story os d.live.modules)) r := by
  rw [(d.live_attendAll os).2, Fanout.reporters_take]

theorem plainReporters_observe (os : List Occasion) (d : Dispatcher μ ρ) :
    (d.observe.attendAll os).1.live.reporters.reporters.map (·.unit) =
      (d.attendAll os).1.live.reporters.reporters := by
  rw [reporters_attendAll, reporters_attendAll, story_observe, ← d.units_observe, List.map_map,
    List.map_map]
  exact List.map_congr_left fun r _ => Watched.unit_fed _ r

/-- Whatever occurs and whoever panics, a dispatcher delivers fairly. -/
theorem deliveries_fair (os : List Occasion) (d : Dispatcher μ ρ) : Fair os d where
  calls := callsIn_observe os d
  plainModules := by
    rw [(d.observe.live_attendAll os).1, (d.live_attendAll os).1, modules_plain, plain_observe]
  plainReporters := plainReporters_observe os d
  share := by
    intro j r hr
    refine ⟨?_, ?_⟩
    · rw [callsIn_observe]
      refine inbox_of_calls _ ?_
      rw [Fanout.kinds, List.getElem?_map, hr, Option.map_some]
    · rw [reporters_attendAll, List.getElem?_map, hr, Option.map_some]
  apart := fun i l hl => LiveModule.filter_story os hl
  measurements := by
    intro name
    rw [← tally_told, told_attendAll, tally_told, story_observe, Fanout.tally_measurements_take]
  failures := by
    intro kind
    rw [← tally_told, told_attendAll, tally_told, story_observe, Fanout.tally_failures_take,
      failures_observe]
  stray := by
    intro l now
    have htold := l.hush.told_tick 0 now d.observe.live.reporters
    have hoffers : l.hush.tickOffers 0 now = l.tickOffers 0 now := l.hush.tickOffers_plain 0 now
    rw [hoffers] at htold
    refine ⟨?_, fun name => ?_⟩
    · rw [← callsIn_told, htold, callsIn_told, Fanout.callsIn_take _ d.seated_observe,
        kinds_observe]
    · rw [← tally_told, htold, tally_told, Fanout.tally_measurements_take]

end Dispatcher

end QueryWatch
