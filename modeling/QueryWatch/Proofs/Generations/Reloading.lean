import QueryWatch.Modules
import QueryWatch.Proofs.Generations.Record

namespace QueryWatch

theorem Offer.lt_of_mem_callsFrom {o : Offer} {i : Nat} {kinds : List String}
    {c : Nat × Measurement} (h : c ∈ o.callsFrom i kinds) : c.1 < i + kinds.length := by
  induction kinds generalizing i with
  | nil => cases h
  | cons kind kinds ih =>
    rw [callsFrom] at h
    rw [List.length_cons]
    rcases List.mem_append.1 h with h | h
    · split at h
      · rw [List.mem_singleton.1 h]
        omega
      · cases h
    · have hlt := ih h
      omega

theorem lt_of_mem_choresOf {kinds : List String} {i j : Nat}
    {module : String × Option (List String)} {ms : List Measurement} {m : Measurement}
    (h : .deliver j m ∈ choresOf kinds i module ms) : j < kinds.length := by
  obtain ⟨m', -, hm⟩ := List.mem_flatMap.1 h
  rcases List.mem_cons.1 hm with hm | hm
  · cases hm
  · obtain ⟨c, hc, he⟩ := List.mem_map.1 hm
    obtain ⟨rfl, -⟩ := Chore.deliver.inj he
    have hlt := Offer.lt_of_mem_callsFrom hc
    rwa [Nat.zero_add] at hlt

theorem lt_of_mem_tale {kinds : List String} {i j : Nat} {answers : List (List Measurement)}
    {modules : List (String × Option (List String))} {m : Measurement}
    (h : .deliver j m ∈ tale kinds i answers modules) : j < kinds.length := by
  induction answers generalizing i modules with
  | nil =>
    rw [tale_nil] at h
    cases h
  | cons ms answers ih =>
    cases modules with
    | nil => cases h
    | cons module modules =>
      rcases List.mem_append.1 h with h | h
      · exact lt_of_mem_choresOf h
      · exact ih h

theorem Visit.Follows.lt_of_pending {shapes : List Shape} {v : Visit} (h : v.Follows shapes)
    {j : Nat} {m : Measurement} (hm : .deliver j m ∈ v.pending) :
    ∃ shape, shapes[v.generation]? = some shape ∧ j < shape.kinds.length := by
  obtain ⟨shape, hg, -, hscript⟩ := h
  have hmem : .deliver j m ∈ script shape v.source v.answers := by
    rw [← hscript]
    exact List.mem_append_right _ hm
  refine ⟨shape, hg, ?_⟩
  cases hs : v.source with
  | event e =>
    rw [hs] at hmem
    exact lt_of_mem_tale hmem
  | emission name routes m =>
    rw [hs] at hmem
    exact lt_of_mem_choresOf hmem

theorem Shape.nodup_parts (shape : Shape) : shape.parts.Nodup := by
  have hmodules : ((List.range shape.modules.length).map Part.module).Nodup :=
    List.Pairwise.map Part.module (fun i j hne h => hne (Part.module.inj h)) List.nodup_range
  have hreporters : ((List.range shape.kinds.length).map Part.reporter).Nodup :=
    List.Pairwise.map Part.reporter (fun i j hne h => hne (Part.reporter.inj h)) List.nodup_range
  refine List.nodup_append.2 ⟨hmodules, hreporters, ?_⟩
  intro a ha b hb
  obtain ⟨i, -, rfl⟩ := List.mem_map.1 ha
  obtain ⟨j, -, rfl⟩ := List.mem_map.1 hb
  exact fun h => (by cases h)

theorem nodup_partsOf (shapes : List Shape) (g : Nat) : (partsOf shapes g).Nodup := by
  rw [partsOf]
  cases shapes[g]? with
  | none => exact List.nodup_nil
  | some shape => exact shape.nodup_parts

theorem BuiltinModule.length_tickSources (now : Nat) (l : LiveModule BuiltinModule) :
    (Dispatcher.tickSources now l).length ≤ 1 := by
  rw [Dispatcher.tickSources, List.length_map]
  obtain ⟨unit, routes⟩ := l
  cases unit with
  | slowQuery w => exact Nat.zero_le 1
  | heartbeat h =>
    change (LiveModule.emitted (h.tick now).acts).length ≤ 1
    unfold Periodic.Heartbeat.tick
    split
    · exact Nat.zero_le 1
    · exact Nat.le_refl 1
  | requestRate r =>
    change (LiveModule.emitted (r.tick now).acts).length ≤ 1
    unfold Periodic.RequestRate.tick
    split
    · exact Nat.zero_le 1
    · exact Nat.le_refl 1

namespace Inv

variable {os : List Outline} {w : Scene}

theorem nodup_retired (h : Inv os w) : w.retired.Nodup :=
  (List.nodup_append.1 h.nodup).2.1

theorem stops_cases (h : Inv os w) (g : Nat) :
    (w.stops g).Nodup ∧ ∀ part ∈ w.stops g, g ∈ w.retired ∧ part ∈ partsOf w.shapes g := by
  have hperm := h.stops g
  by_cases hg : g ∈ w.retired
  · rw [if_pos hg] at hperm
    have hnodup := hperm.nodup_iff.2 (nodup_partsOf w.shapes g)
    refine ⟨(List.nodup_append.1 hnodup).1, fun part hp => ⟨hg, ?_⟩⟩
    exact hperm.mem_iff.1 (List.mem_append_left _ hp)
  · rw [(h.not_stopping hg).1]
    exact ⟨List.nodup_nil, fun part hp => (by cases hp)⟩

/-- Before a delivery to a generation nothing came to its end there. -/
theorem before_delivery (h : Inv os w) {k g j : Nat} {m : Measurement}
    {before after : List Happening} (hw : w.history = before ++ .delivered k g j m :: after) :
    .retired g ∉ before ∧ ∀ part, .stopping g part ∉ before := by
  have hquiet := h.quiet
  rw [hw, List.pairwise_append] at hquiet
  have hbefore (a : Happening) (ha : a ∈ before) : a.ends? ≠ some g :=
    hquiet.2.2 a ha _ List.mem_cons_self k g j m rfl
  exact ⟨fun ha => hbefore _ ha rfl, fun part ha => hbefore _ ha rfl⟩

/-- Once its stop has begun a reporter is not called any more. -/
theorem calls_end (h : Inv os w) (g j : Nat) :
    (w.callsOf g j).Pairwise fun c _ => c ≠ .stop := by
  have hstops := List.nodup_iff_pairwise_ne.1 (h.stops_cases g).1
  rw [Scene.stops, List.pairwise_filterMap] at hstops
  refine (h.quiet.and hstops).filterMap _ ?_
  rintro a b ⟨hquiet, hne⟩ c hc c' hc' rfl
  rcases Happening.callOf?_cases hc with ⟨_, _, -, he⟩ | ⟨rfl, -⟩
  · cases he
  · rcases Happening.callOf?_cases hc' with ⟨k, m, rfl, -⟩ | ⟨rfl, -⟩
    · exact hquiet k g j m rfl rfl
    · exact hne _ (if_pos rfl) _ (if_pos rfl) rfl

theorem settled (h : Inv os w) (howed : ∀ o ∈ os, o.owed = []) (hleft : ∀ o ∈ os, o.left = []) :
    (w.live :: w.retired).Perm (List.range w.shapes.length) ∧
      ∀ g ∈ w.retired, (w.stops g).Perm (partsOf w.shapes g) := by
  have hnone : os.flatMap (·.owed) = [] := List.flatMap_eq_nil_iff.2 howed
  have howned := h.owned
  rw [hnone] at howned
  refine ⟨howned, fun g hg => ?_⟩
  have hdone : os.flatMap (·.leftOf g) = [] := by
    apply List.flatMap_eq_nil_iff.2
    intro o ho
    rw [Outline.leftOf, hleft o ho]
    rfl
  have hstops := h.stops g
  rw [hdone, List.append_nil, if_pos hg] at hstops
  exact hstops

end Inv

namespace Dispatcher

variable {μ ρ : Type} [ModuleUnit μ] [ReporterUnit ρ]

open Shared (opened run)

/-- How a call has delivered what it had to, in a state that a schedule has come to: in visits, each of one
generation that was live at some moment of the call, in order and in full. -/
structure Served (d : Dispatcher μ ρ) (schedule : List Choice) (s : Shared μ ρ) (k : Nat)
    (c : Call μ ρ) : Prop where
  delivered : s.scene.deliveries k = c.outline.allVisits.flatMap (·.deliveries)
  keeps : Keeps c.request c.stage c.aims
  planned : c.outline.allVisits.map (·.source) ++ c.plan = c.aims
  live : ∀ v ∈ c.outline.allVisits, LiveFor d schedule k v.generation
  current : ∀ v, c.visit = some v → v.Follows s.scene.shapes
  there : ∀ v j m, c.visit = some v → .deliver j m ∈ v.pending →
    ∃ p r, s.generations[v.generation]? = some p ∧ p.reporters.reporters[j]? = some r
  full : ∀ v ∈ c.visits, v.Finished s.scene.shapes

theorem served (d : Dispatcher μ ρ) (schedule : List Choice) {k : Nat} {c : Call μ ρ}
    (hk : (run schedule (opened d)).calls[k]? = some c) :
    Served d schedule (run schedule (opened d)) k c := by
  have hsafe := Shared.safe_run d schedule
  have hout : (run schedule (opened d)).outlines[k]? = some c.outline := by
    rw [Shared.outlines, List.getElem?_map, hk]
    rfl
  have hsound := hsafe.sound c.outline (List.mem_of_getElem? hout)
  exact {
    delivered := hsafe.delivered k c.outline hout
    keeps := Shared.keeps_run d schedule hk
    planned := hsound.planned
    live := fun v hv => live_of_visit d schedule hk hv
    current := hsound.current
    there := by
      intro v j m hv hm
      obtain ⟨shape, hg, hj⟩ := (hsound.current v hv).lt_of_pending hm
      rw [Shared.scene, List.getElem?_map] at hg
      obtain ⟨p, hp, rfl⟩ := Option.map_eq_some_iff.1 hg
      rw [Pipeline.shape, Fanout.kinds, List.length_map] at hj
      exact ⟨p, p.reporters.reporters[j], hp, List.getElem?_eq_getElem hj⟩
    full := hsound.ended }

namespace Served

variable {d : Dispatcher μ ρ} {schedule : List Choice} {s : Shared μ ρ} {k : Nat} {c : Call μ ρ}

theorem complete (h : Served d schedule s k c) (ho : c.Ended) : c.visits.map (·.source) = c.aims := by
  have hplanned := h.planned
  obtain ⟨request, stage, performance, visit, visits, aims⟩ := c
  obtain ⟨rfl, rfl, rfl⟩ := ho
  simpa [Call.outline, Outline.allVisits, Call.plan] using hplanned

theorem length_aims (h : Served d schedule s k c) (hs : c.Simple) : c.aims.length ≤ 1 := by
  have hkeeps := h.keeps
  obtain ⟨request, stage, performance, visit, visits, aims⟩ := c
  cases request with
  | report e => cases hkeeps <;> exact Nat.le_refl 1
  | publish name routes m => cases hkeeps <;> exact Nat.le_refl 1
  | tick g i => exact hs
  | reload cfg => exact hs.elim
  | shutdown => exact hs.elim

theorem single (h : Served d schedule s k c) (hs : c.Simple) :
    c.plan = c.aims ∧ s.scene.deliveries k = [] ∨
      ∃ v : Visit, c.aims = [v.source] ∧ LiveFor d schedule k v.generation ∧
        s.scene.deliveries k = v.deliveries ∧ v.Follows s.scene.shapes ∧
        (c.Ended → v.Finished s.scene.shapes) := by
  have ha := h.length_aims hs
  have hplanned := h.planned
  have hdelivered := h.delivered
  cases hvisits : c.outline.allVisits with
  | nil =>
    rw [hvisits] at hplanned hdelivered
    exact .inl ⟨hplanned, hdelivered⟩
  | cons v rest =>
    rw [hvisits, List.map_cons, List.cons_append] at hplanned
    rw [← hplanned, List.length_cons] at ha
    have hnone := List.eq_nil_of_length_eq_zero (Nat.le_zero.1 (Nat.le_of_succ_le_succ ha))
    obtain ⟨hnil, -⟩ := List.append_eq_nil_iff.1 hnone
    obtain rfl := List.map_eq_nil_iff.1 hnil
    rw [hnone] at hplanned
    rw [hvisits, List.flatMap_singleton] at hdelivered
    have hv : v ∈ c.outline.allVisits := by
      rw [hvisits]
      exact List.mem_singleton_self v
    refine .inr ⟨v, hplanned.symm, h.live v hv, hdelivered, ?_, ?_⟩
    · rcases List.mem_append.1 hv with hm | hm
      · exact (h.full v hm).1
      · exact h.current v (Option.mem_toList.1 hm)
    · intro ho
      rcases List.mem_append.1 hv with hm | hm
      · exact h.full v hm
      · have hsome : c.visit = some v := Option.mem_toList.1 hm
        rw [ho.2.2] at hsome
        cases hsome

end Served

/-- Good order in a state that a schedule has come to. -/
structure Orderly (d : Dispatcher μ ρ) (schedule : List Choice) (s : Shared μ ρ) : Prop where
  served : ∀ k c, s.calls[k]? = some c → Served d schedule s k c
  complete : ∀ (k : Nat) (c : Call μ ρ), s.calls[k]? = some c → c.Ended →
    c.visits.map (·.source) = c.aims
  /-- A report or a tick has not begun to deliver, or it delivers to one generation, which was live at some
  moment of the call; it does so in order and, once it is over, in full. -/
  single : ∀ k c, s.calls[k]? = some c → c.Simple →
    c.plan = c.aims ∧ s.scene.deliveries k = [] ∨
      ∃ v : Visit, c.aims = [v.source] ∧ LiveFor d schedule k v.generation ∧
        s.scene.deliveries k = v.deliveries ∧ v.Follows s.scene.shapes ∧
        (c.Ended → v.Finished s.scene.shapes)
  /-- Nothing is delivered to a generation that is being stopped or was stopped. -/
  quiet : ∀ before after k g j m, s.history = before ++ .delivered k g j m :: after →
    .retired g ∉ before ∧ ∀ part, .stopping g part ∉ before
  retired : s.scene.retired.Nodup
  stopped : ∀ g, (s.scene.stops g).Nodup ∧
    ∀ part ∈ s.scene.stops g, g ∈ s.scene.retired ∧ part ∈ partsOf s.scene.shapes g
  /-- Each reporter is what the calls of it that are in the history have made of it. -/
  called : ∀ (g : Nat) p, s.generations[g]? = some p → ∃ p₀, Begins d p₀ ∧ ∀ j : Nat,
    p.reporters.reporters[j]? =
      (p₀.reporters.reporters[j]?).map (ReporterCall.all (s.scene.callsOf g j))
  last : ∀ g j, (s.scene.callsOf g j).Pairwise fun c _ => c ≠ .stop
  /-- When all calls are over, all generations but the live one have been retired and stopped. -/
  settled : (∀ c ∈ s.calls, c.Ended) →
    (s.liveNumber :: s.scene.retired).Perm (List.range s.scene.shapes.length) ∧
      ∀ g ∈ s.scene.retired, (s.scene.stops g).Perm (partsOf s.scene.shapes g)

/-- Whatever is asked of a dispatcher and whichever call goes on at any time, there is good order. The modules
that are there from the start emit one measurement at most when their timer is over. -/
theorem generations_orderly (d : Dispatcher μ ρ) (schedule : List Choice) :
    Orderly d schedule (run schedule (opened d)) ∧
      ∀ (now : Nat) (l : LiveModule BuiltinModule), (tickSources now l).length ≤ 1 := by
  have hsafe := Shared.safe_run d schedule
  refine ⟨?_, BuiltinModule.length_tickSources⟩
  exact {
    served := fun k c hk => served d schedule hk
    complete := fun k c hk hended => (served d schedule hk).complete hended
    single := fun k c hk hs => (served d schedule hk).single hs
    quiet := fun before after k g j m hw => hsafe.before_delivery hw
    retired := hsafe.nodup_retired
    stopped := hsafe.stops_cases
    called := fun g p hg => (Shared.recorded_run d schedule).called g _ (Shared.getElem?_rows hg)
    last := hsafe.calls_end
    settled := by
      intro hover
      refine hsafe.settled ?_ ?_
      · intro o ho
        obtain ⟨c, hc, rfl⟩ := List.mem_map.1 ho
        have hstage := (hover c hc).1
        simp only [Call.outline, Call.owed, hstage]
      · intro o ho
        obtain ⟨c, hc, rfl⟩ := List.mem_map.1 ho
        have hstage := (hover c hc).1
        simp only [Call.outline, Call.left, hstage] }

end Dispatcher

end QueryWatch
