import QueryWatch.Proofs.Generations.Steps

namespace QueryWatch

theorem Outline.mem_allVisits_of_goesOn {o : Outline} {v v₀ v₁ : Visit}
    (h : v ∈ allVisits { o with visit := some v₁ }) (h₀ : o.visit = some v₀)
    (hg : v₁.generation = v₀.generation) : ∃ v₀ ∈ o.allVisits, v₀.generation = v.generation := by
  rcases List.mem_append.1 h with hm | hm
  · exact ⟨v, List.mem_append_left _ hm, rfl⟩
  · obtain rfl := List.mem_singleton.1 hm
    refine ⟨v₀, List.mem_append_right _ ?_, hg.symm⟩
    rw [h₀]
    exact List.mem_singleton_self v₀

/-- A visit that is there after a move was there before, or begins in the live generation. -/
theorem Move.visit_cases {os : List Outline} {k : Nat} {o o' : Outline} {w w' : Scene}
    (h : Move os k o w o' w') {v : Visit} (hv : v ∈ o'.allVisits) :
    (∃ v₀ ∈ o.allVisits, v₀.generation = v.generation) ∨
      v.generation = w.live ∧ o.plan ≠ [] := by
  have hsame (hm : v ∈ o.allVisits) : ∃ v₀ ∈ o.allVisits, v₀.generation = v.generation :=
    ⟨v, hm, rfl⟩
  cases h with
  | hold hn hp hl =>
    rcases List.mem_append.1 hv with hm | hm
    · exact .inl (hsame (List.mem_append_left _ hm))
    · obtain rfl := List.mem_singleton.1 hm
      refine .inr ⟨rfl, ?_⟩
      rw [hp]
      exact List.cons_ne_nil _ _
  | ask ms h₀ hs hp hg hm => exact .inl (Outline.mem_allVisits_of_goesOn hv h₀ rfl)
  | count h₀ hp => exact .inl (Outline.mem_allVisits_of_goesOn hv h₀ rfl)
  | deliver h₀ hp => exact .inl (Outline.mem_allVisits_of_goesOn hv h₀ rfl)
  | release h₀ hp hg hh =>
    refine .inl (hsame ?_)
    simpa [Outline.allVisits, h₀] using hv
  | _ => exact .inl (hsame hv)

namespace Dispatcher

variable {μ ρ : Type} [ModuleUnit μ] [ReporterUnit ρ]

open Shared (opened run)

/-- At some moment of a schedule a generation was live, and a call was under way and had something to
deliver. -/
def LiveFor (d : Dispatcher μ ρ) (schedule : List Choice) (k g : Nat) : Prop :=
  ∃ before after c, schedule = before ++ after ∧ (run before (opened d)).liveNumber = g ∧
    (run before (opened d)).calls[k]? = some c ∧ c.plan ≠ []

theorem LiveFor.concat {d : Dispatcher μ ρ} {schedule : List Choice} {k g : Nat}
    (h : LiveFor d schedule k g) (choice : Choice) : LiveFor d (schedule ++ [choice]) k g := by
  obtain ⟨before, after, c, rfl, hlive, hk, hplan⟩ := h
  exact ⟨before, after ++ [choice], c, List.append_assoc .., hlive, hk, hplan⟩

/-- Each generation that a call holds or has held was live at some moment of that call. -/
theorem live_of_visit (d : Dispatcher μ ρ) (schedule : List Choice) {k : Nat} {c : Call μ ρ}
    (hk : (run schedule (opened d)).calls[k]? = some c) {v : Visit}
    (hv : v ∈ c.outline.allVisits) : LiveFor d schedule k v.generation := by
  -- The moment is that of the step that took hold of the generation; it stays one when the schedule goes on.
  let P (schedule : List Choice) (s : Shared μ ρ) : Prop :=
    ∀ k c, s.calls[k]? = some c → ∀ v ∈ c.outline.allVisits, LiveFor d schedule k v.generation
  have start : P [] (opened d) := by
    intro k c hk
    cases hk
  have step (schedule : List Choice) (choice : Choice) (h : P schedule (run schedule (opened d))) :
      P (schedule ++ [choice]) (Shared.next choice (run schedule (opened d))) := by
    intro k c hk v hv
    have hsame (hk : (run schedule (opened d)).calls[k]? = some c) :
        LiveFor d (schedule ++ [choice]) k v.generation := (h k c hk v hv).concat choice
    cases choice with
    | elapse time => exact hsame hk
    | request r =>
      change ((run schedule (opened d)).calls ++ [{ request := r, aims := r.sources }])[k]? = _ at hk
      rcases getElem?_concat_cases hk with hk | ⟨rfl, rfl⟩
      · exact hsame hk
      · cases hv
    | call j =>
      change (Shared.advance j (run schedule (opened d))).calls[k]? = some c at hk
      cases hj : (run schedule (opened d)).calls[j]? with
      | none =>
        simp only [Shared.advance, hj] at hk
        exact hsame hk
      | some c₀ =>
        obtain ⟨c', hcalls, -, hmove⟩ := Shared.moves_advance hj
        rw [hcalls] at hk
        by_cases he : j = k
        · subst j
          rw [List.getElem?_set_self (List.getElem?_eq_some_iff.1 hj).1] at hk
          obtain rfl := Option.some.inj hk
          rcases hmove.visit_cases hv with ⟨v₀, hm, hgen⟩ | ⟨hgen, hplan⟩
          · rw [← hgen]
            exact (h k c₀ hj v₀ hm).concat _
          · exact ⟨schedule, [.call k], c₀, rfl, hgen.symm, hj, hplan⟩
        · rw [List.getElem?_set_ne he] at hk
          exact hsame hk
  exact Schedule.run_induction (P := P) start step schedule k c hk v hv

def tickSources (now : Nat) (l : LiveModule μ) : List Source :=
  (LiveModule.emitted (ModuleUnit.tick now l.unit).acts).map fun m =>
    .emission l.name l.routes m

/-- What a call may have taken upon itself by the stage it has got to. A report and a publication have one
thing to deliver; a tick has what its module gives in one call. -/
inductive Keeps : Request → Stage μ ρ → List Source → Prop
  | begun {r} : Keeps r .begun r.sources
  | report {e} : Keeps (.report e) .ended [.event e]
  | publish {name routes m} : Keeps (.publish name routes m) .ended [.emission name routes m]
  | tick {g i} (now : Nat) (l : LiveModule μ) : Keeps (.tick g i) .ended (tickSources now l)
  | missed {g i} : Keeps (.tick g i) .ended []
  | reload {c stage aims} : Keeps (.reload c) stage aims
  | shutdown {stage aims} : Keeps .shutdown stage aims

namespace Shared

variable {k : Nat} {c : Call μ ρ} {s : Shared μ ρ}

def Stays (k : Nat) (c : Call μ ρ) (s s' : Shared μ ρ) : Prop :=
  ∃ c', s'.calls = s.calls.set k c' ∧ c'.request = c.request ∧ c'.stage = c.stage ∧
    c'.aims = c.aims

omit [ModuleUnit μ] [ReporterUnit ρ] in
theorem stays_rest (hk : s.calls[k]? = some c) : Stays k c s s := by
  obtain ⟨hlt, hc⟩ := List.getElem?_eq_some_iff.1 hk
  refine ⟨c, ?_, rfl, rfl, rfl⟩
  rw [← hc, List.set_getElem_self]

theorem stays_serve (hk : s.calls[k]? = some c) (v : Visit) : Stays k c s (s.serve k c v) := by
  have hdeliver {j : Nat} {m : Measurement} {rest : List Chore} :
      Stays k c s (s.deliver k c v j m rest) :=
    ⟨_, congrArg (List.set · k _) (s.calls_reportAt v.generation j m), rfl, rfl, rfl⟩
  have hask {e : QueryEvent} {p : Pipeline μ ρ} {l : LiveModule μ} :
      Stays k c s (s.ask k c v e p l) :=
    ⟨_, congrArg (List.set · k _) (s.calls_update v.generation _), rfl, rfl, rfl⟩
  have hrelease : Stays k c s (s.release k c v) := ⟨_, rfl, rfl, rfl, rfl⟩
  simp only [serve]
  split
  · exact ⟨_, rfl, rfl, rfl, rfl⟩
  · exact hdeliver
  · split
    · exact stays_rest hk
    · exact hrelease
    · split
      · exact hask
      · exact hrelease

theorem stays_perform (a : Performance) : Stays k c s (s.perform k c a) := by
  simp only [perform]
  split <;> exact ⟨_, rfl, rfl, rfl, rfl⟩

omit [ReporterUnit ρ] in
theorem keeps_tick {c : Call μ ρ} {g i : Nat} (hr : c.request = .tick g i) (hs : c.stage = .ended)
    (ha : c.aims = []) (s : Shared μ ρ) :
    ∃ c', (s.tickModule k c g i).calls = s.calls.set k c' ∧
      Keeps (μ := μ) (ρ := ρ) c'.request c'.stage c'.aims := by
  have hnone : Keeps (μ := μ) c.request c.stage c.aims := by
    rw [hr, hs, ha]
    exact .missed
  simp only [tickModule, callModule]
  split
  · exact ⟨c, rfl, hnone⟩
  · next p hg =>
    split
    · exact ⟨c, rfl, hnone⟩
    · next l hl =>
      refine ⟨_, congrArg (List.set · k _) (s.calls_update g _), ?_⟩
      rw [hr, hs, ha, List.nil_append]
      exact .tick s.dispatcher.now l

theorem keeps_of_moves {s' : Shared μ ρ} (h : Moves k c s s')
    (hfree : ∀ stage aims, Keeps (μ := μ) (ρ := ρ) c.request stage aims) :
    ∃ c', s'.calls = s.calls.set k c' ∧ Keeps c'.request c'.stage c'.aims := by
  obtain ⟨c', hcalls, hr, -⟩ := h
  refine ⟨c', hcalls, ?_⟩
  rw [hr]
  exact hfree c'.stage c'.aims

omit [ReporterUnit ρ] in
theorem keeps_of_stays {s' : Shared μ ρ} (hs : Stays k c s s')
    (h : Keeps c.request c.stage c.aims) :
    ∃ c', s'.calls = s.calls.set k c' ∧ Keeps c'.request c'.stage c'.aims := by
  obtain ⟨c', hcalls, hr, hstage, haims⟩ := hs
  refine ⟨c', hcalls, ?_⟩
  rw [hr, hstage, haims]
  exact h

theorem keeps_goOn (hk : s.calls[k]? = some c) (hv : c.visit = none) (hp : c.performance = none)
    (h : Keeps c.request c.stage c.aims) :
    ∃ c', (s.goOn k c).calls = s.calls.set k c' ∧ Keeps c'.request c'.stage c'.aims := by
  have hmoves := moves_goOn hk hv hp
  have hrest := stays_rest hk
  obtain ⟨request, stage, performance, visit, visits, aims⟩ := c
  change Keeps request stage aims at h
  cases h with
  | begun =>
    cases request with
    | report e => exact ⟨_, rfl, .report⟩
    | publish name routes m => exact ⟨_, rfl, .publish⟩
    | tick g i => exact keeps_tick rfl rfl rfl s
    | reload cfg => exact keeps_of_moves hmoves fun _ _ => .reload
    | shutdown => exact keeps_of_moves hmoves fun _ _ => .shutdown
  | report => exact keeps_of_stays hrest .report
  | publish => exact keeps_of_stays hrest .publish
  | tick now l => exact keeps_of_stays hrest (.tick now l)
  | missed => exact keeps_of_stays hrest .missed
  | reload => exact keeps_of_moves hmoves fun _ _ => .reload
  | shutdown => exact keeps_of_moves hmoves fun _ _ => .shutdown

theorem keeps_advance (hk : s.calls[k]? = some c) (h : Keeps c.request c.stage c.aims) :
    ∃ c', (s.advance k).calls = s.calls.set k c' ∧ Keeps c'.request c'.stage c'.aims := by
  simp only [advance, hk]
  split
  · next v hv => exact keeps_of_stays (stays_serve hk v) h
  · next a hv ha => exact keeps_of_stays (stays_perform a) h
  · next hv hp => exact keeps_goOn hk hv hp h

theorem keeps_run (d : Dispatcher μ ρ) (schedule : List Choice) {k : Nat} {c : Call μ ρ}
    (hk : (run schedule (opened d)).calls[k]? = some c) : Keeps c.request c.stage c.aims := by
  let P (s : Shared μ ρ) : Prop := ∀ c ∈ s.calls, Keeps c.request c.stage c.aims
  have step (choice : Choice) (s : Shared μ ρ) (h : P s) : P (next choice s) := by
    intro c hc
    cases choice with
    | elapse time => exact h c hc
    | request r =>
      rcases List.mem_append.1 hc with hc | hc
      · exact h c hc
      · obtain rfl := List.mem_singleton.1 hc
        exact .begun
    | call j =>
      change c ∈ (s.advance j).calls at hc
      cases hj : s.calls[j]? with
      | none =>
        simp only [advance, hj] at hc
        exact h c hc
      | some c₀ =>
        obtain ⟨c', hcalls, hkeeps⟩ := keeps_advance hj (h c₀ (List.mem_of_getElem? hj))
        rw [hcalls] at hc
        rcases mem_set_cases hc with rfl | hc
        · exact hkeeps
        · exact h c hc
  exact Schedule.run_invariant (P := P) (fun c hc => (by cases hc)) step schedule c
    (List.mem_of_getElem? hk)

end Shared

end Dispatcher

end QueryWatch
