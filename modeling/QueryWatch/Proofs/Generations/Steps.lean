import QueryWatch.Proofs.Generations.Safety
import QueryWatch.Proofs.Generations.Shared

namespace QueryWatch

namespace Pipeline

variable {μ ρ : Type} [ModuleUnit μ] [ReporterUnit ρ]

theorem shape_setModule {p : Pipeline μ ρ} {i : Nat} {l : LiveModule μ} (unit : μ)
    (hl : p.modules[i]? = some l) (hname : ModuleUnit.name unit = ModuleUnit.name l.unit) :
    shape { p with modules := p.modules.set i { l with unit } } = p.shape := by
  have hmap := map_set_eq (fun l : LiveModule μ => (l.name, l.routes)) (b := { l with unit }) hl
    (by rw [LiveModule.name, LiveModule.name, hname])
  rw [shape, hmap]
  rfl

theorem shape_setReporter {p : Pipeline μ ρ} {j : Nat} {r r' : ρ}
    (hr : p.reporters.reporters[j]? = some r) (hkind : ReporterUnit.kind r' = ReporterUnit.kind r) :
    shape { p with reporters := ⟨p.reporters.reporters.set j r'⟩ } = p.shape := by
  have hmap := map_set_eq ReporterUnit.kind hr hkind
  rw [shape, Fanout.kinds, hmap]
  rfl

end Pipeline

theorem Fanout.kind_deliver {ρ : Type} [ReporterUnit ρ] (m : Measurement) (r : ρ) :
    ReporterUnit.kind (deliver m r).1 = ReporterUnit.kind r := by
  rw [fst_deliver, ReporterUnit.kind_report]

theorem Fanout.kind_stopOne {ρ : Type} [ReporterUnit ρ] (r : ρ) :
    ReporterUnit.kind (stopOne r).1 = ReporterUnit.kind r := by
  have hstop : (stopOne r).1 = (ReporterUnit.stop r).unit := by
    unfold stopOne
    simp only
    split <;> rfl
  rw [hstop, ReporterUnit.kind_stop]

namespace Dispatcher.Shared

variable {μ ρ : Type} [ModuleUnit μ] [ReporterUnit ρ] {k : Nat} {c : Call μ ρ} {s s' : Shared μ ρ}

section

variable (s)

@[simp] theorem scene_put (k : Nat) (c : Call μ ρ) : (s.put k c).scene = s.scene :=
  rfl

@[simp] theorem scene_say (shown : List Signal) : (s.say shown).scene = s.scene :=
  rfl

@[simp] theorem scene_record (a : Happening) :
    (s.record a).scene = { s.scene with history := s.scene.history ++ [a] } :=
  rfl

variable {s} in
theorem scene_record_of {s' : Shared μ ρ} (h : s'.scene = s.scene) (a : Happening) :
    (s'.record a).scene = { s.scene with history := s.scene.history ++ [a] } := by
  rw [scene_record, h]

theorem scene_replace (p : Pipeline μ ρ) :
    (s.replace p).scene =
      { s.scene with shapes := s.scene.shapes ++ [p.shape], live := s.scene.shapes.length } := by
  simp [scene, replace, generations, liveNumber]

omit [ModuleUnit μ] [ReporterUnit ρ] in
@[simp] theorem calls_update (g : Nat) (p : Pipeline μ ρ) : (s.update g p).calls = s.calls := by
  unfold update
  split <;> rfl

omit [ModuleUnit μ] [ReporterUnit ρ] in
theorem generations_update {g : Nat} {p p' : Pipeline μ ρ} (hg : s.generations[g]? = some p) :
    (s.update g p').generations = s.generations.set g p' := by
  have hlt := (List.getElem?_eq_some_iff.1 hg).1
  rw [generations, List.length_append, List.length_singleton] at hlt
  unfold update liveNumber generations
  split
  · next hpast => exact (List.set_append_left _ _ hpast).symm
  · next hpast =>
    have heq : g = s.past.length := by omega
    rw [heq, List.set_append_right _ _ (Nat.le_refl _), Nat.sub_self]
    rfl

theorem scene_update {g : Nat} {p p' : Pipeline μ ρ} (hg : s.generations[g]? = some p)
    (hshape : p'.shape = p.shape) : (s.update g p').scene = s.scene := by
  have hshapes : (s.update g p').generations.map Pipeline.shape =
      s.generations.map Pipeline.shape := by
    rw [s.generations_update hg, map_set_eq Pipeline.shape hg hshape]
  have hlive : (s.update g p').liveNumber = s.liveNumber := by
    unfold update
    split
    · exact List.length_set
    · rfl
  have hhistory : (s.update g p').history = s.history := by
    unfold update
    split <;> rfl
  rw [scene, scene, hshapes, hlive, hhistory]

omit [ModuleUnit μ] in
theorem calls_reportAt (g j : Nat) (m : Measurement) : (s.reportAt g j m).calls = s.calls := by
  unfold reportAt
  split
  · rfl
  · split
    · rfl
    · exact s.calls_update g _

theorem scene_reportAt (g j : Nat) (m : Measurement) : (s.reportAt g j m).scene = s.scene := by
  unfold reportAt
  split
  · rfl
  · next p hg =>
    split
    · rfl
    · next r hr =>
      exact s.scene_update hg (Pipeline.shape_setReporter hr (Fanout.kind_deliver m r))

omit [ModuleUnit μ] in
theorem calls_stopReporter (g j : Nat) : (s.stopReporter g j).calls = s.calls := by
  unfold stopReporter
  split
  · rfl
  · split
    · rfl
    · exact s.calls_update g _

theorem scene_stopReporter (g j : Nat) : (s.stopReporter g j).scene = s.scene := by
  unfold stopReporter
  split
  · rfl
  · next p hg =>
    split
    · rfl
    · next r hr =>
      exact s.scene_update hg (Pipeline.shape_setReporter hr (Fanout.kind_stopOne r))

end

theorem shapes_scene {g : Nat} {p : Pipeline μ ρ} (hg : s.generations[g]? = some p) :
    s.scene.shapes[g]? = some p.shape := by
  rw [scene, List.getElem?_map, hg]
  rfl

theorem shapes_live (s : Shared μ ρ) :
    s.scene.shapes[s.scene.live]? = some s.dispatcher.live.shape := by
  refine shapes_scene (g := s.liveNumber) ?_
  exact List.getElem?_concat_length

/-- One call goes on, and in outline that is a move. -/
def Moves (k : Nat) (c : Call μ ρ) (s s' : Shared μ ρ) : Prop :=
  ∃ c', s'.calls = s.calls.set k c' ∧ c'.request = c.request ∧
    Move s.outlines k c.outline s.scene c'.outline s'.scene

theorem moves_rest (hk : s.calls[k]? = some c) : Moves k c s s := by
  obtain ⟨hlt, hc⟩ := List.getElem?_eq_some_iff.1 hk
  refine ⟨c, ?_, rfl, .rest⟩
  rw [← hc, List.set_getElem_self]

theorem Moves.of {c' : Call μ ρ} {w' : Scene} (hcalls : s'.calls = s.calls.set k c')
    (hr : c'.request = c.request) (hscene : s'.scene = w')
    (hmove : Move s.outlines k c.outline s.scene c'.outline w') : Moves k c s s' := by
  refine ⟨c', hcalls, hr, ?_⟩
  rw [hscene]
  exact hmove

theorem moves_same {c' : Call μ ρ} (hcalls : s'.calls = s.calls.set k c')
    (hr : c'.request = c.request) (hscene : s'.scene = s.scene) (ho : c'.outline = c.outline) :
    Moves k c s s' := by
  refine .of hcalls hr hscene ?_
  rw [ho]
  exact .rest

theorem moves_hold {c' : Call μ ρ} {source : Source} (hv : c.visit = none)
    (hr : c'.request = c.request) (hp : c.plan = source :: c'.plan)
    (ho : c'.outline = { c.outline with plan := c'.plan }) : Moves k c s (s.hold k c' source) := by
  let v : Visit := .fresh s.liveNumber s.dispatcher.live.shape source
  have hout : Call.outline { c' with visit := some v } = { c'.outline with visit := some v } := rfl
  refine .of rfl hr rfl ?_
  rw [hout, ho]
  exact .hold hv hp s.shapes_live

theorem moves_count {v : Visit} {name : String} {rest : List Chore} (hv : c.visit = some v)
    (hp : v.pending = .count name :: rest) : Moves k c s (s.count k c v name rest) :=
  .of rfl rfl rfl (.count hv hp)

theorem moves_deliver {v : Visit} {j : Nat} {m : Measurement} {rest : List Chore}
    (hv : c.visit = some v) (hp : v.pending = .deliver j m :: rest) :
    Moves k c s (s.deliver k c v j m rest) := by
  have hcalls : (s.deliver k c v j m rest).calls = s.calls.set k
      { c with visit := some { v with pending := rest, made := v.made ++ [.deliver j m] } } :=
    congrArg (List.set · k _) (s.calls_reportAt v.generation j m)
  refine .of hcalls rfl ?_ (.deliver hv hp)
  rw [deliver, scene_record, scene_put, scene_reportAt]

theorem moves_ask {v : Visit} {e : QueryEvent} {p : Pipeline μ ρ} {l : LiveModule μ}
    (hv : c.visit = some v) (hs : v.source = .event e) (hp : v.pending = [])
    (hg : s.generations[v.generation]? = some p) (hl : p.modules[v.answers.length]? = some l) :
    Moves k c s (s.ask k c v e p l) := by
  let ms := if (ModuleUnit.transform e l.unit).1.panicked then []
    else (ModuleUnit.transform e l.unit).2
  have hmodule : p.shape.modules[v.answers.length]? = some (l.name, l.routes) := by
    rw [Pipeline.shape, List.getElem?_map, hl]
    rfl
  have hcalls : (s.ask k c v e p l).calls = s.calls.set k { c with visit := some { v with
      answers := v.answers ++ [ms]
      pending := choresOf p.shape.kinds v.answers.length (l.name, l.routes) ms } } :=
    congrArg (List.set · k _) (s.calls_update v.generation _)
  have hshape := Pipeline.shape_setModule (ModuleUnit.transform e l.unit).1.unit hl
    (ModuleUnit.name_transform e l.unit)
  refine .of hcalls rfl ?_ (.ask ms hv hs hp (shapes_scene hg) hmodule)
  rw [ask, scene_say, scene_put, s.scene_update hg hshape]

theorem moves_release {v : Visit} {p : Pipeline μ ρ} (hv : c.visit = some v) (hp : v.pending = [])
    (hg : s.generations[v.generation]? = some p) (hh : v.Heard p.shape) :
    Moves k c s (s.release k c v) :=
  .of rfl rfl rfl (.release hv hp (shapes_scene hg) hh)

theorem moves_serve {v : Visit} (hk : s.calls[k]? = some c) (hv : c.visit = some v) :
    Moves k c s (s.serve k c v) := by
  simp only [serve]
  split
  · next name rest hp => exact moves_count hv hp
  · next j m rest hp => exact moves_deliver hv hp
  · next hp =>
    split
    · exact moves_rest hk
    · next p name routes m hs hg =>
      apply moves_release hv hp hg
      rw [Visit.Heard, hs]
      trivial
    · next e p hs hg =>
      split
      · next l hl => exact moves_ask hv hs hp hg hl
      · next hl =>
        apply moves_release hv hp hg
        rw [Visit.Heard, hs]
        simpa [Pipeline.shape] using hl

theorem moves_perform {a : Performance} (hv : c.visit = none) (ha : c.performance = some a) :
    Moves k c s (s.perform k c a) := by
  obtain ⟨request, stage, performance, visit, visits, aims⟩ := c
  obtain ⟨name, routes, acts, last⟩ := a
  cases ha
  cases acts with
  | nil => exact moves_same rfl rfl rfl rfl
  | cons act acts =>
    cases act with
    | signal x => exact moves_same rfl rfl rfl rfl
    | emit m => exact moves_hold hv rfl rfl rfl

/-- A module that is called gives the call more to deliver, and in outline nothing else. -/
theorem callModule_outline (g i : Nat) {call : μ → ModuleTurn μ} (onPanic : String → List Signal)
    (hname : ∀ u, ModuleUnit.name (call u).unit = ModuleUnit.name u) (hp : c.performance = none)
    (hs : c.stage ≠ .begun) (s : Shared μ ρ) :
    ∃ c' more, (s.callModule k c g i call onPanic).calls = s.calls.set k c' ∧
      c'.request = c.request ∧ (s.callModule k c g i call onPanic).scene = s.scene ∧
      c'.outline = { c.outline with intended := c.aims ++ more, plan := c.plan ++ more } := by
  have hnone : c.outline = { c.outline with intended := c.aims ++ [], plan := c.plan ++ [] } := by
    rw [List.append_nil, List.append_nil]
    rfl
  simp only [callModule]
  split
  · exact ⟨c, [], rfl, rfl, rfl, hnone⟩
  · next p hg =>
    split
    · exact ⟨c, [], rfl, rfl, rfl, hnone⟩
    · next l hl =>
      let a := Performance.of l (call l.unit) onPanic
      refine ⟨{ c with performance := some a, aims := c.aims ++ a.sources }, a.sources, ?_, rfl, ?_, ?_⟩
      · exact congrArg (List.set · k _) (s.calls_update g _)
      · exact s.scene_update hg (Pipeline.shape_setModule _ hl (hname l.unit))
      · obtain ⟨request, stage, performance, visit, visits, aims⟩ := c
        cases hp
        cases stage with
        | begun => exact absurd rfl hs
        | _ => simp [Call.outline, Call.plan, Call.owed, Call.left]

theorem moves_callModule {c' : Call μ ρ} (g i : Nat) {call : μ → ModuleTurn μ}
    (onPanic : String → List Signal)
    (hname : ∀ u, ModuleUnit.name (call u).unit = ModuleUnit.name u) (hp : c'.performance = none)
    (hs : c'.stage ≠ .begun) (hr : c'.request = c.request) (ho : c'.outline = c.outline) :
    Moves k c s (s.callModule k c' g i call onPanic) := by
  obtain ⟨c'', more, hcalls, hr', hscene, hout⟩ := callModule_outline g i onPanic hname hp hs s
  refine .of hcalls (hr'.trans hr) hscene ?_
  have hturn : c''.outline = { c.outline with
      intended := c.outline.intended ++ more, plan := c.outline.plan ++ more } := by
    rw [hout, ← ho]
    rfl
  rw [hturn]
  exact .turn more

theorem moves_acquire {c' : Call μ ρ} (hk : s.calls[k]? = some c) (hr : c'.request = c.request)
    (ho : c'.outline = c.outline) : Moves k c s (s.acquire k c') := by
  simp only [acquire]
  split
  · exact moves_rest hk
  · exact moves_same rfl hr rfl ho

theorem moves_begin (hk : s.calls[k]? = some c) (hv : c.visit = none) (hp : c.performance = none)
    (hs : c.stage = .begun) : Moves k c s (s.begin k c) := by
  obtain ⟨request, stage, performance, visit, visits, aims⟩ := c
  cases hv
  cases hp
  cases hs
  cases request with
  | report e => exact moves_hold rfl rfl rfl rfl
  | publish name routes m => exact moves_hold rfl rfl rfl rfl
  | tick g i =>
    exact moves_callModule g i _ (ModuleUnit.name_tick _) rfl (fun h => (by cases h)) rfl rfl
  | reload cfg => exact moves_acquire hk rfl rfl
  | shutdown =>
    simp only [begin]
    split
    · exact moves_same rfl rfl rfl rfl
    · exact moves_same rfl rfl rfl rfl

theorem moves_replace {c' : Call μ ρ} (p : Pipeline μ ρ) (hn : c.owed = [])
    (hr : c'.request = c.request) (ho : c'.outline = { c.outline with owed := [s.liveNumber] }) :
    Moves k c s ((s.replace p).put k c') := by
  refine .of rfl hr ((scene_put ..).trans (s.scene_replace p)) ?_
  rw [ho]
  exact .swap p.shape hn

omit [ModuleUnit μ] [ReporterUnit ρ] in
theorem free_outlines {g : Nat} (h : s.isFree g = true) :
    ∀ o ∈ s.outlines, ∀ v, o.visit = some v → v.generation ≠ g := by
  intro o ho v hv
  obtain ⟨c, hc, rfl⟩ := List.mem_map.1 ho
  have hcall := List.all_eq_true.1 h c hc
  rw [show c.visit = some v from hv] at hcall
  exact of_decide_eq_true hcall

theorem moves_drain {old : Nat} (hk : s.calls[k]? = some c) (hs : c.stage = .draining old) :
    Moves k c s (s.drain k c old) := by
  simp only [drain]
  split
  · exact moves_rest hk
  · next p hg =>
    split
    · next hfree =>
      obtain ⟨request, stage, performance, visit, visits, aims⟩ := c
      cases hs
      exact .of rfl rfl rfl (.retire rfl rfl (shapes_scene hg) (free_outlines hfree))
    · exact moves_rest hk

theorem moves_stopPart {old : Nat} {part : Part} {left : List Part} (hp : c.performance = none)
    (hs : c.stage = .stopping old (part :: left)) :
    Moves k c s (s.stopPart k { c with stage := .stopping old left } old part) := by
  obtain ⟨request, stage, performance, visit, visits, aims⟩ := c
  cases hp
  cases hs
  let c₁ : Call μ ρ := ⟨request, .stopping old left, none, visit, visits, aims⟩
  cases part with
  | module i =>
    obtain ⟨c', more, hcalls, hr, hscene, hout⟩ := callModule_outline (k := k) (c := c₁) old i
      (fun name => [.notice (.stopPanicked name)]) ModuleUnit.name_stop rfl
      (fun h => (by cases h)) s
    refine .of hcalls hr (scene_record_of hscene (.stopping old (.module i))) ?_
    rw [hout]
    exact .stop more rfl
  | reporter j =>
    have hcalls := congrArg (List.set · k c₁) (s.calls_stopReporter old j)
    have hnone : c₁.outline = { c₁.outline with intended := aims ++ [], plan := c₁.plan ++ [] } := by
      rw [List.append_nil, List.append_nil]
      rfl
    refine .of hcalls rfl (scene_record_of (s.scene_stopReporter old j) (.stopping old (.reporter j))) ?_
    rw [hnone]
    exact .stop [] rfl

theorem moves_goOn (hk : s.calls[k]? = some c) (hv : c.visit = none) (hp : c.performance = none) :
    Moves k c s (s.goOn k c) := by
  obtain ⟨request, stage, performance, visit, visits, aims⟩ := c
  cases hv
  cases hp
  cases stage with
  | begun => exact moves_begin hk rfl rfl rfl
  | locked cfg =>
    refine moves_same rfl rfl rfl ?_
    cases hs : s.dispatcher.isShutDown <;> rfl
  | allowed cfg => exact moves_same rfl rfl rfl rfl
  | built p => exact moves_replace p rfl rfl rfl
  | starting g old left =>
    cases left with
    | nil => exact moves_same rfl rfl rfl rfl
    | cons i left =>
      exact moves_callModule g i _ (ModuleUnit.name_start _) rfl (fun h => (by cases h)) rfl rfl
  | flagged => exact moves_acquire hk rfl rfl
  | clearing => exact moves_replace _ rfl rfl rfl
  | cleared old => exact moves_same rfl rfl rfl rfl
  | draining old => exact moves_drain hk rfl
  | stopping old left =>
    cases left with
    | nil => cases request <;> exact moves_same rfl rfl rfl rfl
    | cons part left => exact moves_stopPart rfl rfl
  | unlocking installed => exact moves_same rfl rfl rfl rfl
  | telling installed => exact moves_same rfl rfl rfl rfl
  | ended => exact moves_rest hk

theorem moves_advance (hk : s.calls[k]? = some c) : Moves k c s (s.advance k) := by
  simp only [advance, hk]
  split
  · next v hv => exact moves_serve hk hv
  · next a hv ha => exact moves_perform hv ha
  · next hv ha => exact moves_goOn hk hv ha

def Safe (s : Shared μ ρ) : Prop :=
  Inv s.outlines s.scene

theorem safe_advance (h : s.Safe) (k : Nat) : (s.advance k).Safe := by
  cases hk : s.calls[k]? with
  | none => simpa [advance, hk] using h
  | some c =>
    obtain ⟨c', hcalls, -, hmove⟩ := moves_advance hk
    have hout : s.outlines[k]? = some c.outline := by
      rw [outlines, List.getElem?_map, hk]
      rfl
    have hafter : (s.advance k).outlines = s.outlines.set k c'.outline := by
      rw [outlines, outlines, hcalls, List.map_set]
    rw [Safe, hafter]
    exact h.move hout hmove

theorem safe_next (h : s.Safe) (choice : Choice) : (next choice s).Safe := by
  cases choice with
  | request r =>
    have hafter : (next (.request r) s).outlines =
        s.outlines ++ [{ intended := r.sources, plan := r.sources }] := by
      simp only [next, outlines, List.map_append, List.map_cons, List.map_nil]
      rfl
    rw [Safe, hafter]
    exact h.begin r.sources
  | call k => exact safe_advance h k
  | elapse time => exact h

theorem safe_run (d : Dispatcher μ ρ) (schedule : List Choice) : (run schedule (opened d)).Safe := by
  have start : (opened d).Safe := Inv.first d.live.shape
  exact Schedule.run_invariant (P := Safe) start (fun choice _ h => safe_next h choice) schedule

end Dispatcher.Shared

end QueryWatch
