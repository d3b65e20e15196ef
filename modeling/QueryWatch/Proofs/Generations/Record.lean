import QueryWatch.Proofs.Generations.Moments
import QueryWatch.Proofs.Operations.Basic

namespace QueryWatch

/-- What a reporter is called for. -/
inductive ReporterCall
  | report (m : Measurement)
  | stop

namespace ReporterCall

variable {ρ : Type} [ReporterUnit ρ]

def on : ReporterCall → ρ → ρ
  | report m, r => (Fanout.deliver m r).1
  | stop, r => (Fanout.stopOne r).1

def all (calls : List ReporterCall) (r : ρ) : ρ :=
  calls.foldl (fun r c => c.on r) r

theorem all_append (first second : List ReporterCall) :
    all (ρ := ρ) (first ++ second) = all second ∘ all first :=
  funext fun _ => List.foldl_append

end ReporterCall

namespace Happening

def generation : Happening → Nat
  | delivered _ g _ _ => g
  | retired g => g
  | stopping g _ => g

def callOf? (g j : Nat) : Happening → Option ReporterCall
  | delivered _ g' j' m => if g' = g ∧ j' = j then some (.report m) else none
  | retired _ => none
  | stopping _ (.module _) => none
  | stopping g' (.reporter j') => if g' = g ∧ j' = j then some .stop else none

theorem callOf?_of_ne {g : Nat} (j : Nat) {a : Happening} (h : a.generation ≠ g) :
    a.callOf? g j = none := by
  cases a with
  | delivered k g' j' m => exact if_neg fun he => h he.1
  | retired g' => rfl
  | stopping g' part =>
    cases part with
    | module i => rfl
    | reporter j' => exact if_neg fun he => h he.1

theorem callOf?_cases {g j : Nat} {a : Happening} {c : ReporterCall}
    (h : a.callOf? g j = some c) :
    (∃ k m, a = delivered k g j m ∧ c = .report m) ∨ a = stopping g (.reporter j) ∧ c = .stop := by
  cases a with
  | delivered k g' j' m =>
    obtain ⟨⟨rfl, rfl⟩, hc⟩ := Option.ite_none_right_eq_some.1 h
    exact .inl ⟨k, m, rfl, (Option.some.inj hc).symm⟩
  | retired g' => cases h
  | stopping g' part =>
    cases part with
    | module i => cases h
    | reporter j' =>
      obtain ⟨⟨rfl, rfl⟩, hc⟩ := Option.ite_none_right_eq_some.1 h
      exact .inr ⟨rfl, (Option.some.inj hc).symm⟩

variable {ρ : Type} [ReporterUnit ρ]

/-- What something makes of the reporters of all generations. -/
def effect : Happening → List (List ρ) → List (List ρ)
  | delivered _ g j m, rows => rows.modify g fun row => row.modify j (ReporterCall.report m).on
  | retired _, rows => rows
  | stopping _ (.module _), rows => rows
  | stopping g (.reporter j), rows => rows.modify g fun row => row.modify j ReporterCall.stop.on

theorem getElem?_modify_modify {rows : List (List ρ)} {row' : List ρ} {g g' j' : Nat}
    {c : ReporterCall}
    (h : (rows.modify g' fun row => row.modify j' c.on)[g]? = some row') :
    ∃ row, rows[g]? = some row ∧ ∀ j, row'[j]? =
      row[j]?.map (ReporterCall.all (if g' = g ∧ j' = j then some c else none).toList) := by
  rw [List.getElem?_modify] at h
  obtain ⟨row, hrow, rfl⟩ := Option.map_eq_some_iff.1 h
  refine ⟨row, hrow, fun j => ?_⟩
  by_cases hg : g' = g
  · by_cases hj : j' = j
    · rw [if_pos hg, List.getElem?_modify, if_pos ⟨hg, hj⟩]
      simp only [hj, if_true]
      rfl
    · rw [if_pos hg, List.getElem?_modify, if_neg fun he => hj he.2]
      simp only [hj, if_false]
      rfl
  · rw [if_neg hg, if_neg fun he => hg he.1]
    exact (congrFun Option.map_id _).symm

theorem getElem?_effect {a : Happening} {rows : List (List ρ)} {row' : List ρ} {g : Nat}
    (h : (a.effect rows)[g]? = some row') :
    ∃ row, rows[g]? = some row ∧
      ∀ j, row'[j]? = row[j]?.map (ReporterCall.all (a.callOf? g j).toList) := by
  have hsame (h : rows[g]? = some row') :
      ∃ row, rows[g]? = some row ∧ ∀ j : Nat, row'[j]? = row[j]?.map (ReporterCall.all []) :=
    ⟨row', h, fun _ => (congrFun Option.map_id _).symm⟩
  cases a with
  | delivered k g' j' m => exact getElem?_modify_modify h
  | retired g' => exact hsame h
  | stopping g' part =>
    cases part with
    | module i => exact hsame h
    | reporter j' => exact getElem?_modify_modify h

end Happening

namespace Scene

def callsOf (g j : Nat) (w : Scene) : List ReporterCall :=
  w.history.filterMap (Happening.callOf? g j)

theorem callsOf_concat (g j : Nat) (w : Scene) (a : Happening) :
    callsOf g j { w with history := w.history ++ [a] } =
      w.callsOf g j ++ (a.callOf? g j).toList := by
  simp only [callsOf, List.filterMap_append]
  cases h : a.callOf? g j <;> simp [h]

end Scene

namespace Inv

variable {os : List Outline} {w : Scene}

theorem generation_lt (h : Inv os w) {a : Happening} (ha : a ∈ w.history) :
    a.generation < w.shapes.length := by
  cases a with
  | delivered k g j m =>
    have hmem : (g, j, m) ∈ w.deliveries k := List.mem_filterMap.2 ⟨_, ha, if_pos rfl⟩
    rcases Nat.lt_or_ge k os.length with hlt | hge
    · rw [h.delivered k os[k] (List.getElem?_eq_getElem hlt)] at hmem
      obtain ⟨v, hv, hd⟩ := List.mem_flatMap.1 hmem
      obtain ⟨shape, hshape, -⟩ := (h.sound os[k] (List.getElem_mem hlt)).follows hv
      obtain rfl := v.generation_of_mem_deliveries hd
      exact (List.getElem?_eq_some_iff.1 hshape).1
    · rw [h.known k hge] at hmem
      cases hmem
  | retired g => exact h.retired_lt (h.ended ha rfl)
  | stopping g part => exact h.retired_lt (h.ended ha rfl)

theorem callsOf_eq_nil (h : Inv os w) {g : Nat} (hg : w.shapes.length ≤ g) (j : Nat) :
    w.callsOf g j = [] := by
  apply List.filterMap_eq_nil_iff.2
  intro a ha
  have hlt := h.generation_lt ha
  exact a.callOf?_of_ne j (by omega)

end Inv

namespace Dispatcher

variable {μ ρ : Type} [ModuleUnit μ] [ReporterUnit ρ] {d : Dispatcher μ ρ}

/-- How a generation can begin: as the one that is live at first, from a configuration, or empty. -/
inductive Begins (d : Dispatcher μ ρ) : Pipeline μ ρ → Prop
  | first : Begins d d.live
  | built (c : Configuration) : Begins d (d.setting.built c).1
  | empty : Begins d (.empty d.defaults)

def Builds (d : Dispatcher μ ρ) (c : Call μ ρ) : Prop :=
  ∀ p, c.stage = .built p → Begins d p

omit [ModuleUnit μ] [ReporterUnit ρ] in
theorem Builds.of_stage {c c' : Call μ ρ} (h : Builds d c) (hstage : c'.stage = c.stage) :
    Builds d c' :=
  fun p hp => h p (hstage.symm.trans hp)

namespace Shared

variable {k : Nat} {c : Call μ ρ} {s s' : Shared μ ρ}

def rows (s : Shared μ ρ) : List (List ρ) :=
  s.generations.map fun p => p.reporters.reporters

omit [ModuleUnit μ] [ReporterUnit ρ] in
theorem rows_update {g : Nat} {p : Pipeline μ ρ} (hg : s.generations[g]? = some p)
    (p' : Pipeline μ ρ) : (s.update g p').rows = s.rows.set g p'.reporters.reporters := by
  rw [rows, s.generations_update hg, List.map_set]
  rfl

omit [ModuleUnit μ] [ReporterUnit ρ] in
theorem rows_update_modules {g : Nat} {p : Pipeline μ ρ} (hg : s.generations[g]? = some p)
    (modules : List (LiveModule μ)) : (s.update g { p with modules }).rows = s.rows := by
  have hrows := map_set_eq (fun p => p.reporters.reporters) (b := { p with modules }) hg rfl
  rw [rows, s.generations_update hg, hrows]
  rfl

omit [ModuleUnit μ] [ReporterUnit ρ] in
theorem history_update (g : Nat) (p : Pipeline μ ρ) : (s.update g p).history = s.history := by
  unfold update
  split <;> rfl

omit [ModuleUnit μ] [ReporterUnit ρ] in
theorem setting_update (g : Nat) (p : Pipeline μ ρ) :
    (s.update g p).dispatcher.setting = s.dispatcher.setting := by
  unfold update
  split <;> rfl

omit [ModuleUnit μ] [ReporterUnit ρ] in
theorem getElem?_rows {g : Nat} {p : Pipeline μ ρ} (hg : s.generations[g]? = some p) :
    s.rows[g]? = some p.reporters.reporters := by
  rw [rows, List.getElem?_map, hg]
  rfl

structure Calls (g j : Nat) (c : ReporterCall) (s s' : Shared μ ρ) : Prop where
  rows : s'.rows = s.rows.modify g fun row => row.modify j c.on
  history : s'.history = s.history
  setting : s'.dispatcher.setting = s.dispatcher.setting

omit [ModuleUnit μ] in
theorem calls_of_missing {g j : Nat} (c : ReporterCall)
    (h : ∀ p, s.generations[g]? = some p → p.reporters.reporters[j]? = none) :
    Calls g j c s s := by
  refine ⟨?_, rfl, rfl⟩
  cases hg : s.generations[g]? with
  | none =>
    have hlen : s.rows.length ≤ g := by
      rw [Shared.rows, List.length_map]
      exact List.getElem?_eq_none_iff.1 hg
    rw [List.modify_eq_self hlen]
  | some p =>
    have hrow : p.reporters.reporters.modify j c.on = p.reporters.reporters :=
      List.modify_eq_self (List.getElem?_eq_none_iff.1 (h p hg))
    rw [← set_eq_modify _ (getElem?_rows hg), hrow]
    obtain ⟨hlt, he⟩ := List.getElem?_eq_some_iff.1 (getElem?_rows hg)
    rw [← he, List.set_getElem_self]

omit [ModuleUnit μ] in
theorem calls_of_found {g j : Nat} {p : Pipeline μ ρ} {r : ρ} (hg : s.generations[g]? = some p)
    (hr : p.reporters.reporters[j]? = some r) (c : ReporterCall) (shown : List Signal) :
    Calls g j c s
      ((s.update g { p with reporters := ⟨p.reporters.reporters.set j (c.on r)⟩ }).say shown) := by
  refine ⟨?_, history_update g _, setting_update g _⟩
  refine (rows_update hg _).trans ?_
  rw [← set_eq_modify _ (getElem?_rows hg), set_eq_modify c.on hr]

omit [ModuleUnit μ] in
theorem calls_at (g j : Nat) (c : ReporterCall) (shown : ρ → List Signal) (s : Shared μ ρ) :
    Calls g j c s
      (match s.generations[g]? with
      | none => s
      | some p =>
        match p.reporters.reporters[j]? with
        | none => s
        | some r =>
          (s.update g { p with reporters := ⟨p.reporters.reporters.set j (c.on r)⟩ }).say
            (shown r)) := by
  split
  · next hg =>
    apply calls_of_missing
    intro p hp
    rw [hg] at hp
    cases hp
  · next p hg =>
    split
    · next hr =>
      apply calls_of_missing
      intro p' hp
      obtain rfl : p = p' := Option.some.inj (hg.symm.trans hp)
      exact hr
    · next r hr => exact calls_of_found hg hr c (shown r)

omit [ModuleUnit μ] in
theorem calls_report (g j : Nat) (m : Measurement) :
    Calls g j (.report m) s (s.reportAt g j m) :=
  calls_at g j (.report m) (fun r => (Fanout.deliver m r).2) s

omit [ModuleUnit μ] in
theorem calls_stop (g j : Nat) : Calls g j .stop s (s.stopReporter g j) :=
  calls_at g j .stop (fun r => (Fanout.stopOne r).2) s

/-- What a step does to the reporters and to the history. -/
inductive Effect (d : Dispatcher μ ρ) (s s' : Shared μ ρ) : Prop
  | nothing (hrows : s'.rows = s.rows) (hhistory : s'.history = s.history)
  | happens (a : Happening) (hrows : s'.rows = a.effect s.rows)
      (hhistory : s'.history = s.history ++ [a])
  | begins {p : Pipeline μ ρ} (hp : Begins d p) (hrows : s'.rows = s.rows ++ [p.reporters.reporters])
      (hhistory : s'.history = s.history)

structure Goes (d : Dispatcher μ ρ) (k : Nat) (s s' : Shared μ ρ) : Prop where
  calls : ∃ c', s'.calls = s.calls.set k c' ∧ Builds d c'
  setting : s'.dispatcher.setting = s.dispatcher.setting
  effect : Effect d s s'

omit [ModuleUnit μ] in
theorem goes_rest (hk : s.calls[k]? = some c) (hb : Builds d c) : Goes d k s s := by
  obtain ⟨hlt, hc⟩ := List.getElem?_eq_some_iff.1 hk
  refine ⟨⟨c, ?_, hb⟩, rfl, .nothing rfl rfl⟩
  rw [← hc, List.set_getElem_self]

theorem goes_serve (hk : s.calls[k]? = some c) (hb : Builds d c) (v : Visit) :
    Goes d k s (s.serve k c v) := by
  obtain ⟨c', hcalls, -, hstage, -⟩ := stays_serve hk v
  refine ⟨⟨c', hcalls, hb.of_stage hstage⟩, ?_, ?_⟩
  · simp only [serve]
    split
    · rfl
    · exact (calls_report v.generation _ _).setting
    · split
      · rfl
      · rfl
      · split
        · exact setting_update v.generation _
        · rfl
  · simp only [serve]
    split
    · exact .nothing rfl rfl
    · next j m rest hp =>
      have hreport := calls_report v.generation j m (s := s)
      exact .happens (.delivered k v.generation j m) hreport.rows
        (congrArg (· ++ [_]) hreport.history)
    · split
      · exact .nothing rfl rfl
      · exact .nothing rfl rfl
      · next e p hs hg =>
        split
        · exact .nothing (rows_update_modules hg _) (history_update v.generation _)
        · exact .nothing rfl rfl

theorem goes_perform (hb : Builds d c) (a : Performance) :
    Goes d k s (s.perform k c a) := by
  simp only [perform]
  split <;> exact ⟨⟨_, rfl, hb⟩, rfl, .nothing rfl rfl⟩

omit [ReporterUnit ρ] in
theorem callModule_leaves (k : Nat) (c : Call μ ρ) (g i : Nat) (call : μ → ModuleTurn μ)
    (onPanic : String → List Signal) (s : Shared μ ρ) :
    let s' := s.callModule k c g i call onPanic
    (∃ c', s'.calls = s.calls.set k c' ∧ c'.stage = c.stage) ∧ s'.rows = s.rows ∧
      s'.history = s.history ∧ s'.dispatcher.setting = s.dispatcher.setting := by
  simp only [callModule]
  split
  · exact ⟨⟨c, rfl, rfl⟩, rfl, rfl, rfl⟩
  · next p hg =>
    split
    · exact ⟨⟨c, rfl, rfl⟩, rfl, rfl, rfl⟩
    · exact ⟨⟨_, congrArg (List.set · k _) (s.calls_update g _), rfl⟩, rows_update_modules hg _,
        history_update g _, setting_update g _⟩

theorem goes_callModule {c' : Call μ ρ} (hb : Builds d c') (g i : Nat) (call : μ → ModuleTurn μ)
    (onPanic : String → List Signal) (s : Shared μ ρ) :
    Goes d k s (s.callModule k c' g i call onPanic) := by
  obtain ⟨⟨c'', hcalls, hstage⟩, hrows, hhistory, hsetting⟩ :=
    callModule_leaves k c' g i call onPanic s
  exact ⟨⟨c'', hcalls, hb.of_stage hstage⟩, hsetting, .nothing hrows hhistory⟩

omit [ModuleUnit μ] in
theorem goes_acquire {c' : Call μ ρ} (hk : s.calls[k]? = some c) (hb : Builds d c)
    (hb' : Builds d c') : Goes d k s (s.acquire k c') := by
  simp only [acquire]
  split
  · exact goes_rest hk hb
  · exact ⟨⟨c', rfl, hb'⟩, rfl, .nothing rfl rfl⟩

omit [ModuleUnit μ] in
theorem goes_replace {c' : Call μ ρ} {p : Pipeline μ ρ} (hp : Begins d p) (hb : Builds d c') :
    Goes d k s ((s.replace p).put k c') :=
  ⟨⟨c', rfl, hb⟩, rfl, .begins hp List.map_append rfl⟩

theorem goes_stopPart {c' : Call μ ρ} (hb : Builds d c') (g : Nat) (part : Part) :
    Goes d k s (s.stopPart k c' g part) := by
  cases part with
  | module i =>
    obtain ⟨⟨c'', hcalls, hstage⟩, hrows, hhistory, hsetting⟩ := callModule_leaves k c' g i
      ModuleUnit.stop (fun name => [.notice (.stopPanicked name)]) s
    exact ⟨⟨c'', hcalls, hb.of_stage hstage⟩, hsetting,
      .happens (.stopping g (.module i)) hrows (congrArg (· ++ [_]) hhistory)⟩
  | reporter j =>
    have hstop := calls_stop g j (s := s)
    exact ⟨⟨c', congrArg (List.set · k c') (s.calls_stopReporter g j), hb⟩, hstop.setting,
      .happens (.stopping g (.reporter j)) hstop.rows (congrArg (· ++ [_]) hstop.history)⟩

theorem goes_begin (hk : s.calls[k]? = some c) (hs : c.stage = .begun) :
    Goes d k s (s.begin k c) := by
  have hb : Builds d c := by
    intro p hp
    rw [hs] at hp
    cases hp
  simp only [begin]
  split
  · exact ⟨⟨_, rfl, fun p hp => (by cases hp)⟩, rfl, .nothing rfl rfl⟩
  · exact ⟨⟨_, rfl, fun p hp => (by cases hp)⟩, rfl, .nothing rfl rfl⟩
  · exact goes_callModule (fun p hp => (by cases hp)) _ _ _ _ s
  · exact goes_acquire hk hb fun p hp => (by cases hp)
  · split
    · exact ⟨⟨_, rfl, fun p hp => (by cases hp)⟩, rfl, .nothing rfl rfl⟩
    · exact ⟨⟨_, rfl, fun p hp => (by cases hp)⟩, rfl, .nothing rfl rfl⟩

theorem goes_goOn (hk : s.calls[k]? = some c) (hb : Builds d c)
    (hset : s.dispatcher.setting = d.setting) : Goes d k s (s.goOn k c) := by
  obtain ⟨request, stage, performance, visit, visits, aims⟩ := c
  have hsame {c' : Call μ ρ} (h : Builds d c') :
      Goes d k s (s.put k c') := ⟨⟨c', rfl, h⟩, rfl, .nothing rfl rfl⟩
  cases stage with
  | begun => exact goes_begin hk rfl
  | locked cfg =>
    refine hsame fun p hp => ?_
    cases hs : s.dispatcher.isShutDown <;> simp [hs] at hp
  | allowed cfg =>
    refine ⟨⟨_, rfl, fun p hp => ?_⟩, rfl, .nothing rfl rfl⟩
    obtain rfl : (s.dispatcher.setting.built cfg).1 = p := Stage.built.inj hp
    rw [hset]
    exact .built cfg
  | built p => exact goes_replace (hb p rfl) fun p hp => (by cases hp)
  | starting g old left =>
    cases left with
    | nil => exact hsame fun p hp => (by cases hp)
    | cons i left => exact goes_callModule (fun p hp => (by cases hp)) g i _ _ s
  | flagged => exact goes_acquire hk hb fun p hp => (by cases hp)
  | clearing =>
    have hempty : Begins d (.empty s.dispatcher.defaults) := by
      rw [show s.dispatcher.defaults = d.defaults from congrArg Setting.defaults hset]
      exact .empty
    exact goes_replace hempty fun p hp => (by cases hp)
  | cleared old => exact ⟨⟨_, rfl, fun p hp => (by cases hp)⟩, rfl, .nothing rfl rfl⟩
  | draining old =>
    simp only [goOn, drain]
    split
    · exact goes_rest hk hb
    · split
      · exact ⟨⟨_, rfl, fun p hp => (by cases hp)⟩, rfl, .happens (.retired old) rfl rfl⟩
      · exact goes_rest hk hb
  | stopping old left =>
    cases left with
    | nil => cases request <;> exact hsame fun p hp => (by cases hp)
    | cons part left => exact goes_stopPart (fun p hp => (by cases hp)) old part
  | unlocking installed => exact ⟨⟨_, rfl, fun p hp => (by cases hp)⟩, rfl, .nothing rfl rfl⟩
  | telling installed => exact ⟨⟨_, rfl, fun p hp => (by cases hp)⟩, rfl, .nothing rfl rfl⟩
  | ended => exact goes_rest hk hb

theorem goes_advance (hk : s.calls[k]? = some c) (hb : Builds d c)
    (hset : s.dispatcher.setting = d.setting) : Goes d k s (s.advance k) := by
  simp only [advance, hk]
  split
  · next v hv => exact goes_serve hk hb v
  · next a hv ha => exact goes_perform hb a
  · next hv ha => exact goes_goOn hk hb hset

/-- The reporters of a generation are what the calls of them have made of those that it began with. -/
def Called (d : Dispatcher μ ρ) (w : Scene) (g : Nat) (row : List ρ) : Prop :=
  ∃ p, Begins d p ∧
    ∀ j : Nat, row[j]? = (p.reporters.reporters[j]?).map (ReporterCall.all (w.callsOf g j))

structure Recorded (d : Dispatcher μ ρ) (s : Shared μ ρ) : Prop where
  safe : s.Safe
  setting : s.dispatcher.setting = d.setting
  built : ∀ c ∈ s.calls, Builds d c
  called : ∀ (g : Nat) row, s.rows[g]? = some row → Called d s.scene g row

theorem Effect.called (h : Effect d s s') (hs : s.Safe)
    (hcalled : ∀ (g : Nat) row, s.rows[g]? = some row → Called d s.scene g row) (g : Nat)
    (row : List ρ) (hrow : s'.rows[g]? = some row) : Called d s'.scene g row := by
  have hcalls (j : Nat) (hhistory : s'.history = s.history) :
      s'.scene.callsOf g j = s.scene.callsOf g j :=
    congrArg (List.filterMap (Happening.callOf? g j)) hhistory
  cases h with
  | nothing hrows hhistory =>
    rw [hrows] at hrow
    obtain ⟨p, hp, hj⟩ := hcalled g row hrow
    refine ⟨p, hp, fun j => ?_⟩
    rw [hcalls j hhistory, hj]
  | happens a hrows hhistory =>
    rw [hrows] at hrow
    obtain ⟨row₀, hrow₀, heffect⟩ := Happening.getElem?_effect hrow
    obtain ⟨p, hp, hj⟩ := hcalled g row₀ hrow₀
    refine ⟨p, hp, fun j => ?_⟩
    have hmore : s'.scene.callsOf g j = s.scene.callsOf g j ++ (a.callOf? g j).toList := by
      rw [← Scene.callsOf_concat]
      exact congrArg (List.filterMap (Happening.callOf? g j)) hhistory
    rw [hmore, ReporterCall.all_append, heffect, hj, Option.map_map]
  | @begins p hp hrows hhistory =>
    rw [hrows] at hrow
    rcases getElem?_concat_cases hrow with hrow | ⟨rfl, rfl⟩
    · obtain ⟨p, hp, hj⟩ := hcalled g row hrow
      refine ⟨p, hp, fun j => ?_⟩
      rw [hcalls j hhistory, hj]
    · refine ⟨p, hp, fun j => ?_⟩
      have hlen : s.scene.shapes.length = s.rows.length := by
        rw [scene, rows, List.length_map, List.length_map]
      rw [hcalls j hhistory, hs.callsOf_eq_nil (Nat.le_of_eq hlen) j]
      exact (congrFun Option.map_id _).symm

theorem Recorded.advance (h : Recorded d s) (k : Nat) : Recorded d (s.advance k) := by
  cases hk : s.calls[k]? with
  | none => simpa [Shared.advance, hk] using h
  | some c =>
    have hgoes := goes_advance hk (h.built c (List.mem_of_getElem? hk)) h.setting
    obtain ⟨c', hcalls, hb⟩ := hgoes.calls
    refine ⟨safe_advance h.safe k, hgoes.setting.trans h.setting, ?_,
      hgoes.effect.called h.safe h.called⟩
    intro c₁ hc₁
    rw [hcalls] at hc₁
    rcases mem_set_cases hc₁ with rfl | hc₁
    · exact hb
    · exact h.built c₁ hc₁

theorem Recorded.next (h : Recorded d s) (choice : Choice) :
    Recorded d (Shared.next choice s) := by
  cases choice with
  | request r =>
    refine ⟨safe_next h.safe _, h.setting, ?_, h.called⟩
    intro c hc
    rcases List.mem_append.1 hc with hc | hc
    · exact h.built c hc
    · obtain rfl := List.mem_singleton.1 hc
      intro p hp
      cases hp
  | call k => exact h.advance k
  | elapse time => exact ⟨safe_next h.safe (.elapse time), h.setting, h.built, h.called⟩

theorem recorded_run (d : Dispatcher μ ρ) (schedule : List Choice) :
    Recorded d (run schedule (opened d)) := by
  have start : Recorded d (opened d) := by
    refine ⟨safe_run d [], rfl, fun c hc => (by cases hc), ?_⟩
    intro g row hrow
    rcases getElem?_concat_cases (l := []) hrow with hrow | ⟨rfl, rfl⟩
    · cases hrow
    · exact ⟨d.live, .first, fun _ => (congrFun Option.map_id _).symm⟩
  exact Schedule.run_invariant (P := Recorded d) start (fun choice _ h => h.next choice) schedule

end Shared

end Dispatcher

end QueryWatch
