import QueryWatch.Proofs.Calls
import QueryWatch.Proofs.Generations.Outline

namespace QueryWatch

theorem tale_nil (kinds : List String) (i : Nat) (modules : List (String × Option (List String))) :
    tale kinds i [] modules = [] := by
  cases modules <;> rfl

theorem tale_concat {kinds : List String} {i : Nat} {answers : List (List Measurement)}
    {modules : List (String × Option (List String))} {module : String × Option (List String)}
    (ms : List Measurement) (h : modules[answers.length]? = some module) :
    tale kinds i (answers ++ [ms]) modules =
      tale kinds i answers modules ++ choresOf kinds (i + answers.length) module ms := by
  induction answers generalizing i modules with
  | nil =>
    cases modules with
    | nil => cases h
    | cons first modules =>
      obtain rfl : first = module := Option.some.inj h
      rw [List.nil_append, tale, tale_nil, tale_nil, List.append_nil, List.nil_append]
      rfl
  | cons answer answers ih =>
    cases modules with
    | nil => cases h
    | cons first modules =>
      have hplace : i + (answer :: answers).length = i + 1 + answers.length := by
        rw [List.length_cons]
        omega
      rw [List.cons_append, tale, tale, ih h, hplace, List.append_assoc]

/-- A visit that has made so much of its script. -/
def Visit.Follows (shapes : List Shape) (v : Visit) : Prop :=
  ∃ shape, shapes[v.generation]? = some shape ∧ v.answers.length ≤ shape.modules.length ∧
    v.made ++ v.pending = Visit.script shape v.source v.answers

/-- A visit that has made the whole of its script. -/
def Visit.Finished (shapes : List Shape) (v : Visit) : Prop :=
  v.Follows shapes ∧ v.pending = [] ∧ ∃ shape, shapes[v.generation]? = some shape ∧ v.Heard shape

structure Outline.Sound (shapes : List Shape) (o : Outline) : Prop where
  current : ∀ v, o.visit = some v → v.Follows shapes
  ended : ∀ v ∈ o.visits, v.Finished shapes
  planned : o.allVisits.map (·.source) ++ o.plan = o.intended

section

variable {shapes shapes' : List Shape}

theorem getElem?_of_prefix {α : Type} {a b : List α} (h : a <+: b) {i : Nat} {x : α}
    (hx : a[i]? = some x) : b[i]? = some x := by
  obtain ⟨more, rfl⟩ := h
  rw [List.getElem?_append_left (List.getElem?_eq_some_iff.1 hx).1]
  exact hx

theorem Visit.Follows.mono {v : Visit} (h : v.Follows shapes) (hp : shapes <+: shapes') :
    v.Follows shapes' := by
  obtain ⟨shape, hg, hscript⟩ := h
  exact ⟨shape, getElem?_of_prefix hp hg, hscript⟩

theorem Visit.Follows.make {v : Visit} {chore : Chore} {rest : List Chore} (h : v.Follows shapes)
    (hp : v.pending = chore :: rest) :
    Visit.Follows shapes { v with pending := rest, made := v.made ++ [chore] } := by
  obtain ⟨shape, hg, hlen, hscript⟩ := h
  refine ⟨shape, hg, hlen, ?_⟩
  rw [← hscript, hp, List.append_assoc, List.singleton_append]

theorem Visit.Follows.answer {v : Visit} {e : QueryEvent} {shape : Shape}
    {module : String × Option (List String)} (h : v.Follows shapes) (hs : v.source = .event e)
    (hp : v.pending = []) (hg : shapes[v.generation]? = some shape)
    (hm : shape.modules[v.answers.length]? = some module) (ms : List Measurement) :
    Visit.Follows shapes { v with
      answers := v.answers ++ [ms]
      pending := choresOf shape.kinds v.answers.length module ms } := by
  obtain ⟨shape', hg', -, hscript⟩ := h
  obtain rfl : shape' = shape := Option.some.inj (hg'.symm.trans hg)
  refine ⟨shape', hg, ?_, ?_⟩
  · rw [List.length_append, List.length_singleton]
    exact (List.getElem?_eq_some_iff.1 hm).1
  · simp only [hp, hs, List.append_nil, Visit.script] at hscript ⊢
    rw [tale_concat ms hm, hscript, Nat.zero_add]

theorem Outline.Sound.follows {o : Outline} (h : o.Sound shapes) {v : Visit}
    (hv : v ∈ o.allVisits) : v.Follows shapes := by
  rcases List.mem_append.1 hv with hm | hm
  · exact (h.ended v hm).1
  · exact h.current v (Option.mem_toList.1 hm)

theorem Outline.Sound.mono {o : Outline} (h : o.Sound shapes) (hp : shapes <+: shapes') :
    o.Sound shapes' where
  current v hv := (h.current v hv).mono hp
  ended := by
    intro v hv
    obtain ⟨hfollows, hdone, shape, hg, hheard⟩ := h.ended v hv
    exact ⟨hfollows.mono hp, hdone, shape, getElem?_of_prefix hp hg, hheard⟩
  planned := h.planned

end

namespace Move

variable {os : List Outline} {k : Nat} {o o' : Outline} {w w' : Scene}

theorem shapes_prefix (h : Move os k o w o' w') : w.shapes <+: w'.shapes := by
  cases h with
  | swap shape ho => exact List.prefix_append _ _
  | _ => exact List.prefix_refl _

theorem sound (h : Move os k o w o' w') (ho : o.Sound w.shapes) : o'.Sound w.shapes := by
  obtain ⟨hcurrent, hover, hplanned⟩ := ho
  cases h with
  | rest => exact ⟨hcurrent, hover, hplanned⟩
  | turn more =>
    refine ⟨hcurrent, hover, ?_⟩
    rw [← hplanned]
    exact (List.append_assoc ..).symm
  | @hold source plan shape hv hp hl =>
    refine ⟨?_, hover, ?_⟩
    · intro v he
      obtain rfl := Option.some.inj he
      exact ⟨shape, hl, Nat.zero_le _, List.nil_append _⟩
    · rw [← hplanned, hp]
      simp [Outline.allVisits, hv, Visit.fresh]
  | @ask v e shape module ms hv hs hp hg hm =>
    refine ⟨?_, hover, ?_⟩
    · intro v' he
      obtain rfl := Option.some.inj he
      exact (hcurrent v hv).answer hs hp hg hm ms
    · rw [← hplanned]
      simp [Outline.allVisits, hv]
  | @count v name rest hv hp =>
    refine ⟨?_, hover, ?_⟩
    · intro v' he
      obtain rfl := Option.some.inj he
      exact (hcurrent v hv).make hp
    · rw [← hplanned]
      simp [Outline.allVisits, hv]
  | @deliver v j m rest hv hp =>
    refine ⟨?_, hover, ?_⟩
    · intro v' he
      obtain rfl := Option.some.inj he
      exact (hcurrent v hv).make hp
    · rw [← hplanned]
      simp [Outline.allVisits, hv]
  | @release v shape hv hp hg hh =>
    refine ⟨fun v' he => (by cases he), ?_, ?_⟩
    · intro v' hm
      rcases List.mem_append.1 hm with hm | hm
      · exact hover v' hm
      · obtain rfl := List.mem_singleton.1 hm
        exact ⟨hcurrent v' hv, hp, shape, hg, hh⟩
    · rw [← hplanned]
      simp [Outline.allVisits, hv]
  | swap shape ho => exact ⟨hcurrent, hover, hplanned⟩
  | retire ho hl hg hfree => exact ⟨hcurrent, hover, hplanned⟩
  | stop more hl =>
    refine ⟨hcurrent, hover, ?_⟩
    rw [← hplanned]
    exact (List.append_assoc ..).symm

end Move

def Outline.leftOf (g : Nat) (o : Outline) : List Part :=
  o.left.filterMap fun e => if e.1 = g then some e.2 else none

theorem Outline.leftOf_parts {o : Outline} {g g' : Nat} {shape : Shape}
    (h : o.left = shape.parts.map fun part => (g', part)) :
    o.leftOf g = if g' = g then shape.parts else [] := by
  rw [Outline.leftOf, h, List.filterMap_map]
  by_cases hg : g' = g
  · simp only [Function.comp_def, hg, if_true, List.filterMap_some]
  · rw [if_neg hg, List.filterMap_eq_nil_iff]
    intro part _
    exact if_neg hg

def partsOf (shapes : List Shape) (g : Nat) : List Part :=
  (shapes[g]?).elim [] Shape.parts

def Happening.ends? : Happening → Option Nat
  | delivered .. => none
  | retired g => some g
  | stopping g _ => some g

/-- What happens later is no delivery to a generation that had come to its end. -/
def Happening.Quiet (a b : Happening) : Prop :=
  ∀ k g j m, b = delivered k g j m → a.ends? ≠ some g

/-- Each generation is live, or owed by the one call that took it out of service, or retired, and it is only
one of these; so a generation that is retired is held by nobody and will not be held again, and what it has
to stop is stopped once. -/
structure Inv (os : List Outline) (w : Scene) : Prop where
  sound : ∀ o ∈ os, o.Sound w.shapes
  owned : (w.live :: os.flatMap (·.owed) ++ w.retired).Perm (List.range w.shapes.length)
  held : ∀ o ∈ os, ∀ v, o.visit = some v → v.generation ∉ w.retired
  stops : ∀ g, (w.stops g ++ os.flatMap (·.leftOf g)).Perm
    (if g ∈ w.retired then partsOf w.shapes g else [])
  quiet : w.history.Pairwise Happening.Quiet
  delivered : ∀ (k : Nat) o, os[k]? = some o →
    w.deliveries k = o.allVisits.flatMap (·.deliveries)
  known : ∀ k, os.length ≤ k → w.deliveries k = []

namespace Inv

variable {os : List Outline} {k : Nat} {o o' : Outline} {w w' : Scene}

theorem nodup (h : Inv os w) : (w.live :: os.flatMap (·.owed) ++ w.retired).Nodup :=
  h.owned.nodup_iff.2 List.nodup_range

theorem live_not_retired (h : Inv os w) : w.live ∉ w.retired := by
  intro hm
  have hnodup := h.nodup
  rw [List.cons_append, List.nodup_cons] at hnodup
  exact hnodup.1 (List.mem_append_right _ hm)

theorem owed_not_retired (h : Inv os w) (ho : o ∈ os) {g : Nat} (hg : g ∈ o.owed) :
    g ∉ w.retired := by
  intro hm
  have hnodup := h.nodup
  rw [List.cons_append, List.nodup_cons, List.nodup_append] at hnodup
  exact hnodup.2.2.2 g (List.mem_flatMap.2 ⟨o, ho, hg⟩) g hm rfl

theorem retired_lt (h : Inv os w) {g : Nat} (hg : g ∈ w.retired) : g < w.shapes.length :=
  List.mem_range.1 (h.owned.mem_iff.1 (List.mem_append_right _ hg))

theorem not_stopping (h : Inv os w) {g : Nat} (hg : g ∉ w.retired) :
    w.stops g = [] ∧ os.flatMap (·.leftOf g) = [] := by
  have hperm := h.stops g
  rw [if_neg hg] at hperm
  exact List.append_eq_nil_iff.1 hperm.eq_nil

theorem ended (h : Inv os w) {a : Happening} (ha : a ∈ w.history) {g : Nat}
    (hg : a.ends? = some g) : g ∈ w.retired := by
  cases a with
  | delivered => cases hg
  | retired g' =>
    obtain rfl : g' = g := Option.some.inj hg
    exact List.mem_filterMap.2 ⟨_, ha, rfl⟩
  | stopping g' part =>
    obtain rfl : g' = g := Option.some.inj hg
    -- Units of a generation are stopped after it was retired, by `Inv.stops`.
    apply Classical.byContradiction
    intro hnot
    have hmem : part ∈ w.stops g' :=
      List.mem_filterMap.2 ⟨_, ha, by simp [Happening.stop?]⟩
    rw [(h.not_stopping hnot).1] at hmem
    cases hmem

end Inv

namespace Scene

variable (w : Scene) (a : Happening)

@[simp] theorem retired_concat :
    ({ w with history := w.history ++ [a] } : Scene).retired = w.retired ++ a.retired?.toList := by
  cases a <;> simp [retired, Happening.retired?]

@[simp] theorem stops_concat (g : Nat) :
    ({ w with history := w.history ++ [a] } : Scene).stops g =
      w.stops g ++ (a.stop? g).toList := by
  simp only [stops, List.filterMap_append]
  cases h : a.stop? g <;> simp [h]

@[simp] theorem deliveries_concat (k : Nat) :
    ({ w with history := w.history ++ [a] } : Scene).deliveries k =
      w.deliveries k ++ (a.delivery? k).toList := by
  simp only [deliveries, List.filterMap_append]
  cases h : a.delivery? k <;> simp [h]

end Scene

namespace Inv

variable {os : List Outline} {k : Nat} {o o' : Outline} {w w' : Scene}

theorem sound_move (hi : Inv os w) (hk : os[k]? = some o) (h : Move os k o w o' w') :
    ∀ o₁ ∈ os.set k o', o₁.Sound w'.shapes := by
  intro o₁ hm
  rcases mem_set_cases hm with rfl | hm
  · exact (h.sound (hi.sound o (List.mem_of_getElem? hk))).mono h.shapes_prefix
  · exact (hi.sound o₁ hm).mono h.shapes_prefix

theorem owned_same (hi : Inv os w) (hk : os[k]? = some o) (ho : o'.owed = o.owed)
    (hr : w'.retired = w.retired) (hl : w'.live = w.live) (hs : w'.shapes = w.shapes) :
    (w'.live :: (os.set k o').flatMap (·.owed) ++ w'.retired).Perm
      (List.range w'.shapes.length) := by
  rw [flatMap_set_eq Outline.owed hk ho, hr, hl, hs]
  exact hi.owned

theorem owned_move (hi : Inv os w) (hk : os[k]? = some o) (h : Move os k o w o' w') :
    (w'.live :: (os.set k o').flatMap (·.owed) ++ w'.retired).Perm
      (List.range w'.shapes.length) := by
  cases h with
  | swap shape ho =>
    have hperm := flatMap_set_perm Outline.owed { o with owed := [w.live] } hk
    rw [ho, List.append_nil] at hperm
    rw [List.length_append, List.length_singleton, List.range_succ]
    calc w.shapes.length :: (os.set k { o with owed := [w.live] }).flatMap (·.owed) ++ w.retired
      _ |>.Perm (w.shapes.length :: (os.flatMap (·.owed) ++ [w.live]) ++ w.retired) :=
        (hperm.cons _).append_right _
      _ |>.Perm (w.shapes.length :: (w.live :: os.flatMap (·.owed) ++ w.retired)) :=
        (List.perm_append_comm.append_right _).cons _
      _ |>.Perm (w.shapes.length :: List.range w.shapes.length) := hi.owned.cons _
      _ |>.Perm (List.range w.shapes.length ++ [w.shapes.length]) :=
        (List.perm_append_singleton _ _).symm
  | @retire g shape ho hl hg hfree =>
    have hperm := flatMap_set_perm Outline.owed
      { o with owed := [], left := shape.parts.map fun part => (g, part) } hk
    rw [ho, List.append_nil] at hperm
    rw [Scene.retired_concat]
    refine List.Perm.trans ?_ hi.owned
    rw [List.cons_append, List.cons_append]
    apply List.Perm.cons
    calc (os.set k { o with owed := [], left := _ }).flatMap (·.owed) ++ (w.retired ++ [g])
      _ |>.Perm ((os.set k { o with owed := [], left := _ }).flatMap (·.owed) ++ ([g] ++ w.retired)) :=
        List.perm_append_comm.append_left _
      _ = (os.set k { o with owed := [], left := _ }).flatMap (·.owed) ++ [g] ++ w.retired :=
        (List.append_assoc ..).symm
      _ |>.Perm (os.flatMap (·.owed) ++ w.retired) := hperm.append_right _
  | deliver hv hp =>
    exact hi.owned_same hk rfl (by simp [Happening.retired?]) rfl rfl
  | stop more hl => exact hi.owned_same hk rfl (by simp [Happening.retired?]) rfl rfl
  | _ => exact hi.owned_same hk rfl rfl rfl rfl

theorem held_move (hi : Inv os w) (hk : os[k]? = some o) (h : Move os k o w o' w') :
    ∀ o₁ ∈ os.set k o', ∀ v, o₁.visit = some v → v.generation ∉ w'.retired := by
  have ho := List.mem_of_getElem? hk
  have hcurrent := hi.held o ho
  intro o₁ hset v hv₁
  rcases mem_set_cases hset with rfl | hmem
  · cases h with
    | hold hv hp hl =>
      obtain rfl := Option.some.inj hv₁
      exact hi.live_not_retired
    | @ask v₀ e shape module ms hv hs hp hg hm =>
      obtain rfl := Option.some.inj hv₁
      exact hcurrent v₀ hv
    | @count v₀ name rest hv hp =>
      obtain rfl := Option.some.inj hv₁
      exact hcurrent v₀ hv
    | @deliver v₀ j m rest hv hp =>
      obtain rfl := Option.some.inj hv₁
      rw [Scene.retired_concat]
      simpa [Happening.retired?] using hcurrent v₀ hv
    | release hv hp hg hh => cases hv₁
    | @retire g shape howed hl hg hfree =>
      rw [Scene.retired_concat]
      simpa [Happening.retired?] using ⟨hcurrent v hv₁, hfree o ho v hv₁⟩
    | stop more hl =>
      rw [Scene.retired_concat]
      simpa [Happening.retired?] using hcurrent v hv₁
    | rest => exact hcurrent v hv₁
    | turn more => exact hcurrent v hv₁
    | swap shape howed => exact hcurrent v hv₁
  · have hother := hi.held o₁ hmem v hv₁
    cases h with
    | @retire g shape howed hl hg hfree =>
      rw [Scene.retired_concat]
      simpa [Happening.retired?] using And.intro hother (hfree o₁ hmem v hv₁)
    | deliver hv hp =>
      rw [Scene.retired_concat]
      simpa [Happening.retired?] using hother
    | stop more hl =>
      rw [Scene.retired_concat]
      simpa [Happening.retired?] using hother
    | _ => exact hother

theorem stops_same (hi : Inv os w) (hk : os[k]? = some o) (g : Nat) (hl : o'.left = o.left)
    (hs : w'.stops g = w.stops g) (hr : w'.retired = w.retired) (hw : w'.shapes = w.shapes) :
    (w'.stops g ++ (os.set k o').flatMap (·.leftOf g)).Perm
      (if g ∈ w'.retired then partsOf w'.shapes g else []) := by
  have hleft : o'.leftOf g = o.leftOf g := by
    rw [Outline.leftOf, Outline.leftOf, hl]
  rw [flatMap_set_eq (Outline.leftOf g) hk hleft, hs, hr, hw]
  exact hi.stops g

theorem stops_retire (hi : Inv os w) (hk : os[k]? = some o) {g' : Nat} {shape : Shape}
    (hl : o.left = []) (hg' : w.shapes[g']? = some shape) (hnot : g' ∉ w.retired) (g : Nat) :
    (({ w with history := w.history ++ [.retired g'] } : Scene).stops g ++
        (os.set k { o with owed := [], left := shape.parts.map fun part => (g', part) }).flatMap
          (·.leftOf g)).Perm
      (if g ∈ ({ w with history := w.history ++ [.retired g'] } : Scene).retired
        then partsOf w.shapes g else []) := by
  have hnone : o.leftOf g = [] := by
    rw [Outline.leftOf, hl]
    rfl
  have hperm := flatMap_set_perm (Outline.leftOf g)
    { o with owed := [], left := shape.parts.map fun part => (g', part) } hk
  rw [hnone, List.append_nil, Outline.leftOf_parts rfl] at hperm
  rw [Scene.retired_concat, Scene.stops_concat]
  by_cases hg : g' = g
  · subst g'
    obtain ⟨hstops, hleft⟩ := hi.not_stopping hnot
    have hparts : partsOf w.shapes g = shape.parts := by
      rw [partsOf, hg']
      rfl
    rw [hleft, List.nil_append, if_pos rfl] at hperm
    simpa [Happening.retired?, Happening.stop?, hstops, hparts] using hperm
  · rw [if_neg hg, List.append_nil] at hperm
    refine List.Perm.trans (hperm.append_left _) ?_
    simpa [Happening.retired?, Happening.stop?, Ne.symm hg] using hi.stops g

theorem stops_stop (hi : Inv os w) (hk : os[k]? = some o) {g' : Nat} {part : Part}
    (hl : o.left = (g', part) :: o'.left) (g : Nat) :
    (({ w with history := w.history ++ [.stopping g' part] } : Scene).stops g ++
        (os.set k o').flatMap (·.leftOf g)).Perm
      (if g ∈ ({ w with history := w.history ++ [.stopping g' part] } : Scene).retired
        then partsOf w.shapes g else []) := by
  rw [Scene.retired_concat, Scene.stops_concat]
  by_cases hg : g' = g
  · subst g'
    have hleft : o.leftOf g = part :: o'.leftOf g := by
      rw [Outline.leftOf, hl]
      simp [Outline.leftOf]
    have hperm := flatMap_set_perm (Outline.leftOf g) o' hk
    rw [hleft, List.append_cons] at hperm
    have hone := (List.perm_append_right_iff _).1 hperm
    have hshow : (Happening.stopping g part).stop? g = some part := if_pos rfl
    have hnone : (Happening.stopping g part).retired? = none := rfl
    rw [hshow, hnone, Option.toList_some, Option.toList_none, List.append_assoc, List.append_nil]
    exact ((List.perm_append_comm.trans hone).append_left _).trans (hi.stops g)
  · have hleft : o'.leftOf g = o.leftOf g := by
      simp [Outline.leftOf, hl, hg]
    rw [flatMap_set_eq (Outline.leftOf g) hk hleft]
    simpa [Happening.retired?, Happening.stop?, hg] using hi.stops g

/-- Each unit of a generation that is retired has been stopped or is yet to be stopped, and it is so once. -/
theorem stops_move (hi : Inv os w) (hk : os[k]? = some o) (h : Move os k o w o' w') (g : Nat) :
    (w'.stops g ++ (os.set k o').flatMap (·.leftOf g)).Perm
      (if g ∈ w'.retired then partsOf w'.shapes g else []) := by
  cases h with
  | swap shape ho =>
    have hparts : g ∈ w.retired → partsOf (w.shapes ++ [shape]) g = partsOf w.shapes g := by
      intro hg
      rw [partsOf, partsOf, List.getElem?_append_left (hi.retired_lt hg)]
    rw [flatMap_set_eq (Outline.leftOf g) (b := { o with owed := [w.live] }) hk rfl]
    refine List.Perm.trans (hi.stops g) (List.Perm.of_eq ?_)
    by_cases hg : g ∈ w.retired
    · exact (if_pos hg).trans ((hparts hg).symm.trans (if_pos hg).symm)
    · exact (if_neg hg).trans (if_neg hg).symm
  | @retire g' shape ho hl hg' hfree =>
    have hnot : g' ∉ w.retired :=
      hi.owed_not_retired (List.mem_of_getElem? hk) (by rw [ho]; exact List.mem_singleton_self g')
    exact hi.stops_retire hk hl hg' hnot g
  | stop more hl => exact hi.stops_stop hk hl g
  | deliver hv hp =>
    exact hi.stops_same hk g rfl (by simp [Happening.stop?]) (by simp [Happening.retired?]) rfl
  | _ => exact hi.stops_same hk g rfl rfl rfl rfl

theorem quiet_move (hi : Inv os w) (hk : os[k]? = some o) (h : Move os k o w o' w') :
    w'.history.Pairwise Happening.Quiet := by
  have hadd (a : Happening) (ha : ∀ b ∈ w.history, b.Quiet a) :
      (w.history ++ [a]).Pairwise Happening.Quiet := by
    refine List.pairwise_append.2 ⟨hi.quiet, List.pairwise_singleton _ _, ?_⟩
    intro b hb c hc
    obtain rfl := List.mem_singleton.1 hc
    exact ha b hb
  cases h with
  | @deliver v j m rest hv hp =>
    refine hadd _ fun b hb k' g j' m' he hends => ?_
    obtain ⟨rfl, rfl, rfl, rfl⟩ := Happening.delivered.inj he
    -- The call holds the generation, and one that came to its end is retired and held by nobody.
    exact hi.held o (List.mem_of_getElem? hk) v hv (hi.ended hb hends)
  | retire ho hl hg hfree => exact hadd _ fun b hb k' g j m he => (by cases he)
  | stop more hl => exact hadd _ fun b hb k' g j m he => (by cases he)
  | _ => exact hi.quiet

theorem delivered_move (hi : Inv os w) (hk : os[k]? = some o) (h : Move os k o w o' w') (k' : Nat)
    (o₁ : Outline) (hk' : (os.set k o')[k']? = some o₁) :
    w'.deliveries k' = o₁.allVisits.flatMap (·.deliveries) := by
  have hlt : k < os.length := (List.getElem?_eq_some_iff.1 hk).1
  by_cases he : k = k'
  · subst k'
    rw [List.getElem?_set_self hlt] at hk'
    obtain rfl := Option.some.inj hk'
    have hbefore := hi.delivered k o hk
    cases h with
    | hold hv hp hl =>
      rw [hbefore]
      simp [Outline.allVisits, hv, Visit.deliveries, Visit.fresh]
    | ask ms hv hs hp hg hm =>
      rw [hbefore]
      simp [Outline.allVisits, hv, Visit.deliveries]
    | count hv hp =>
      rw [hbefore]
      simp [Outline.allVisits, hv, Visit.deliveries]
    | deliver hv hp =>
      rw [Scene.deliveries_concat, hbefore]
      simp [Outline.allVisits, hv, Visit.deliveries, Happening.delivery?]
    | release hv hp hg hh =>
      rw [hbefore]
      simp [Outline.allVisits, hv]
    | retire ho hl hg hfree =>
      rw [Scene.deliveries_concat, hbefore]
      simp [Outline.allVisits, Happening.delivery?]
    | stop more hl =>
      rw [Scene.deliveries_concat, hbefore]
      simp [Outline.allVisits, Happening.delivery?]
    | rest => exact hbefore
    | turn more => exact hbefore
    | swap shape ho => exact hbefore
  · rw [List.getElem?_set_ne he] at hk'
    have hbefore := hi.delivered k' o₁ hk'
    cases h with
    | deliver hv hp =>
      rw [Scene.deliveries_concat, hbefore]
      simp [Happening.delivery?, he]
    | retire ho hl hg hfree =>
      rw [Scene.deliveries_concat, hbefore]
      simp [Happening.delivery?]
    | stop more hl =>
      rw [Scene.deliveries_concat, hbefore]
      simp [Happening.delivery?]
    | _ => exact hbefore

theorem known_move (hi : Inv os w) (hk : os[k]? = some o) (h : Move os k o w o' w') (k' : Nat)
    (hlen : (os.set k o').length ≤ k') : w'.deliveries k' = [] := by
  rw [List.length_set] at hlen
  have hlt : k < os.length := (List.getElem?_eq_some_iff.1 hk).1
  have hne : k ≠ k' := by omega
  have hbefore := hi.known k' hlen
  cases h with
  | deliver hv hp =>
    rw [Scene.deliveries_concat, hbefore]
    simp [Happening.delivery?, hne]
  | retire ho hl hg hfree =>
    rw [Scene.deliveries_concat, hbefore]
    simp [Happening.delivery?]
  | stop more hl =>
    rw [Scene.deliveries_concat, hbefore]
    simp [Happening.delivery?]
  | _ => exact hbefore

theorem move (hi : Inv os w) (hk : os[k]? = some o) (h : Move os k o w o' w') :
    Inv (os.set k o') w' where
  sound := hi.sound_move hk h
  owned := hi.owned_move hk h
  held := hi.held_move hk h
  stops := hi.stops_move hk h
  quiet := hi.quiet_move hk h
  delivered := hi.delivered_move hk h
  known := hi.known_move hk h

theorem begin (hi : Inv os w) (plan : List Source) : Inv (os ++ [{ intended := plan, plan }]) w where
  sound := by
    intro o hm
    rcases List.mem_append.1 hm with hm | hm
    · exact hi.sound o hm
    · obtain rfl := List.mem_singleton.1 hm
      exact ⟨fun v hv => (by cases hv), fun v hv => (by cases hv), rfl⟩
  owned := by simpa using hi.owned
  held := by
    intro o hm v hv
    rcases List.mem_append.1 hm with hm | hm
    · exact hi.held o hm v hv
    · obtain rfl := List.mem_singleton.1 hm
      cases hv
  stops g := by simpa [Outline.leftOf] using hi.stops g
  quiet := hi.quiet
  delivered := by
    intro k o hk
    rcases getElem?_concat_cases hk with hk | ⟨rfl, rfl⟩
    · exact hi.delivered k o hk
    · exact hi.known os.length (Nat.le_refl _)
  known := by
    intro k hk
    rw [List.length_append] at hk
    exact hi.known k (Nat.le_of_add_right_le hk)

end Inv

theorem Inv.first (shape : Shape) : Inv [] { shapes := [shape], live := 0 } where
  sound o hm := by cases hm
  owned := List.Perm.refl _
  held o hm := by cases hm
  stops g := List.Perm.refl _
  quiet := List.Pairwise.nil
  delivered k o hk := by cases hk
  known k hk := rfl

end QueryWatch
