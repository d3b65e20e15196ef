import QueryWatch.Proofs.Lifecycle.History

namespace QueryWatch.History

/-- The units that are held have not been stopped, and all others have been, once. No generation is older
than the given one but those that were held before. -/
structure Settled (h : History) (g : Nat) (held live : List Badge) : Prop where
  lawful : Lawful h
  last : h.live = live
  nodup : held.Nodup
  built : ∀ b ∈ held, b ∈ h.built
  stops : ∀ b ∈ h.built, h.stops b = if b ∈ held then 0 else 1
  current : ∀ b ∈ h.built, b.generation < g ∨ b.generation = g ∧ b ∈ held

variable {h : History} {g : Nat} {held live bs : List Badge} {b : Badge}

theorem settled_nil (g : Nat) : Settled [] g [] [] :=
  ⟨.nil, rfl, .nil, fun _ hb => (by cases hb), fun _ hb => (by cases hb), fun _ hb => (by cases hb)⟩

theorem Settled.perm {held' : List Badge} (hs : Settled h g held live) (hp : held.Perm held') :
    Settled h g held' live where
  lawful := hs.lawful
  last := hs.last
  nodup := hp.nodup_iff.1 hs.nodup
  built := fun b hb => hs.built b (hp.mem_iff.2 hb)
  stops := by
    intro b hb
    rw [hs.stops b hb]
    simp only [hp.mem_iff]
  current := fun b hb => (hs.current b hb).imp_right fun hcur => ⟨hcur.1, hp.mem_iff.1 hcur.2⟩

theorem Settled.stops_held (hs : Settled h g held live) (hb : b ∈ held) : h.stops b = 0 := by
  rw [hs.stops b (hs.built b hb), if_pos hb]

theorem Settled.build (hs : Settled h g held live) (hg : b.generation = g) (hb : b ∉ held) :
    Settled (h ++ [.built b]) g (held ++ [b]) live := by
  have hnew : b ∉ h.built := by
    intro hbuilt
    rcases hs.current b hbuilt with hlt | ⟨-, hheld⟩
    · omega
    · exact hb hheld
  have hallowed : h.Allowed (.built b) := by
    refine ⟨hnew, ?_⟩
    intro b' hb' hsame
    rcases hs.current b' hb' with hlt | ⟨-, hheld⟩
    · omega
    · exact hs.stops_held hheld
  have hstops (b' : Badge) : History.stops b' (h ++ [.built b]) = h.stops b' := by
    rw [stops_append]
    rfl
  have hbuilt : History.built (h ++ [.built b]) = h.built ++ [b] := built_append _ _
  refine ⟨.snoc hs.lawful hallowed, ?_, ?_, ?_, ?_, ?_⟩
  · rw [History.live, List.foldl_append]
    exact hs.last
  · exact List.nodup_append'.2 ⟨hs.nodup, List.nodup_singleton b, List.disjoint_singleton.2 hb⟩
  · intro b' hb'
    rw [hbuilt]
    rcases List.mem_append.1 hb' with hb' | hb'
    · exact List.mem_append_left _ (hs.built b' hb')
    · exact List.mem_append_right _ hb'
  · intro b' hb'
    rw [hbuilt] at hb'
    rw [hstops]
    rcases List.mem_append.1 hb' with hb' | hb'
    · have hne : b' ≠ b := fun heq => hnew (heq ▸ hb')
      rw [hs.stops b' hb']
      simp [hne]
    · rw [List.mem_singleton.1 hb', hs.lawful.stops_eq_zero hnew]
      simp
  · intro b' hb'
    rw [hbuilt] at hb'
    rcases List.mem_append.1 hb' with hb' | hb'
    · exact (hs.current b' hb').imp_right fun hcur => ⟨hcur.1, List.mem_append_left _ hcur.2⟩
    · obtain rfl := List.mem_singleton.1 hb'
      exact .inr ⟨hg, List.mem_append_right _ hb'⟩

theorem Settled.note (hs : Settled h g held live) {o : Occurrence} (ho : h.Allowed o)
    (hlive : History.live (h ++ [o]) = bs) (hbuilt : History.built [o] = [])
    (hstops : ∀ b, History.stops b [o] = 0) : Settled (h ++ [o]) g held bs := by
  have hsame : History.built (h ++ [o]) = h.built := by
    rw [built_append, hbuilt, List.append_nil]
  refine ⟨.snoc hs.lawful ho, hlive, hs.nodup, ?_, ?_, ?_⟩
  · rw [hsame]
    exact hs.built
  · intro b hb
    rw [hsame] at hb
    rw [stops_append, hstops, hs.stops b hb, Nat.add_zero]
  · rw [hsame]
    exact hs.current

theorem Settled.call (hs : Settled h g held live) (hb : b ∈ held) (n : Nat) :
    Settled (h ++ [.called b n]) g held live := by
  refine hs.note ⟨hs.built b hb, hs.stops_held hb⟩ ?_ rfl fun _ => rfl
  rw [History.live, List.foldl_append]
  exact hs.last

theorem Settled.swap (hs : Settled h g held live) (hbs : ∀ b ∈ bs, b ∈ held) :
    Settled (h ++ [.live bs]) g held bs := by
  refine hs.note (fun b hb => ⟨hs.built b (hbs b hb), hs.stops_held (hbs b hb)⟩) ?_ rfl fun _ => rfl
  rw [History.live, List.foldl_append]
  rfl

theorem Settled.stop (hs : Settled h g (b :: held) live) (hlt : b.generation < g)
    (hlive : ∀ b' ∈ live, b'.generation ≠ b.generation)
    (horder : b.isModule = false →
      ∀ b' ∈ held, b'.isModule = true → b'.generation ≠ b.generation) :
    Settled (h ++ [.stopped b 0]) g held live := by
  have hbuilt : b ∈ h.built := hs.built b List.mem_cons_self
  have hallowed : h.Allowed (.stopped b 0) := by
    refine ⟨hbuilt, hs.stops_held List.mem_cons_self, ?_, ?_⟩
    · rw [hs.last]
      exact hlive
    · intro hreporter b' hb' hmodule hsame
      have hnot : b' ∉ b :: held := by
        intro hmem
        rcases List.mem_cons.1 hmem with rfl | hmem
        · exact Bool.false_ne_true (hreporter.symm.trans hmodule)
        · exact horder hreporter b' hmem hmodule hsame
      rw [hs.stops b' hb', if_neg hnot]
  have hsame : History.built (h ++ [.stopped b 0]) = h.built := by
    rw [built_append]
    exact List.append_nil _
  obtain ⟨hnotin, hnodup⟩ := List.nodup_cons.1 hs.nodup
  refine ⟨.snoc hs.lawful hallowed, ?_, hnodup, ?_, ?_, ?_⟩
  · rw [History.live, List.foldl_append]
    exact hs.last
  · intro b' hb'
    rw [hsame]
    exact hs.built b' (List.mem_cons_of_mem b hb')
  · intro b' hb'
    rw [hsame] at hb'
    rw [stops_append, hs.stops b' hb']
    by_cases heq : b' = b
    · subst heq
      simp [History.stops, hnotin]
    · have hne : b ≠ b' := fun h => heq h.symm
      simp [History.stops, heq, hne]
  · intro b' hb'
    rw [hsame] at hb'
    rcases hs.current b' hb' with hold | ⟨hg, hmem⟩
    · exact .inl hold
    · rcases List.mem_cons.1 hmem with rfl | hmem
      · exact .inl hlt
      · exact .inr ⟨hg, hmem⟩

theorem Settled.buildAll (hs : Settled h g held live) (hg : ∀ b ∈ bs, b.generation = g)
    (hnodup : (held ++ bs).Nodup) : Settled (h ++ bs.map .built) g (held ++ bs) live := by
  induction bs generalizing h held with
  | nil => simpa using hs
  | cons b bs ih =>
    have hb : b ∉ held := by
      intro hmem
      exact (List.nodup_append'.1 hnodup).2.2 hmem List.mem_cons_self
    have hfirst := hs.build (hg b List.mem_cons_self) hb
    have hrest := ih hfirst (fun b' hb' => hg b' (List.mem_cons_of_mem b hb')) (by simpa using hnodup)
    simpa using hrest

theorem Settled.callAll (hs : Settled h g held live) {os : History}
    (hos : ∀ o ∈ os, ∃ b ∈ held, ∃ n, o = .called b n) : Settled (h ++ os) g held live := by
  induction os generalizing h with
  | nil => simpa using hs
  | cons o os ih =>
    obtain ⟨b, hb, n, rfl⟩ := hos o List.mem_cons_self
    have hrest := ih (hs.call hb n) fun o ho => hos o (List.mem_cons_of_mem _ ho)
    simpa using hrest

theorem Settled.stopAll (hs : Settled h g (bs ++ live) live) (hlt : ∀ b ∈ bs, b.generation < g)
    (hlive : ∀ b ∈ live, b.generation = g)
    (horder : bs.Pairwise fun b b' => b.isModule = false → b'.isModule = false) :
    Settled (h ++ bs.map (.stopped · 0)) g live live := by
  induction bs generalizing h with
  | nil => simpa using hs
  | cons b bs ih =>
    have hb : b.generation < g := hlt b List.mem_cons_self
    obtain ⟨hfirst, hothers⟩ := List.pairwise_cons.1 horder
    have hstop : Settled (h ++ [.stopped b 0]) g (bs ++ live) live := by
      apply hs.stop hb
      · intro b' hb'
        rw [hlive b' hb']
        omega
      · intro hreporter b' hb' hmodule
        rcases List.mem_append.1 hb' with hb' | hb'
        · exact absurd (hmodule.symm.trans (hfirst b' hb' hreporter)) Bool.false_ne_true.symm
        · rw [hlive b' hb']
          omega
    have hrest := ih hstop (fun b' hb' => hlt b' (List.mem_cons_of_mem b hb')) hothers
    simpa using hrest

/-- Nothing is under way: what is held is live, and the next generation has a number of its own. -/
structure AtRest (h : History) (g : Nat) (live : List Badge) : Prop extends
    Settled h g live live where
  earlier : ∀ b ∈ h.built, b.generation < g

theorem atRest_nil (g : Nat) : AtRest [] g [] :=
  ⟨settled_nil g, fun _ hb => (by cases hb)⟩

theorem AtRest.next (hr : AtRest h g live) : AtRest h (g + 1) live := by
  have hlt (b : Badge) (hb : b ∈ h.built) : b.generation < g + 1 :=
    Nat.lt_succ_of_lt (hr.earlier b hb)
  exact ⟨{ hr.toSettled with current := fun b hb => .inl (hlt b hb) }, hlt⟩

theorem AtRest.callAll (hr : AtRest h g live) {os : History}
    (hos : ∀ o ∈ os, ∃ b ∈ live, ∃ n, o = .called b n) : AtRest (h ++ os) g live := by
  refine ⟨hr.toSettled.callAll hos, ?_⟩
  intro b hb
  rw [built_append, List.mem_append] at hb
  rcases hb with hb | hb
  · exact hr.earlier b hb
  · obtain ⟨o, ho, hbuilt⟩ := List.mem_filterMap.1 hb
    obtain ⟨b', -, n, rfl⟩ := hos o ho
    cases hbuilt

theorem AtRest.swap (hr : AtRest h g live) : AtRest (h ++ [.live live]) g live := by
  refine ⟨hr.toSettled.swap fun b hb => hb, ?_⟩
  rw [built_append]
  simpa [History.built] using hr.earlier

/-- New units are built and called, and become live; the units before them are stopped. -/
theorem AtRest.turnover (hr : AtRest h g live) {order : List Badge} {calls : History}
    (hperm : order.Perm bs) (hg : ∀ b ∈ bs, b.generation = g) (hnodup : bs.Nodup)
    (hcalls : ∀ o ∈ calls, ∃ b ∈ bs, ∃ n, o = .called b n)
    (horder : live.Pairwise fun b b' => b.isModule = false → b'.isModule = false) :
    AtRest (h ++ order.map .built ++ calls ++ [.live bs] ++ live.map (.stopped · 0)) (g + 1)
      bs := by
  have hlt (b : Badge) (hb : b ∈ live) : b.generation < g := hr.earlier b (hr.built b hb)
  have hapart : (live ++ bs).Nodup := by
    refine List.nodup_append'.2 ⟨hr.nodup, hnodup, ?_⟩
    intro b hlive hbs
    have hbefore := hlt b hlive
    have hnow := hg b hbs
    omega
  -- Until the old units are stopped, both are held.
  have hbuilt := (hr.toSettled.buildAll (fun b hb => hg b (hperm.mem_iff.1 hb))
    ((hperm.append_left live).nodup_iff.2 hapart)).perm (hperm.append_left live)
  have hcalled := hbuilt.callAll fun o ho => by
    obtain ⟨b, hb, n, rfl⟩ := hcalls o ho
    exact ⟨b, List.mem_append_right _ hb, n, rfl⟩
  have hswapped := hcalled.swap fun b hb => List.mem_append_right live hb
  have hstopped := hswapped.stopAll hlt hg horder
  have hlast (b : Badge) (hb : b ∈ History.built _) : b.generation < g + 1 :=
    (hstopped.current b hb).elim Nat.lt_succ_of_lt fun hcur => hcur.1 ▸ Nat.lt_succ_self _
  exact ⟨{ hstopped with current := fun b hb => .inl (hlast b hb) }, hlast⟩

end QueryWatch.History
