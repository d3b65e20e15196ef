import QueryWatch.Config.Decoder

namespace QueryWatch.Config

variable {α β σ : Type}

theorem eq_int_of_readNat {bound n : Nat} {type : String} {j : Json}
    (h : readNat bound type j = .ok n) : j = .int n ∧ n < bound := by
  cases j with
  | int k =>
    rw [readNat] at h
    split at h
    · next hk =>
      obtain ⟨hpos, hlt⟩ := hk
      cases h
      rw [Int.toNat_of_nonneg hpos]
      exact ⟨rfl, by omega⟩
    · cases h
  | _ => cases h

theorem eq_int_of_readSize {n : UInt64} {j : Json} (h : readSize j = .ok n) : j = .int n.toNat := by
  rw [readSize] at h
  cases hread : readNat UInt64.size "usize" j with
  | error e =>
    rw [hread] at h
    cases h
  | ok k =>
    rw [hread] at h
    obtain ⟨hj, hlt⟩ := eq_int_of_readNat hread
    cases h
    rw [hj, Nat.toUInt64, UInt64.toNat_ofNat_of_lt' hlt]

theorem RecordField.exists_of_read {name : String} {read : Reader α} {set : α → σ → σ} {j : Json}
    {s s' : σ} (h : (RecordField.of name read set).read j s = .ok s') :
    ∃ a, read j = .ok a ∧ set a s = s' := by
  change (read j).map (set · s) = .ok s' at h
  cases hread : read j with
  | error e =>
    rw [hread] at h
    cases h
  | ok a =>
    rw [hread] at h
    exact ⟨a, rfl, Except.ok.inj h⟩

namespace Record

variable {r : Record σ} {key : String} {read : Reader β} {part : σ → β}

/-- A member is passed over if no field answers to it, and else it is taken by the field that does, which
has taken none before. -/
theorem visit_cases {state next : List String × σ} {member : String × Json}
    (h : r.visit state member = .ok next) :
    (r.fields.find? (·.answersTo member.1) = none ∧ next = state) ∨
      ∃ f s, r.fields.find? (·.answersTo member.1) = some f ∧ f.name ∉ state.1 ∧
        f.read member.2 state.2 = .ok s ∧ next = (f.name :: state.1, s) := by
  rw [visit] at h
  cases hfind : r.fields.find? (·.answersTo member.1) with
  | none =>
    rw [hfind] at h
    exact .inl ⟨rfl, (Except.ok.inj h).symm⟩
  | some f =>
    rw [hfind] at h
    dsimp only at h
    split at h
    · cases h
    · next hunseen =>
      cases hread : f.read member.2 state.2 with
      | error e =>
        rw [hread] at h
        cases h
      | ok s =>
        rw [hread] at h
        have hnew : f.name ∉ state.1 := fun hmem => hunseen (List.contains_iff_mem.2 hmem)
        exact .inr ⟨f, s, rfl, hnew, hread, (Except.ok.inj h).symm⟩

theorem visits_cons {state last : List String × σ} {first : String × Json}
    {rest : List (String × Json)} (h : (first :: rest).foldlM r.visit state = .ok last) :
    ∃ next, r.visit state first = .ok next ∧ rest.foldlM r.visit next = .ok last := by
  rw [List.foldlM_cons] at h
  cases hvisit : r.visit state first with
  | error e =>
    rw [hvisit] at h
    cases h
  | ok next =>
    rw [hvisit] at h
    exact ⟨next, rfl, h⟩

theorem visits_of_readOptions {options : KeyMap Json} {s : σ} (h : r.readOptions options = .ok s) :
    ∃ seen, options.entries.foldlM r.visit ([], r.start) = .ok (seen, s) := by
  rw [readOptions, readMembers] at h
  cases hlast : options.entries.foldlM r.visit ([], r.start) with
  | error e =>
    rw [hlast] at h
    cases h
  | ok last =>
    rw [hlast] at h
    simp only [bind, Except.bind] at h
    split at h
    · cases h
    · cases h
      exact ⟨last.1, rfl⟩

/-- A part of the record that is read by a field of its own, under one key, and touched by no other field.
-/
structure ReadsPart (r : Record σ) (key : String) (read : Reader β) (part : σ → β) : Prop where
  own : ∃ set, r.fields.find? (·.answersTo key) = some (.of key read set) ∧
    ∀ b s, part (set b s) = b
  others : ∀ f ∈ r.fields, ∀ other, other ≠ key → f.answersTo other = true →
    ∀ j s s', f.read j s = .ok s' → part s' = part s

namespace ReadsPart

variable {state next last : List String × σ}

theorem of_visit_own (h : r.ReadsPart key read part) {j : Json}
    (hvisit : r.visit state (key, j) = .ok next) : read j = .ok (part next.2) := by
  obtain ⟨set, hfind, hset⟩ := h.own
  rcases visit_cases hvisit with ⟨hnone, -⟩ | ⟨f, s, hfound, -, hread, rfl⟩
  · rw [hfind] at hnone
    cases hnone
  · rw [hfind] at hfound
    cases hfound
    obtain ⟨b, hb, rfl⟩ := RecordField.exists_of_read hread
    rw [hb, hset]

theorem of_visit_other (h : r.ReadsPart key read part) {member : String × Json}
    (hne : member.1 ≠ key) (hvisit : r.visit state member = .ok next) :
    part next.2 = part state.2 := by
  rcases visit_cases hvisit with ⟨-, rfl⟩ | ⟨f, s, hfind, -, hread, rfl⟩
  · rfl
  · have hmem : f ∈ r.fields := List.mem_of_find?_eq_some hfind
    have hanswers : f.answersTo member.1 = true :=
      List.find?_some (p := fun f : RecordField σ => f.answersTo member.1) hfind
    exact h.others f hmem member.1 hne hanswers _ _ _ hread

theorem of_visits (h : r.ReadsPart key read part) {members : List (String × Json)}
    (hsorted : members.Pairwise fun a b => a.1 < b.1)
    (hlast : members.foldlM r.visit state = .ok last) :
    ((members.lookup key).map read).getD (.ok (part state.2)) = .ok (part last.2) := by
  induction members generalizing state with
  | nil =>
    cases hlast
    rfl
  | cons member rest ih =>
    obtain ⟨k, j⟩ := member
    obtain ⟨hfirst, hrest⟩ := List.pairwise_cons.1 hsorted
    obtain ⟨next, hvisit, hvisits⟩ := visits_cons hlast
    have hgiven := ih hrest hvisits
    by_cases hk : k = key
    · subst hk
      rw [KeyMap.lookup_eq_none_of_lt hfirst] at hgiven
      rw [List.lookup_cons, beq_self_eq_true]
      exact (h.of_visit_own hvisit).trans hgiven
    · have hne : (key == k) = false := beq_false_of_ne fun he => hk he.symm
      rw [List.lookup_cons, hne, ← h.of_visit_other hk hvisit]
      exact hgiven

theorem given (h : r.ReadsPart key read part) {options : KeyMap Json} {s : σ}
    (hs : r.readOptions options = .ok s) :
    ((options.get? key).map read).getD (.ok (part r.start)) = .ok (part s) := by
  obtain ⟨seen, hlast⟩ := visits_of_readOptions hs
  exact h.of_visits options.sorted hlast

end ReadsPart

end Record

end QueryWatch.Config
