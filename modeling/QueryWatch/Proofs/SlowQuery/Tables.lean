import QueryWatch.SlowQuery.Watcher

namespace QueryWatch.SlowQuery

/-- An entry names a keyspace and a table: they stand before and behind its first point, and neither is empty. -/
structure Names (entry keyspace table : String) : Prop where
  trimmed : Text.trim entry.toList = keyspace.toList ++ '.' :: table.toList
  first : '.' ∉ keyspace.toList
  keyspace_ne : keyspace ≠ ""
  table_ne : table ≠ ""

namespace Selector

theorem split?_cons (c : Char) (s : List Char) :
    split? (c :: s) =
      if c = '.' then some ([], s) else (split? s).map fun cut => (c :: cut.1, cut.2) := by
  by_cases hc : c = '.'
  · simp [split?, hc]
  · simp only [split?, List.dropWhile_cons, List.takeWhile_cons, hc, ne_eq, not_false_eq_true,
      decide_true, if_true, if_false]
    split <;> rfl

theorem split?_eq_some_iff {s a b : List Char} :
    split? s = some (a, b) ↔ s = a ++ '.' :: b ∧ '.' ∉ a := by
  induction s generalizing a b with
  | nil => simp [split?]
  | cons c s ih =>
    rw [split?_cons]
    by_cases hc : c = '.'
    · subst hc
      rw [if_pos rfl]
      cases a with
      | nil => simp
      | cons d a =>
        simp only [Option.some.injEq, Prod.mk.injEq, List.cons_append, List.cons.injEq, List.mem_cons]
        constructor
        · rintro ⟨⟨⟩, -⟩
        · rintro ⟨⟨rfl, -⟩, hfirst⟩
          exact absurd (.inl rfl) hfirst
    · rw [if_neg hc, Option.map_eq_some_iff]
      cases a with
      | nil => simp [hc]
      | cons d a =>
        simp only [Prod.exists, ih, Prod.mk.injEq, List.cons_append, List.cons.injEq, List.mem_cons]
        constructor
        · rintro ⟨a', b', ⟨rfl, hfirst⟩, ⟨rfl, rfl⟩, rfl⟩
          refine ⟨⟨rfl, rfl⟩, ?_⟩
          rintro (h | h)
          · exact hc h.symm
          · exact hfirst h
        · rintro ⟨⟨rfl, rfl⟩, hfirst⟩
          exact ⟨a, b, ⟨rfl, fun h => hfirst (.inr h)⟩, ⟨rfl, rfl⟩, rfl⟩

def ofNames (keyspace table : String) : Selector :=
  if table = "*" then .all keyspace else .one keyspace table

theorem parse?_eq_some_iff {entry : String} {s : Selector} :
    parse? entry = some s ↔ ∃ keyspace table, Names entry keyspace table ∧ s = ofNames keyspace table := by
  constructor
  · intro h
    unfold parse? at h
    split at h
    · next k t hcut =>
      obtain ⟨htrim, hfirst⟩ := split?_eq_some_iff.1 hcut
      split at h
      · cases h
      · next hne =>
        rw [not_or] at hne
        have hnames : Names entry (String.ofList k) (String.ofList t) :=
          ⟨by simpa using htrim, by simpa using hfirst, by simpa using hne.1, by simpa using hne.2⟩
        refine ⟨_, _, hnames, ?_⟩
        split at h
        · next hstar =>
          subst hstar
          exact (Option.some.inj h).symm
        · next hstar =>
          rw [ofNames, if_neg]
          · exact (Option.some.inj h).symm
          · intro heq
            apply hstar
            rw [← String.toList_ofList (l := t), heq]
            rfl
    · cases h
  · rintro ⟨keyspace, table, h, rfl⟩
    have hcut : split? (Text.trim entry.toList) = some (keyspace.toList, table.toList) :=
      split?_eq_some_iff.2 ⟨h.trimmed, h.first⟩
    have hne : ¬(keyspace.toList = [] ∨ table.toList = []) := by
      simp [h.keyspace_ne, h.table_ne]
    rw [parse?, hcut]
    dsimp only
    rw [if_neg hne, ofNames]
    by_cases hstar : table = "*"
    · subst hstar
      rw [if_pos (by rfl), if_pos rfl, String.ofList_toList]
    · have hstar' : table.toList ≠ ['*'] := fun heq => hstar (String.toList_injective heq)
      rw [if_neg hstar', if_neg hstar, String.ofList_toList, String.ofList_toList]

theorem all_eq_ofNames_iff {watched keyspace table : String} :
    all watched = ofNames keyspace table ↔ watched = keyspace ∧ table = "*" := by
  unfold ofNames
  split <;> simp [*]

theorem one_eq_ofNames_iff {watched name keyspace table : String} :
    one watched name = ofNames keyspace table ↔
      (watched = keyspace ∧ name = table) ∧ table ≠ "*" := by
  unfold ofNames
  split <;> simp [*]

theorem isSome_parse?_iff {entry : String} :
    (parse? entry).isSome = true ↔ ∃ keyspace table, Names entry keyspace table := by
  rw [Option.isSome_iff_exists]
  constructor
  · rintro ⟨s, hs⟩
    obtain ⟨keyspace, table, h, -⟩ := parse?_eq_some_iff.1 hs
    exact ⟨keyspace, table, h⟩
  · rintro ⟨keyspace, table, h⟩
    exact ⟨_, parse?_eq_some_iff.2 ⟨keyspace, table, h, rfl⟩⟩

end Selector

theorem selectors_eq_ok {entries : List String} (h : ∀ e ∈ entries, (Selector.parse? e).isSome = true) :
    selectors entries = .ok (entries.filterMap Selector.parse?) := by
  induction entries with
  | nil => rfl
  | cons e entries ih =>
    obtain ⟨he, hrest⟩ := List.forall_mem_cons.1 h
    obtain ⟨s, hs⟩ := Option.isSome_iff_exists.1 he
    rw [selectors, hs, ih hrest, List.filterMap_cons, hs]
    rfl

theorem map_eq_error_iff {ε α β : Type} {f : α → β} {x : Except ε α} {fault : ε} :
    x.map f = .error fault ↔ x = .error fault := by
  cases x <;> simp [Except.map]

/-- The entry that is told is the first that names nothing. -/
theorem selectors_eq_error_iff {entries : List String} {fault : BuildError} :
    selectors entries = .error fault ↔ ∃ before bad behind, entries = before ++ bad :: behind ∧
      (∀ e ∈ before, (Selector.parse? e).isSome = true) ∧ Selector.parse? bad = none ∧
      fault = .invalidOption "tablesForLogging" (.tableEntry bad) := by
  induction entries with
  | nil => simp [selectors]
  | cons e entries ih =>
    cases he : Selector.parse? e with
    | none =>
      rw [selectors, he]
      constructor
      · intro h
        exact ⟨[], e, entries, rfl, List.forall_mem_nil _, he, (Except.error.inj h).symm⟩
      · rintro ⟨before, bad, behind, hsplit, hbefore, hbad, rfl⟩
        cases before with
        | nil =>
          obtain ⟨rfl, rfl⟩ := List.cons.inj hsplit
          rfl
        | cons e' before =>
          obtain ⟨rfl, rfl⟩ := List.cons.inj hsplit
          have hnamed := hbefore e List.mem_cons_self
          rw [he] at hnamed
          cases hnamed
    | some s =>
      have hmap : selectors (e :: entries) = (selectors entries).map (s :: ·) := by
        rw [selectors, he]
      rw [hmap, map_eq_error_iff, ih]
      constructor
      · rintro ⟨before, bad, behind, rfl, hbefore, hbad, hfault⟩
        refine ⟨e :: before, bad, behind, rfl, ?_, hbad, hfault⟩
        exact List.forall_mem_cons.2 ⟨by rw [he]; rfl, hbefore⟩
      · rintro ⟨before, bad, behind, hsplit, hbefore, hbad, hfault⟩
        cases before with
        | nil =>
          obtain ⟨rfl, rfl⟩ := List.cons.inj hsplit
          rw [he] at hbad
          cases hbad
        | cons e' before =>
          obtain ⟨rfl, rfl⟩ := List.cons.inj hsplit
          exact ⟨before, bad, behind, rfl, (List.forall_mem_cons.1 hbefore).2, hbad, hfault⟩

namespace Decider

variable {threshold : UInt64} {chosen : List Selector}

theorem mem_tables_new {keyspace table : String} :
    (keyspace, table) ∈ (new threshold chosen).tables ↔ .one keyspace table ∈ chosen := by
  rw [new, List.mem_filterMap]
  constructor
  · rintro ⟨s, hs, h⟩
    cases s with
    | one k t =>
      cases h
      exact hs
    | all k => cases h
  · intro h
    exact ⟨_, h, rfl⟩

theorem mem_keyspaces_new {keyspace : String} :
    keyspace ∈ (new threshold chosen).keyspaces ↔ .all keyspace ∈ chosen := by
  rw [new, List.mem_filterMap]
  constructor
  · rintro ⟨s, hs, h⟩
    cases s with
    | one k t => cases h
    | all k =>
      cases h
      exact hs
  · intro h
    exact ⟨_, h, rfl⟩

theorem hasList_new : (new threshold chosen).hasList = true ↔ chosen ≠ [] := by
  cases chosen with
  | nil => simp [new, hasList]
  | cons s chosen => cases s <;> simp [new, hasList]

theorem isWatched_new {keyspace table : String} :
    (new threshold chosen).isWatched keyspace table = true ↔
      .all keyspace ∈ chosen ∨ .one keyspace table ∈ chosen := by
  rw [isWatched, Bool.or_eq_true, List.contains_iff_mem, List.contains_iff_mem, mem_tables_new,
    mem_keyspaces_new]

end Decider

/-- A table that a list is about: an empty list is about all of them, and a star is about all of a keyspace. -/
def Listed (entries : List String) (keyspace table : String) : Prop :=
  entries = [] ∨ ∃ entry ∈ entries, ∃ name, Names entry keyspace name ∧ (name = "*" ∨ name = table)

variable {entries : List String} {threshold : UInt64} {keyspace table : String}

theorem mem_selectors_iff {s : Selector} :
    s ∈ entries.filterMap Selector.parse? ↔
      ∃ entry ∈ entries, ∃ keyspace table, Names entry keyspace table ∧ s = .ofNames keyspace table := by
  simp only [List.mem_filterMap, Selector.parse?_eq_some_iff]

theorem isWatched_iff :
    (Decider.new threshold (entries.filterMap Selector.parse?)).isWatched keyspace table = true ↔
      ∃ entry ∈ entries, ∃ name, Names entry keyspace name ∧ (name = "*" ∨ name = table) := by
  rw [Decider.isWatched_new, mem_selectors_iff, mem_selectors_iff]
  simp only [Selector.all_eq_ofNames_iff, Selector.one_eq_ofNames_iff]
  constructor
  · rintro (⟨entry, hmem, _, _, hnames, rfl, rfl⟩ | ⟨entry, hmem, _, _, hnames, ⟨rfl, rfl⟩, -⟩)
    · exact ⟨entry, hmem, _, hnames, .inl rfl⟩
    · exact ⟨entry, hmem, _, hnames, .inr rfl⟩
  · rintro ⟨entry, hmem, name, hnames, hname⟩
    by_cases hstar : name = "*"
    · exact .inl ⟨entry, hmem, _, _, hnames, rfl, hstar⟩
    · exact .inr ⟨entry, hmem, _, _, hnames, ⟨rfl, (hname.resolve_left hstar).symm⟩, hstar⟩

theorem hasList_iff (h : ∀ e ∈ entries, (Selector.parse? e).isSome = true) :
    (Decider.new threshold (entries.filterMap Selector.parse?)).hasList = true ↔ entries ≠ [] := by
  rw [Decider.hasList_new]
  cases entries with
  | nil => simp
  | cons e entries =>
    obtain ⟨s, hs⟩ := Option.isSome_iff_exists.1 (h e List.mem_cons_self)
    simp [hs]

theorem listed_iff (h : ∀ e ∈ entries, (Selector.parse? e).isSome = true) :
    Listed entries keyspace table ↔
      (!(Decider.new threshold (entries.filterMap Selector.parse?)).hasList ||
        (Decider.new threshold (entries.filterMap Selector.parse?)).isWatched keyspace table) = true := by
  rw [Bool.or_eq_true, isWatched_iff, Bool.not_eq_true', ← Bool.not_eq_true, hasList_iff h,
    Decidable.not_not, Listed]

end QueryWatch.SlowQuery
