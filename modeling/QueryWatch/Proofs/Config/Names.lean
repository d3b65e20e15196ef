import Mathlib.Data.List.Pairwise
import QueryWatch.Proofs.Config.Given
import QueryWatch.Proofs.Config.Unknown

namespace QueryWatch

namespace KeyMap

variable {α : Type}

/-- The entries of two maps; under a key of both, that of the second. -/
def merge (m further : KeyMap α) : KeyMap α :=
  further.entries.foldl (fun m e => m.insert e.1 e.2) m

theorem get?_foldl_insert {es : List (String × α)} (h : es.Pairwise fun a b => a.1 < b.1)
    (m : KeyMap α) (key : String) :
    (es.foldl (fun m e => m.insert e.1 e.2) m).get? key = (es.lookup key).or (m.get? key) := by
  induction es generalizing m with
  | nil => rfl
  | cons e rest ih =>
    obtain ⟨k, v⟩ := e
    obtain ⟨hfirst, hrest⟩ := List.pairwise_cons.1 h
    rw [List.foldl_cons, ih hrest, List.lookup_cons]
    by_cases hk : key = k
    · subst hk
      rw [lookup_eq_none_of_lt hfirst, beq_self_eq_true, get?_insert_self]
      rfl
    · rw [beq_false_of_ne hk, get?_insert_of_ne _ _ hk]

theorem get?_merge (m further : KeyMap α) (key : String) :
    (m.merge further).get? key = (further.get? key).or (m.get? key) :=
  get?_foldl_insert further.sorted m key

theorem get?_eq_none_iff {m : KeyMap α} {key : String} :
    m.get? key = none ↔ m.contains key = false := by
  rw [contains, Option.isSome_eq_false_iff, Option.isNone_iff_eq_none]

theorem get?_merge_of_not_contains (m : KeyMap α) {further : KeyMap α} {key : String}
    (h : further.contains key = false) : (m.merge further).get? key = m.get? key := by
  rw [get?_merge, get?_eq_none_iff.2 h, Option.none_or]

theorem filterMap_get?_congr {m n : KeyMap α} {names : List String}
    (h : ∀ name ∈ names, m.get? name = n.get? name) :
    (names.filterMap fun name => (m.get? name).map (name, ·)) =
      names.filterMap fun name => (n.get? name).map (name, ·) := by
  apply List.filterMap_congr
  intro name hname
  rw [h name hname]

theorem filterMap_get?_insert (m : KeyMap α) {names : List String} {key : String} (value : α)
    (h : key ∉ names) :
    (names.filterMap fun name => ((m.insert key value).get? name).map (name, ·)) =
      names.filterMap fun name => (m.get? name).map (name, ·) := by
  apply filterMap_get?_congr
  intro name hname
  exact m.get?_insert_of_ne value fun heq => h (heq ▸ hname)

end KeyMap

namespace Config.Record

variable {σ : Type} {r : Record σ} {names : List String}

theorem readOptions_congr (hkeys : r.keys.Perm names) (hsorted : names.Pairwise (· < ·))
    {options options' : KeyMap Json} (h : ∀ name ∈ names, options.get? name = options'.get? name) :
    r.readOptions options = r.readOptions options' := by
  rw [readOptions_eq hkeys hsorted, readOptions_eq hkeys hsorted, KeyMap.filterMap_get?_congr h]

section Renaming

variable {key other : String}

theorem readMembers_renamed
    (hfield : r.fields.find? (·.answersTo key) = r.fields.find? (·.answersTo other))
    (before behind : List (String × Json)) (j : Json) :
    r.readMembers (before ++ (key, j) :: behind) = r.readMembers (before ++ (other, j) :: behind) := by
  have hvisit : ∀ state, r.visit state (key, j) = r.visit state (other, j) := by
    intro state
    rw [visit, visit, hfield]
  simp only [readMembers, List.foldlM_append, List.foldlM_cons, hvisit]

/-- A field is called by either of two names that are neighbours in the order of names. A name between them
would be visited behind the one and before the other, and so its fault could come second or first. -/
theorem readOptions_renamed (before behind : List String)
    (hkeys : r.keys.Perm (before ++ key :: other :: behind))
    (hsorted : (before ++ key :: other :: behind).Pairwise (· < ·))
    (hfield : r.fields.find? (·.answersTo key) = r.fields.find? (·.answersTo other))
    {options : KeyMap Json} (hkey : options.get? key = none) (hother : options.get? other = none)
    (j : Json) :
    r.readOptions (options.insert key j) = r.readOptions (options.insert other j) := by
  have hnodup : (before ++ key :: other :: behind).Nodup := hsorted.imp String.ne_of_lt
  obtain ⟨-, hrest, hapart⟩ := List.nodup_append.1 hnodup
  obtain ⟨hkeyRest, hbehind⟩ := List.nodup_cons.1 hrest
  have hkeyBefore : key ∉ before := fun h => hapart key h key List.mem_cons_self rfl
  have hotherBefore : other ∉ before :=
    fun h => hapart other h other (List.mem_cons_of_mem _ List.mem_cons_self) rfl
  have hkeyBehind : key ∉ behind := fun h => hkeyRest (List.mem_cons_of_mem _ h)
  have hotherBehind : other ∉ behind := (List.nodup_cons.1 hbehind).1
  have hne : key ≠ other := List.ne_of_not_mem_cons hkeyRest
  rw [readOptions_eq hkeys hsorted, readOptions_eq hkeys hsorted]
  simp only [List.filterMap_append, List.filterMap_cons, KeyMap.get?_insert_self,
    KeyMap.get?_insert_of_ne _ _ hne, KeyMap.get?_insert_of_ne _ _ hne.symm, hkey, hother,
    Option.map_some, Option.map_none, options.filterMap_get?_insert j hkeyBefore,
    options.filterMap_get?_insert j hotherBefore, options.filterMap_get?_insert j hkeyBehind,
    options.filterMap_get?_insert j hotherBehind]
  exact readMembers_renamed hfield _ _ j

end Renaming

section Once

variable {members : List (String × Json)} {state last : List String × σ}

theorem seen_of_visit {member : String × Json} (h : r.visit state member = .ok last) :
    state.1 ⊆ last.1 := by
  rcases visit_cases h with ⟨-, rfl⟩ | ⟨f, s, -, -, -, rfl⟩
  · exact fun _ hname => hname
  · exact fun _ hname => List.mem_cons_of_mem _ hname

theorem taken_of_visit {member : String × Json} {f : RecordField σ}
    (h : r.visit state member = .ok last)
    (hf : r.fields.find? (·.answersTo member.1) = some f) : f.name ∉ state.1 ∧ f.name ∈ last.1 := by
  rcases visit_cases h with ⟨hnone, -⟩ | ⟨g, s, hg, hnew, -, rfl⟩
  · rw [hf] at hnone
    cases hnone
  · rw [hf] at hg
    cases hg
    exact ⟨hnew, List.mem_cons_self⟩

theorem unseen_of_visits (h : members.foldlM r.visit state = .ok last) :
    ∀ member ∈ members, ∀ f, r.fields.find? (·.answersTo member.1) = some f → f.name ∉ state.1 := by
  induction members generalizing state with
  | nil => exact nofun
  | cons first rest ih =>
    obtain ⟨next, hvisit, hvisits⟩ := visits_cons h
    intro member hmember f hf
    rcases List.mem_cons.1 hmember with rfl | hmember
    · exact (taken_of_visit hvisit hf).1
    · intro hseen
      exact ih hvisits member hmember f hf (seen_of_visit hvisit hseen)

theorem once_of_visits (h : members.foldlM r.visit state = .ok last) :
    members.Pairwise fun a b => ∀ f, r.fields.find? (·.answersTo a.1) = some f →
      r.fields.find? (·.answersTo b.1) ≠ some f := by
  induction members generalizing state with
  | nil => exact .nil
  | cons first rest ih =>
    obtain ⟨next, hvisit, hvisits⟩ := visits_cons h
    apply List.Pairwise.cons
    · intro member hmember f hf hsame
      exact unseen_of_visits hvisits member hmember f hsame (taken_of_visit hvisit hf).2
    · exact ih hvisits

theorem eq_of_same_field {options : KeyMap Json} {s : σ} {f : RecordField σ} {key other : String}
    (h : r.readOptions options = .ok s) (hkey : options.contains key = true)
    (hother : options.contains other = true)
    (hf : r.fields.find? (·.answersTo key) = some f)
    (hf' : r.fields.find? (·.answersTo other) = some f) : key = other := by
  obtain ⟨seen, hvisits⟩ := visits_of_readOptions h
  obtain ⟨j, hj⟩ := Option.isSome_iff_exists.1 hkey
  obtain ⟨j', hj'⟩ := Option.isSome_iff_exists.1 hother
  have : Std.Symm fun a b : String × Json => ∀ f, r.fields.find? (·.answersTo a.1) = some f →
      r.fields.find? (·.answersTo b.1) ≠ some f :=
    ⟨fun a b hab f hb ha => hab f ha hb⟩
  apply Classical.byContradiction
  intro hne
  have hapart : (key, j) ≠ (other, j') := fun heq => hne (congrArg Prod.fst heq)
  exact (once_of_visits hvisits).forall (KeyMap.get?_eq_some_iff.1 hj)
    (KeyMap.get?_eq_some_iff.1 hj') hapart f hf hf'

end Once

end Config.Record

end QueryWatch
