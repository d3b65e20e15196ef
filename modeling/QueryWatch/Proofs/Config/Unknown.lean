import Mathlib.Data.List.Sort
import QueryWatch.Proofs.Config.Documents

namespace QueryWatch

namespace KeyMap

variable {α : Type}

theorem get?_eq_some_iff {m : KeyMap α} {key : String} {value : α} :
    m.get? key = some value ↔ (key, value) ∈ m.entries := by
  rw [get?, List.lookup_eq_some_iff]
  constructor
  · rintro ⟨before, behind, h, -⟩
    rw [h]
    exact List.mem_append_right _ List.mem_cons_self
  · intro h
    obtain ⟨before, behind, hsplit⟩ := List.append_of_mem h
    refine ⟨before, behind, hsplit, fun e he => ?_⟩
    have hlt : e.1 < key := by
      have hsorted := m.sorted
      rw [hsplit] at hsorted
      exact (List.pairwise_append.1 hsorted).2.2 e he _ List.mem_cons_self
    rw [bne_iff_ne]
    rintro rfl
    exact String.lt_irrefl _ hlt

theorem entries_filter (m : KeyMap α) {keys : List String} (h : keys.Pairwise (· < ·)) :
    m.entries.filter (fun e => keys.contains e.1) =
      keys.filterMap fun key => (m.get? key).map (key, ·) := by
  have : Std.Antisymm fun a b : String × α => a.1 < b.1 :=
    ⟨fun a b hab hba => absurd (String.lt_trans hab hba) (String.lt_irrefl _)⟩
  have : Std.Irrefl fun a b : String × α => a.1 < b.1 := ⟨fun a => String.lt_irrefl _⟩
  have hright : (keys.filterMap fun key => (m.get? key).map (key, ·)).Pairwise
      fun a b => a.1 < b.1 := by
    refine List.Pairwise.filterMap _ ?_ h
    intro k k' hlt e he f hf
    obtain ⟨v, -, rfl⟩ := Option.map_eq_some_iff.1 he
    obtain ⟨w, -, rfl⟩ := Option.map_eq_some_iff.1 hf
    exact hlt
  refine List.Pairwise.eq_of_mem_iff (m.sorted.filter _) hright ?_
  rintro ⟨k, v⟩
  rw [List.mem_filter, List.contains_iff_mem, List.mem_filterMap]
  constructor
  · rintro ⟨hmem, hkey⟩
    exact ⟨k, hkey, Option.map_eq_some_iff.2 ⟨v, get?_eq_some_iff.2 hmem, rfl⟩⟩
  · rintro ⟨key, hkey, hvalue⟩
    obtain ⟨w, hw, heq⟩ := Option.map_eq_some_iff.1 hvalue
    cases heq
    exact ⟨get?_eq_some_iff.1 hw, hkey⟩

end KeyMap

namespace Config.Record

variable {σ : Type} {r : Record σ} {names : List String}

def knows (r : Record σ) (key : String) : Bool :=
  r.fields.any (·.answersTo key)

def keys (r : Record σ) : List String :=
  r.fields.flatMap fun f => f.name :: f.otherNames

theorem knows_iff {key : String} : r.knows key = true ↔ key ∈ r.keys := by
  rw [knows, keys, List.any_eq_true, List.mem_flatMap]
  apply exists_congr
  intro f
  rw [RecordField.answersTo, Bool.or_eq_true, decide_eq_true_iff, List.contains_iff_mem,
    List.mem_cons, eq_comm]

theorem knows_eq_contains (h : r.keys.Perm names) (key : String) :
    r.knows key = names.contains key := by
  rw [Bool.eq_iff_iff, knows_iff, h.mem_iff, List.contains_iff_mem]

theorem visit_of_unknown {member : String × Json} (h : r.knows member.1 = false)
    (state : List String × σ) : r.visit state member = .ok state := by
  have hnone : r.fields.find? (·.answersTo member.1) = none := by
    rw [List.find?_eq_none]
    intro f hf hanswers
    rw [knows, List.any_eq_false] at h
    exact h f hf hanswers
  rw [visit, hnone]

/-- Unknown members change nothing, wherever they stand. -/
theorem foldlM_visit_known (members : List (String × Json)) (state : List String × σ) :
    (members.filter fun e => r.knows e.1).foldlM r.visit state = members.foldlM r.visit state := by
  have hvisit : (fun state member =>
      if r.knows member.1 = true then r.visit state member else pure state) = r.visit := by
    funext state member
    split
    · rfl
    · next h => exact (visit_of_unknown (Bool.eq_false_of_not_eq_true h) state).symm
  rw [List.foldlM_filter, hvisit]

theorem readMembers_known (members : List (String × Json)) :
    r.readMembers (members.filter fun e => r.knows e.1) = r.readMembers members := by
  rw [readMembers, readMembers, foldlM_visit_known]

/-- Options are read from what is given under the names that the record knows. -/
theorem readOptions_eq (hkeys : r.keys.Perm names) (hsorted : names.Pairwise (· < ·))
    (options : KeyMap Json) :
    r.readOptions options =
      r.readMembers (names.filterMap fun key => (options.get? key).map (key, ·)) := by
  rw [readOptions, ← KeyMap.entries_filter options hsorted, ← readMembers_known]
  simp only [knows_eq_contains hkeys]

end Config.Record

end QueryWatch
