import QueryWatch.Measurement
import QueryWatch.Proofs.Config.Unknown
import QueryWatch.Proofs.Text.ByteOrder

namespace QueryWatch

variable {α : Type}

/-- The entries of a map in an order in which they happen to be enumerated. -/
structure Enumeration (m : KeyMap α) where
  entries : List (String × α)
  perm : entries.Perm m.entries

/-- A sort that compares keys alone, by their bytes. Where it leaves entries with equal keys is not said.
-/
structure KeySort (α : Type) where
  sort : List (String × α) → List (String × α)
  perm : ∀ es, (sort es).Perm es
  ordered : ∀ es, (sort es).Pairwise fun a b => ¬Wire.utf8 b.1 < Wire.utf8 a.1

namespace KeyMap

theorem insertEntry_perm {key : String} {value : α} {es : List (String × α)}
    (h : key ∉ es.map Prod.fst) : (insertEntry key value es).Perm ((key, value) :: es) := by
  induction es with
  | nil => exact .refl _
  | cons e es ih =>
    obtain ⟨k, v⟩ := e
    rw [List.map_cons, List.mem_cons, not_or] at h
    rw [insertEntry]
    split
    · exact .refl _
    · rw [if_neg h.1]
      exact ((ih h.2).cons _).trans (.swap _ _ _)

theorem foldl_insert_perm {es : List (String × α)} {m : KeyMap α}
    (h : ((m.entries ++ es).map Prod.fst).Nodup) :
    (es.foldl (fun m e => m.insert e.1 e.2) m).entries.Perm (m.entries ++ es) := by
  induction es generalizing m with
  | nil => exact .of_eq (List.append_nil _).symm
  | cons e es ih =>
    have hnew : e.1 ∉ m.entries.map Prod.fst := by
      rw [List.map_append, List.map_cons] at h
      intro hmem
      exact (List.nodup_append.1 h).2.2 _ hmem _ List.mem_cons_self rfl
    have hinsert : (m.insert e.1 e.2).entries.Perm (m.entries ++ [e]) :=
      (insertEntry_perm hnew).trans (List.perm_append_singleton e m.entries).symm
    have hall : ((m.insert e.1 e.2).entries ++ es).Perm (m.entries ++ e :: es) := by
      rw [List.append_cons]
      exact hinsert.append_right es
    rw [List.foldl_cons]
    exact (ih ((hall.map Prod.fst).nodup_iff.2 h)).trans hall

theorem entries_ofList_perm {es : List (String × α)} (h : (es.map Prod.fst).Nodup) :
    (ofList es).entries.Perm es :=
  foldl_insert_perm (m := empty) h

theorem eq_of_fst_eq (m : KeyMap α) {a b : String × α} (ha : a ∈ m.entries) (hb : b ∈ m.entries)
    (h : a.1 = b.1) : a = b := by
  obtain ⟨k, v⟩ := a
  obtain ⟨k', v'⟩ := b
  dsimp only at h
  subst h
  have hv : m.get? k = some v := get?_eq_some_iff.2 ha
  have hv' : m.get? k = some v' := get?_eq_some_iff.2 hb
  rw [Option.some.inj (hv.symm.trans hv')]

theorem increasing_utf8 (m : KeyMap α) :
    m.entries.Pairwise fun a b => Wire.utf8 a.1 < Wire.utf8 b.1 :=
  m.sorted.imp Wire.utf8_lt_of_lt

end KeyMap

def Enumeration.ofDistinct (es : List (String × α)) (h : (es.map Prod.fst).Nodup) :
    Enumeration (KeyMap.ofList es) :=
  ⟨es, (KeyMap.entries_ofList_perm h).symm⟩

namespace KeySort

/-- Entries in key order, of distinct keys, can be arranged in one way only. -/
theorem sort_eq (k : KeySort α) {m : KeyMap α} (e : Enumeration m) : k.sort e.entries = m.entries := by
  have hperm : (k.sort e.entries).Perm m.entries := (k.perm e.entries).trans e.perm
  have hsorted : m.entries.Pairwise fun a b => ¬Wire.utf8 b.1 < Wire.utf8 a.1 :=
    m.increasing_utf8.imp fun hlt => List.lt_asymm hlt
  apply hperm.eq_of_pairwise _ (k.ordered e.entries) hsorted
  intro a b ha hb hab hba
  rw [Wire.utf8_lt_iff, String.not_lt] at hab hba
  exact m.eq_of_fst_eq (hperm.mem_iff.1 ha) hb (String.le_antisymm hab hba)

def merging : KeySort α where
  sort es := es.mergeSort fun a b => a.1 ≤ b.1
  perm es := List.mergeSort_perm es _
  ordered es := by
    have hsorted : (es.mergeSort fun a b => a.1 ≤ b.1).Pairwise fun a b => decide (a.1 ≤ b.1) = true := by
      apply List.pairwise_mergeSort
      · intro a b c hab hbc
        exact decide_eq_true (String.le_trans (of_decide_eq_true hab) (of_decide_eq_true hbc))
      · intro a b
        rw [Bool.or_eq_true, decide_eq_true_iff, decide_eq_true_iff]
        exact String.le_total a.1 b.1
    apply hsorted.imp
    intro a b hab
    rw [Wire.utf8_lt_iff, String.not_lt]
    exact of_decide_eq_true hab

end KeySort

end QueryWatch
