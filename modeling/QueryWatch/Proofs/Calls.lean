namespace QueryWatch

variable {α β : Type}

/-- Where one member of a list is replaced, its share of what the members have is replaced. -/
theorem flatMap_set_perm (f : α → List β) {l : List α} {k : Nat} {a : α} (b : α)
    (h : l[k]? = some a) : ((l.set k b).flatMap f ++ f a).Perm (l.flatMap f ++ f b) := by
  induction l generalizing k with
  | nil => simp at h
  | cons x rest ih =>
    cases k with
    | zero =>
      simp only [List.getElem?_cons_zero, Option.some.injEq] at h
      subst x
      simp only [List.set_cons_zero, List.flatMap_cons]
      calc f b ++ rest.flatMap f ++ f a
        _ = f b ++ (rest.flatMap f ++ f a) := List.append_assoc ..
        _ |>.Perm (rest.flatMap f ++ f a ++ f b) := List.perm_append_comm
        _ |>.Perm (f a ++ rest.flatMap f ++ f b) := List.perm_append_comm.append_right _
    | succ k =>
      simp only [List.getElem?_cons_succ] at h
      simp only [List.set_cons_succ, List.flatMap_cons, List.append_assoc]
      exact List.Perm.append_left _ (ih h)

theorem flatMap_set_eq (f : α → List β) {l : List α} {k : Nat} {a b : α} (h : l[k]? = some a)
    (hf : f b = f a) : (l.set k b).flatMap f = l.flatMap f := by
  induction l generalizing k with
  | nil => simp at h
  | cons x rest ih =>
    cases k with
    | zero =>
      simp only [List.getElem?_cons_zero, Option.some.injEq] at h
      subst x
      simp only [List.set_cons_zero, List.flatMap_cons, hf]
    | succ k =>
      simp only [List.getElem?_cons_succ] at h
      simp only [List.set_cons_succ, List.flatMap_cons, ih h]

theorem map_set_eq {γ : Type} (f : α → γ) {l : List α} {k : Nat} {a b : α} (h : l[k]? = some a)
    (hf : f b = f a) : (l.set k b).map f = l.map f := by
  obtain ⟨hlt, rfl⟩ := List.getElem?_eq_some_iff.1 h
  rw [List.map_set, hf, ← List.getElem_map f (h := by rwa [List.length_map]), List.set_getElem_self]

theorem mem_set_cases {l : List α} {k : Nat} {a b : α} (h : a ∈ l.set k b) : a = b ∨ a ∈ l :=
  (List.mem_or_eq_of_mem_set h).symm

theorem getElem?_concat_cases {l : List α} {k : Nat} {a b : α} (h : (l ++ [b])[k]? = some a) :
    l[k]? = some a ∨ k = l.length ∧ a = b := by
  rcases Nat.lt_or_ge k l.length with hlt | hge
  · rw [List.getElem?_append_left hlt] at h
    exact .inl h
  · rw [List.getElem?_append_right hge] at h
    obtain ⟨hlt, -⟩ := List.getElem?_eq_some_iff.1 h
    rw [List.length_singleton] at hlt
    exact .inr ⟨by omega, List.mem_singleton.1 (List.mem_of_getElem? h)⟩

theorem map_modify_eq {γ : Type} (f : α → γ) {g : α → α} (hg : ∀ a, f (g a) = f a)
    (l : List α) (k : Nat) : (l.modify k g).map f = l.map f := by
  induction l generalizing k with
  | nil => cases k <;> rfl
  | cons a l ih =>
    cases k with
    | zero => rw [List.modify_zero_cons, List.map_cons, List.map_cons, hg]
    | succ k => rw [List.modify_succ_cons, List.map_cons, List.map_cons, ih]

theorem set_eq_modify (f : α → α) {l : List α} {k : Nat} {a : α} (h : l[k]? = some a) :
    l.set k (f a) = l.modify k f := by
  induction l generalizing k with
  | nil => simp at h
  | cons x rest ih =>
    cases k with
    | zero =>
      simp only [List.getElem?_cons_zero, Option.some.injEq] at h
      subst x
      rfl
    | succ k =>
      simp only [List.getElem?_cons_succ] at h
      rw [List.set_cons_succ, List.modify_succ_cons, ih h]

theorem modify_concat (l : List α) (a : α) (f : α → α) :
    (l ++ [a]).modify l.length f = l ++ [f a] := by
  induction l with
  | nil => rfl
  | cons b l ih => simpa using ih

end QueryWatch
