namespace QueryWatch

/-- Entries in strictly increasing key order. The order is that of the keys' code points, which is also the
order of their UTF-8 bytes. -/
structure KeyMap (α : Type) where
  entries : List (String × α)
  sorted : entries.Pairwise (fun a b => a.1 < b.1)

namespace KeyMap

variable {α β : Type}

/-- A new key takes its place in the order; a present one keeps its place and changes its value. -/
def insertEntry (key : String) (value : α) : List (String × α) → List (String × α)
  | [] => [(key, value)]
  | (k, v) :: rest =>
    if key < k then (key, value) :: (k, v) :: rest
    else if key = k then (key, value) :: rest
    else (k, v) :: insertEntry key value rest

theorem lt_of_not_lt_of_ne {a b : String} (h : ¬a < b) (hne : a ≠ b) : b < a := by
  apply Classical.byContradiction
  intro hba
  exact hne (String.le_antisymm (String.not_lt.1 hba) (String.not_lt.1 h))

theorem fst_of_mem_insertEntry {key : String} {value : α} {e : String × α}
    {es : List (String × α)} (h : e ∈ insertEntry key value es) : e.1 = key ∨ e ∈ es := by
  induction es with
  | nil => simp_all [insertEntry]
  | cons x rest ih =>
    obtain ⟨k, v⟩ := x
    rw [insertEntry] at h
    split at h
    · rcases List.mem_cons.1 h with rfl | h
      · exact .inl rfl
      · exact .inr h
    · split at h
      · rcases List.mem_cons.1 h with rfl | h
        · exact .inl rfl
        · exact .inr (List.mem_cons_of_mem _ h)
      · rcases List.mem_cons.1 h with rfl | h
        · exact .inr List.mem_cons_self
        · exact (ih h).imp_right (List.mem_cons_of_mem _)

theorem pairwise_insertEntry {key : String} {value : α} {es : List (String × α)}
    (h : es.Pairwise (fun a b => a.1 < b.1)) :
    (insertEntry key value es).Pairwise (fun a b => a.1 < b.1) := by
  induction es with
  | nil => simp [insertEntry]
  | cons x rest ih =>
    obtain ⟨k, v⟩ := x
    obtain ⟨hx, hrest⟩ := List.pairwise_cons.1 h
    rw [insertEntry]
    split
    case isTrue hlt =>
      refine List.pairwise_cons.2 ⟨fun e he => ?_, h⟩
      rcases List.mem_cons.1 he with rfl | he
      · exact hlt
      · exact String.lt_trans hlt (hx e he)
    case isFalse hlt =>
      split
      case isTrue heq =>
        subst heq
        exact List.pairwise_cons.2 ⟨hx, hrest⟩
      case isFalse hne =>
        refine List.pairwise_cons.2 ⟨fun e he => ?_, ih hrest⟩
        rcases fst_of_mem_insertEntry he with he | he
        · exact he ▸ lt_of_not_lt_of_ne hlt hne
        · exact hx e he

def empty : KeyMap α := ⟨[], .nil⟩

instance : EmptyCollection (KeyMap α) := ⟨empty⟩

instance : Inhabited (KeyMap α) := ⟨empty⟩

def insert (m : KeyMap α) (key : String) (value : α) : KeyMap α :=
  ⟨insertEntry key value m.entries, pairwise_insertEntry m.sorted⟩

/-- Of two entries with one key the later one stays. -/
def ofList (es : List (String × α)) : KeyMap α :=
  es.foldl (fun m e => m.insert e.1 e.2) empty

def get? (m : KeyMap α) (key : String) : Option α :=
  m.entries.lookup key

def contains (m : KeyMap α) (key : String) : Bool :=
  (m.get? key).isSome

def isEmpty (m : KeyMap α) : Bool :=
  m.entries.isEmpty

def map (f : α → β) (m : KeyMap α) : KeyMap β :=
  ⟨m.entries.map fun e => (e.1, f e.2), List.pairwise_map.2 m.sorted⟩

theorem lookup_insertEntry_self {key : String} {value : α} {es : List (String × α)} :
    (insertEntry key value es).lookup key = some value := by
  induction es with
  | nil => simp [insertEntry]
  | cons x rest ih =>
    obtain ⟨k, v⟩ := x
    rw [insertEntry]
    split
    · simp
    · split
      · simp
      case isFalse hne => simp [List.lookup_cons, beq_false_of_ne hne, ih]

theorem lookup_insertEntry_of_ne {key other : String} {value : α} {es : List (String × α)}
    (h : other ≠ key) : (insertEntry key value es).lookup other = es.lookup other := by
  induction es with
  | nil => simp [insertEntry, List.lookup_cons, beq_false_of_ne h]
  | cons x rest ih =>
    obtain ⟨k, v⟩ := x
    rw [insertEntry]
    split
    · rw [List.lookup_cons, beq_false_of_ne h]
    · split
      case isTrue heq =>
        subst heq
        simp [List.lookup_cons, beq_false_of_ne h]
      case isFalse => simp only [List.lookup_cons, ih]

theorem lookup_eq_none_of_lt {key : String} {es : List (String × α)} (h : ∀ e ∈ es, key < e.1) :
    es.lookup key = none := by
  rw [List.lookup_eq_none_iff]
  intro e he
  rw [bne_iff_ne]
  rintro rfl
  exact String.lt_irrefl _ (h e he)

@[simp] theorem get?_insert_self (m : KeyMap α) (key : String) (value : α) :
    (m.insert key value).get? key = some value :=
  lookup_insertEntry_self

theorem get?_insert_of_ne (m : KeyMap α) {key other : String} (value : α) (h : other ≠ key) :
    (m.insert key value).get? other = m.get? other :=
  lookup_insertEntry_of_ne h

theorem get?_foldl_insert_of_notMem {es : List (String × α)} {key : String}
    (h : key ∉ es.map Prod.fst) (m : KeyMap α) :
    (es.foldl (fun m e => m.insert e.1 e.2) m).get? key = m.get? key := by
  induction es generalizing m with
  | nil => rfl
  | cons e rest ih =>
    rw [List.map_cons, List.mem_cons, not_or] at h
    rw [List.foldl_cons, ih h.2, get?_insert_of_ne _ _ h.1]

theorem get?_ofList_of_notMem {es : List (String × α)} {key : String} (h : key ∉ es.map Prod.fst) :
    (ofList es).get? key = none :=
  get?_foldl_insert_of_notMem h empty

theorem lookup_map (f : α → β) (key : String) (es : List (String × α)) :
    (es.map fun e => (e.1, f e.2)).lookup key = (es.lookup key).map f := by
  induction es with
  | nil => rfl
  | cons x rest ih =>
    rw [List.map_cons, List.lookup_cons, List.lookup_cons, ih]
    cases key == x.1 <;> rfl

@[simp] theorem get?_map (f : α → β) (m : KeyMap α) (key : String) :
    (m.map f).get? key = (m.get? key).map f :=
  lookup_map f key m.entries

theorem ext {m n : KeyMap α} (h : m.entries = n.entries) : m = n := by
  cases m
  cases n
  cases h
  rfl

theorem insertEntry_last {key : String} {value : α} {es : List (String × α)}
    (h : ∀ e ∈ es, e.1 < key) : insertEntry key value es = es ++ [(key, value)] := by
  induction es with
  | nil => rfl
  | cons x rest ih =>
    obtain ⟨k, v⟩ := x
    have hlt : k < key := h (k, v) List.mem_cons_self
    have hnot : ¬key < k := fun hgt => String.lt_irrefl _ (String.lt_trans hlt hgt)
    have hne : key ≠ k := fun heq => String.lt_irrefl k (heq ▸ hlt)
    rw [insertEntry, if_neg hnot, if_neg hne, ih fun e he => h e (List.mem_cons_of_mem _ he)]
    rfl

theorem entries_foldl_insert {es : List (String × α)} {m : KeyMap α}
    (h : (m.entries ++ es).Pairwise (fun a b => a.1 < b.1)) :
    (es.foldl (fun m e => m.insert e.1 e.2) m).entries = m.entries ++ es := by
  induction es generalizing m with
  | nil => exact (List.append_nil _).symm
  | cons e es ih =>
    have hlast : (m.insert e.1 e.2).entries = m.entries ++ [e] :=
      insertEntry_last fun x hx => (List.pairwise_append.1 h).2.2 x hx e List.mem_cons_self
    rw [List.foldl_cons, ih, hlast, List.append_assoc, List.singleton_append]
    rwa [hlast, List.append_assoc, List.singleton_append]

@[simp] theorem ofList_entries (m : KeyMap α) : ofList m.entries = m :=
  ext (entries_foldl_insert (m := empty) m.sorted)

end KeyMap

abbrev Labels := KeyMap String

end QueryWatch
