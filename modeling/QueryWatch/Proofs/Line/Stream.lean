import QueryWatch.Proofs.Line.Series

namespace QueryWatch.Encoding.Line

theorem infix_append_cons {t p q : List Char} {c : Char} (hc : c ∉ t) :
    t <:+: p ++ c :: q ↔ t <:+: p ∨ t <:+: q := by
  constructor
  · rintro ⟨x, y, h⟩
    rw [List.append_assoc] at h
    rcases List.append_eq_append_iff.1 h with ⟨u, rfl, hu⟩ | ⟨u, rfl, hu⟩
    · rcases List.append_eq_append_iff.1 hu with ⟨v, rfl, -⟩ | ⟨v, rfl, hv⟩
      · exact .inl ⟨x, v, List.append_assoc x t v⟩
      · cases v with
        | nil => exact .inl ⟨x, [], by simp⟩
        | cons d v =>
          obtain ⟨rfl, -⟩ := List.cons.inj hv
          exact absurd (List.mem_append_right u List.mem_cons_self) hc
    · cases u with
      | nil =>
        cases t with
        | nil => exact .inr (List.nil_infix)
        | cons d t =>
          obtain ⟨rfl, -⟩ := List.cons.inj hu
          exact absurd List.mem_cons_self hc
      | cons d u =>
        obtain ⟨-, rfl⟩ := List.cons.inj hu
        exact .inr ⟨u, y, List.append_assoc u t y⟩
  · rintro (⟨x, y, rfl⟩ | ⟨x, y, rfl⟩)
    · exact ⟨x, y ++ c :: q, by simp⟩
    · exact ⟨p ++ c :: x, y, by simp⟩

/-- A text that has a terminator in it. -/
def Broken (s : List Char) : Prop :=
  terminator <:+: s

theorem not_broken_of_notMem {s : List Char} (h : '\n' ∉ s) : ¬Broken s := by
  intro hs
  exact h (hs.subset (by decide))

theorem broken_append_cons {p q : List Char} {c : Char} (hc : c ∉ terminator) :
    Broken (p ++ c :: q) ↔ Broken p ∨ Broken q :=
  infix_append_cons hc

theorem broken_cons {q : List Char} {c : Char} (hc : c ∉ terminator) : Broken (c :: q) ↔ Broken q := by
  have hnil : ¬Broken [] := not_broken_of_notMem List.not_mem_nil
  rw [← List.nil_append (c :: q), broken_append_cons hc, or_iff_right hnil]

theorem broken_cons_iff {q : List Char} {c : Char} :
    Broken (c :: q) ↔ (c = '\r' ∧ q.head? = some '\n') ∨ Broken q := by
  have hhead : ['\n'] <+: q ↔ q.head? = some '\n' := by
    cases q with
    | nil => simp
    | cons d q => simp [eq_comm]
  unfold Broken terminator
  rw [List.infix_cons_iff, List.cons_prefix_cons, hhead, eq_comm]

section

variable {special : List Char}

theorem head?_escape (hfeed : '\n' ∉ special) (s : List Char) :
    (escape special s).head? = some '\n' ↔ s.head? = some '\n' := by
  cases s with
  | nil => rfl
  | cons c s =>
    by_cases hc : c ∈ special
    · have hne : c ≠ '\n' := fun heq => hfeed (heq ▸ hc)
      rw [escape_cons_of_mem hc]
      simp [hne]
    · rw [escape_cons_of_notMem hc]
      rfl

theorem broken_escape (hreturn : '\r' ∉ special) (hfeed : '\n' ∉ special) (s : List Char) :
    Broken (escape special s) ↔ Broken s := by
  induction s with
  | nil => rfl
  | cons c s ih =>
    by_cases hc : c ∈ special
    · have hterm : c ∉ terminator := by
        intro hmem
        rcases List.mem_cons.1 hmem with rfl | hmem
        · exact hreturn hc
        · obtain rfl := List.mem_singleton.1 hmem
          exact hfeed hc
      rw [escape_cons_of_mem hc, broken_cons (by decide), broken_cons hterm, broken_cons hterm, ih]
    · rw [escape_cons_of_notMem hc, broken_cons_iff, broken_cons_iff, head?_escape hfeed, ih]

end

theorem broken_key (s : String) : Broken (escape keySpecial s.toList) ↔ Broken s.toList :=
  broken_escape (by decide) (by decide) _

theorem broken_tags (p : List Char) (es : List (String × String)) :
    Broken (p ++ es.flatMap tag) ↔
      Broken p ∨ ∃ e ∈ es, Broken e.1.toList ∨ Broken e.2.toList := by
  induction es generalizing p with
  | nil => simp
  | cons e es ih =>
    rw [List.flatMap_cons, tag_append, broken_append_cons (by decide), broken_append_cons (by decide),
      ih, broken_key, broken_key]
    simp only [List.exists_mem_cons_iff, or_assoc]

theorem broken_fields (t : List Char) (fs : List (String × String)) :
    Broken (fieldsBefore t fs) ↔
      (∃ f ∈ fs, Broken f.1.toList ∨ Broken f.2.toList) ∨ Broken t := by
  induction fs with
  | nil => simp [fieldsBefore]
  | cons f fs ih =>
    rw [fieldsBefore_cons, broken_cons (by decide), broken_append_cons (by decide),
      broken_cons (by decide), broken_append_cons (by decide), ih, broken_key,
      broken_escape (by decide) (by decide)]
    simp only [List.exists_mem_cons_iff, or_assoc]

def texts (m : Measurement) : List String :=
  m.name :: (m.tags.entries ++ m.fields.entries).flatMap fun e => [e.1, e.2]

theorem exists_mem_texts {p : String → Prop} (m : Measurement) :
    (∃ s ∈ texts m, p s) ↔
      p m.name ∨ (∃ e ∈ m.tags.entries, p e.1 ∨ p e.2) ∨ ∃ f ∈ m.fields.entries, p f.1 ∨ p f.2 := by
  have hpair (es : List (String × String)) :
      (∃ s ∈ es.flatMap fun e => [e.1, e.2], p s) ↔ ∃ e ∈ es, p e.1 ∨ p e.2 := by
    induction es with
    | nil => simp
    | cons e es ih =>
      rw [List.flatMap_cons, List.cons_append, List.cons_append, List.exists_mem_cons_iff,
        List.exists_mem_cons_iff, List.nil_append, ih, List.exists_mem_cons_iff, or_assoc]
  rw [texts, List.flatMap_append, List.exists_mem_cons_iff, ← hpair, ← hpair]
  simp only [List.mem_append, or_and_right, exists_or]

theorem broken_series (m : Measurement) :
    Broken (series m) ↔ Broken m.name.toList ∨
      ∃ e ∈ m.tags.entries, Broken e.1.toList ∨ Broken e.2.toList := by
  have hkind : ¬(Broken "type".toList ∨ Broken m.kind.name.toList) := by
    rintro (h | h)
    · exact not_broken_of_notMem (by decide) h
    · refine not_broken_of_notMem ?_ h
      cases m.kind <;> decide
  rw [series_eq, broken_tags, broken_escape (by decide) (by decide), labels]
  simp only [List.mem_append, List.mem_singleton, or_and_right, exists_or, exists_eq_left, hkind,
    or_false]

theorem broken_chars (m : Measurement) : Broken (chars m) ↔ ∃ s ∈ texts m, Broken s.toList := by
  rw [exists_mem_texts (p := fun s => Broken s.toList), ← or_assoc, ← broken_series]
  rcases exists_chars_eq m with ⟨hitems, hline⟩ | ⟨s, hline, hs⟩
  · rw [hline, (empty_of_items_eq_nil hitems).1]
    simp
  · have htail : ¬Broken (tailOf m) := not_broken_of_notMem (notMem_tailOf m (by decide) (by decide))
    have hfields := broken_fields (tailOf m) m.fields.entries
    rw [← hs, broken_cons (by decide), or_iff_left htail] at hfields
    rw [hline, broken_append_cons (by decide), hfields]

def putFront (c : Char) : List (List Char) × List Char → List (List Char) × List Char
  | ([], last) => ([], c :: last)
  | (line :: lines, last) => ((c :: line) :: lines, last)

/-- Cuts a text at its terminators: what is before each of them, and what is behind the last. -/
def cut : List Char → List (List Char) × List Char
  | '\r' :: '\n' :: rest => ([] :: (cut rest).1, (cut rest).2)
  | c :: rest => putFront c (cut rest)
  | [] => ([], [])

def terminated (lines : List (List Char)) : List Char :=
  lines.flatMap (· ++ terminator)

theorem terminated_cons (line : List Char) (lines : List (List Char)) (rest : List Char) :
    terminated (line :: lines) ++ rest = line ++ '\r' :: '\n' :: (terminated lines ++ rest) := by
  simp [terminated, terminator]

theorem terminated_putFront (c : Char) (p : List (List Char) × List Char) :
    terminated (putFront c p).1 ++ (putFront c p).2 = c :: (terminated p.1 ++ p.2) := by
  obtain ⟨lines, last⟩ := p
  cases lines <;> rfl

theorem cut_cons {c : Char} {rest : List Char} (h : ¬(c = '\r' ∧ rest.head? = some '\n')) :
    cut (c :: rest) = putFront c (cut rest) := by
  apply cut.eq_2
  intro rest' hc hrest
  rw [hrest] at h
  exact h ⟨hc, rfl⟩

theorem terminated_cut (s : List Char) : terminated (cut s).1 ++ (cut s).2 = s := by
  fun_induction cut s with
  | case1 rest ih => rw [terminated_cons, ih]; rfl
  | case2 c rest hstart ih => rw [terminated_putFront, ih]
  | case3 => rfl

theorem not_broken_cut (s : List Char) : (∀ l ∈ (cut s).1, ¬Broken l) ∧ ¬Broken (cut s).2 := by
  have hnil : ¬Broken [] := not_broken_of_notMem List.not_mem_nil
  fun_induction cut s with
  | case1 rest ih => exact ⟨List.forall_mem_cons.2 ⟨hnil, ih.1⟩, ih.2⟩
  | case2 c rest hstart ih =>
    have hwhole := terminated_cut rest
    -- The piece that `c` is put in front of is where the rest begins.
    have hfront {l : List Char} (more : List Char) (hl : ¬Broken l) (hrest : l ++ more = rest) :
        ¬Broken (c :: l) := by
      rw [broken_cons_iff]
      rintro (⟨hc, hhead⟩ | h)
      · obtain ⟨r, rfl⟩ := List.head?_eq_some_iff.1 hhead
        exact hstart _ hc hrest.symm
      · exact hl h
    obtain ⟨hlines, hlast⟩ := ih
    cases hcut : cut rest with
    | mk lines last =>
      rw [hcut] at hwhole hlines hlast
      cases lines with
      | nil =>
        refine ⟨hlines, hfront [] hlast ?_⟩
        rw [List.append_nil]
        exact hwhole
      | cons line lines =>
        rw [terminated_cons] at hwhole
        obtain ⟨hline, hmore⟩ := List.forall_mem_cons.1 hlines
        exact ⟨List.forall_mem_cons.2 ⟨hfront _ hline hwhole, hmore⟩, hlast⟩
  | case3 => exact ⟨List.forall_mem_nil _, hnil⟩

theorem cut_of_not_broken {s : List Char} (h : ¬Broken s) : cut s = ([], s) := by
  induction s with
  | nil => rfl
  | cons c s ih =>
    rw [broken_cons_iff, not_or] at h
    rw [cut_cons h.1, ih h.2]
    rfl

theorem cut_append {line : List Char} (h : ¬Broken line) (rest : List Char) :
    cut (line ++ '\r' :: '\n' :: rest) = (line :: (cut rest).1, (cut rest).2) := by
  induction line with
  | nil => rfl
  | cons c line ih =>
    rw [broken_cons_iff, not_or] at h
    have hstart : ¬(c = '\r' ∧ (line ++ '\r' :: '\n' :: rest).head? = some '\n') := by
      cases line with
      | nil => exact fun hboth => absurd (Option.some.inj hboth.2) (by decide)
      | cons d line => exact h.1
    rw [List.cons_append, cut_cons hstart, ih h.2]
    rfl

/-- There is one way to cut a text into pieces without terminators. -/
theorem cut_eq_iff {s last : List Char} {lines : List (List Char)} :
    cut s = (lines, last) ↔
      s = terminated lines ++ last ∧ (∀ l ∈ lines, ¬Broken l) ∧ ¬Broken last := by
  constructor
  · intro h
    have hpieces := terminated_cut s
    have hwhole := not_broken_cut s
    rw [h] at hpieces hwhole
    exact ⟨hpieces.symm, hwhole⟩
  · rintro ⟨rfl, hlines, hlast⟩
    induction lines with
    | nil => exact cut_of_not_broken hlast
    | cons line lines ih =>
      obtain ⟨hline, hlines⟩ := List.forall_mem_cons.1 hlines
      rw [terminated_cons, cut_append hline, ih hlines]

theorem eq_nil_of_terminator {s x y : List Char} (h : ¬Broken s)
    (hs : s ++ terminator = x ++ terminator ++ y) : y = [] := by
  rw [List.append_assoc] at hs
  rcases List.append_eq_append_iff.1 hs with ⟨u, -, hu⟩ | ⟨u, rfl, hu⟩
  · have hlength := congrArg List.length hu
    rw [List.length_append, List.length_append] at hlength
    exact List.length_eq_zero_iff.1 (by omega)
  · match u with
    | [] => exact List.append_right_eq_self.1 hu
    | [c] =>
      obtain ⟨-, hnext⟩ := List.cons.inj hu
      exact absurd (List.cons.inj hnext).1 (by decide)
    | c :: d :: u =>
      obtain ⟨rfl, hnext⟩ := List.cons.inj hu
      obtain ⟨rfl, -⟩ := List.cons.inj hnext
      exact absurd ⟨x, u, List.append_assoc x terminator u⟩ h

theorem not_broken_chars (m : Measurement) :
    ¬Broken (chars m) ↔ ∀ s ∈ texts m, ¬terminator <:+: s.toList := by
  rw [broken_chars]
  simp [Broken]

theorem toList_stream (ms : List Measurement) :
    (String.join (ms.map encodeTerminated)).toList = terminated (ms.map chars) := by
  simp [terminated, encodeTerminated, List.flatMap_map]

/-- A stream of lines is cut into those lines, and a line has no terminator but the one behind it, if and only
if no text of a measurement has one. -/
theorem lines_delimited_iff (ms : List Measurement) (m : Measurement) :
    (cut (String.join (ms.map encodeTerminated)).toList = (ms.map fun m => (encode m).toList, []) ↔
      ∀ m ∈ ms, ∀ s ∈ texts m, ¬terminator <:+: s.toList) ∧
    ((∀ x y, (encodeTerminated m).toList = x ++ terminator ++ y → y = []) ↔
      ∀ s ∈ texts m, ¬terminator <:+: s.toList) := by
  have hencode (m : Measurement) : (encode m).toList = chars m := String.toList_ofList
  have hterminated : (encodeTerminated m).toList = chars m ++ terminator := String.toList_ofList
  have hnil : ¬Broken [] := not_broken_of_notMem List.not_mem_nil
  refine ⟨?_, ?_⟩
  · simp only [hencode, toList_stream, cut_eq_iff, List.append_nil, true_and, hnil, not_false_eq_true,
      and_true, List.forall_mem_map, not_broken_chars]
  · rw [← not_broken_chars, hterminated]
    constructor
    · rintro h ⟨x, y, hxy⟩
      have hend := h x (y ++ terminator) (by rw [← hxy, List.append_assoc])
      obtain ⟨-, hnone⟩ := List.append_eq_nil_iff.1 hend
      cases hnone
    · intro h x y hs
      exact eq_nil_of_terminator h hs

/-- A query that was written on two lines, as some clients end them. -/
def twoLines : Measurement :=
  .complex "slow_query" 1 .milliseconds ∅ (.ofList [("statement", "SELECT *\r\nFROM t")])

/-- The line of one measurement is cut in two, where its text has a terminator of its own. -/
theorem twoLines_cut :
    (∃ x y, (encodeTerminated twoLines).toList = x ++ terminator ++ y ∧ y ≠ []) ∧
      (cut (String.join ([twoLines].map encodeTerminated)).toList).1.length = 2 := by
  refine ⟨⟨"slow_query,type=COMPLEX statement=\"SELECT *".toList, "FROM t\" 1000000\r\n".toList, ?_, ?_⟩, ?_⟩
  · decide +kernel
  · decide
  · decide +kernel

end QueryWatch.Encoding.Line
