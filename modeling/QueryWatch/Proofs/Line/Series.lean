import QueryWatch.Proofs.Line.Fields

namespace QueryWatch.Encoding.Line

def BlanksEscaped (s : List Char) : Prop :=
  ∀ x y, s = x ++ ' ' :: y → x.getLast? = some '\\'

theorem blanksEscaped_of_notMem {s : List Char} (h : ' ' ∉ s) : BlanksEscaped s := by
  intro x y hs
  rw [hs] at h
  exact absurd (List.mem_append_right x List.mem_cons_self) h

theorem BlanksEscaped.append {s t : List Char} (hs : BlanksEscaped s) (ht : BlanksEscaped t) :
    BlanksEscaped (s ++ t) := by
  intro x y h
  rcases List.append_eq_append_iff.1 h with ⟨z, rfl, hz⟩ | ⟨z, hx, hz⟩
  · rw [List.getLast?_append, ht z y hz]
    rfl
  · cases z with
    | nil =>
      have hlast := ht [] y hz.symm
      cases hlast
    | cons c z =>
      obtain ⟨rfl, -⟩ := List.cons.inj hz
      exact hs x z hx

theorem blanksEscaped_escape {special : List Char} (h : ' ' ∈ special) (s : List Char) :
    BlanksEscaped (escape special s) := by
  intro x y hs
  exact getLast_eq_backslash h (by decide) hs

theorem blanksEscaped_tag (e : String × String) : BlanksEscaped (tag e) := by
  have hspecial : ' ' ∈ keySpecial := by decide
  have hkey := blanksEscaped_escape hspecial e.1.toList
  have hvalue := blanksEscaped_escape hspecial e.2.toList
  have hcomma : BlanksEscaped [','] := blanksEscaped_of_notMem (by decide)
  have hequals : BlanksEscaped ['='] := blanksEscaped_of_notMem (by decide)
  exact hcomma.append (hkey.append (hequals.append hvalue))

theorem blanksEscaped_tags (es : List (String × String)) : BlanksEscaped (es.flatMap tag) := by
  induction es with
  | nil => exact blanksEscaped_of_notMem List.not_mem_nil
  | cons e es ih => exact (blanksEscaped_tag e).append ih

/-- The tags of a line: those of the measurement, and the kind as the last of them. -/
def labels (m : Measurement) : List (String × String) :=
  m.tags.entries ++ [("type", m.kind.name)]

theorem series_eq (m : Measurement) :
    series m = escape nameSpecial m.name.toList ++ (labels m).flatMap tag := by
  have htype : tag ("type", m.kind.name) = ",type=".toList ++ m.kind.name.toList := by
    cases m.kind <;> decide
  rw [series, labels, List.flatMap_append, List.flatMap_singleton, htype, List.append_assoc,
    List.append_assoc]

theorem blanksEscaped_series (m : Measurement) : BlanksEscaped (series m) := by
  rw [series_eq]
  exact (blanksEscaped_escape (by decide) _).append (blanksEscaped_tags _)

theorem getLast?_series (m : Measurement) :
    (series m).getLast? = m.kind.name.toList.getLast? := by
  rw [series, List.getLast?_append]
  cases m.kind <;> rfl

theorem kind_eq_of_series_eq {m n : Measurement} (h : series m = series n) : m.kind = n.kind := by
  have hlast := congrArg List.getLast? h
  rw [getLast?_series, getLast?_series] at hlast
  cases hm : m.kind <;> cases hn : n.kind <;> rw [hm, hn] at hlast
  · exact absurd hlast (by decide)
  · exact absurd hlast (by decide)

theorem series_ne_append_blank (m n : Measurement) (s : List Char) :
    series n ≠ series m ++ ' ' :: s := by
  intro h
  have hlast := blanksEscaped_series n _ _ h
  rw [getLast?_series] at hlast
  cases hm : m.kind <;> rw [hm] at hlast <;> exact absurd hlast (by decide)

theorem series_blank_inj {m n : Measurement} {s t : List Char}
    (h : series m ++ ' ' :: s = series n ++ ' ' :: t) : series m = series n ∧ s = t := by
  rcases List.append_eq_append_iff.1 h with ⟨z, hseries, hz⟩ | ⟨z, hseries, hz⟩
  · cases z with
    | nil => exact ⟨(hseries.trans (List.append_nil _)).symm, (List.cons.inj hz).2⟩
    | cons c z =>
      obtain ⟨rfl, -⟩ := List.cons.inj hz
      exact absurd hseries (series_ne_append_blank m n z)
  · cases z with
    | nil => exact ⟨hseries.trans (List.append_nil _), (List.cons.inj hz).2.symm⟩
    | cons c z =>
      obtain ⟨rfl, -⟩ := List.cons.inj hz
      exact absurd hseries (series_ne_append_blank n m z)

/-- What two measurements have in common that have one line. -/
structure OneLine (m n : Measurement) : Prop where
  series : series m = series n
  kind : m.kind = n.kind
  fields : m.fields = n.fields
  value : m.value.map Decimal.fractional = n.value.map Decimal.fractional
  time : hasFields m = true → m.timeNanos = n.timeNanos

theorem oneLine_of_encode_eq {m n : Measurement} (h : encode m = encode n) : OneLine m n := by
  have hchars : chars m = chars n := String.ofList_injective h
  rcases exists_chars_eq m with ⟨hm, hmline⟩ | ⟨s, hmline, hs⟩ <;>
    rcases exists_chars_eq n with ⟨hn, hnline⟩ | ⟨t, hnline, ht⟩ <;>
    rw [hmline, hnline] at hchars
  · obtain ⟨hmfields, hmvalue⟩ := empty_of_items_eq_nil hm
    obtain ⟨hnfields, hnvalue⟩ := empty_of_items_eq_nil hn
    have hnone : hasFields m = false := by
      simp [hasFields, Measurement.kind, hmvalue, KeyMap.isEmpty, hmfields]
    refine ⟨hchars, kind_eq_of_series_eq hchars, KeyMap.ext (hmfields.trans hnfields.symm), ?_, ?_⟩
    · rw [hmvalue, hnvalue]
    · intro hf
      rw [hnone] at hf
      cases hf
  · exact absurd hchars (series_ne_append_blank n m t)
  · exact absurd hchars.symm (series_ne_append_blank m n s)
  · obtain ⟨hseries, rfl⟩ := series_blank_inj hchars
    have hkind := kind_eq_of_series_eq hseries
    obtain ⟨hfields, htail⟩ :=
      fieldsBefore_inj (isTail_tailOf m) (isTail_tailOf n) (hs.symm.trans ht)
    obtain ⟨hvalue, htime⟩ := tailOf_inj hkind htail
    exact ⟨hseries, hkind, KeyMap.ext hfields, hvalue, fun _ => htime⟩

theorem labels_inj {m n : Measurement} (h : labels m = labels n) : m.tags = n.tags :=
  KeyMap.ext (List.append_inj_left' h rfl)

theorem head?_tags (es : List (String × String)) :
    ∀ c ∈ (es.flatMap tag).head?, c ∈ keySpecial := by
  intro c hc
  cases es with
  | nil => cases hc
  | cons e es =>
    obtain rfl : ',' = c := Option.some.inj hc
    decide

theorem head?_labels (m : Measurement) :
    ∀ c ∈ ((labels m).flatMap tag).head?, c ∈ nameSpecial := by
  intro c hc
  have hcomma : ((labels m).flatMap tag).head? = some ',' := by
    rw [labels]
    cases m.tags.entries <;> rfl
  rw [hcomma] at hc
  obtain rfl : ',' = c := Option.some.inj hc
  decide

theorem tag_append (e : String × String) (s : List Char) :
    tag e ++ s = ',' :: (escape keySpecial e.1.toList ++ '=' :: (escape keySpecial e.2.toList ++ s)) := by
  simp [tag]

def IsOpen (s : String) : Prop :=
  s.toList.getLast? ≠ some '\\'

instance (s : String) : Decidable (IsOpen s) :=
  inferInstanceAs (Decidable (_ ≠ _))

/-- Neither the name nor a tag ends in a backslash. -/
structure SeriesOpen (m : Measurement) : Prop where
  name : IsOpen m.name
  tags : ∀ e ∈ m.tags.entries, IsOpen e.1 ∧ IsOpen e.2

theorem SeriesOpen.labels {m : Measurement} (h : SeriesOpen m) :
    ∀ e ∈ labels m, IsOpen e.1 ∧ IsOpen e.2 := by
  intro e he
  rcases List.mem_append.1 he with he | he
  · exact h.tags e he
  · rw [List.mem_singleton.1 he]
    cases m.kind <;> decide

theorem tags_inj {es fs : List (String × String)} (hes : ∀ e ∈ es, IsOpen e.1 ∧ IsOpen e.2)
    (hfs : ∀ f ∈ fs, IsOpen f.1 ∧ IsOpen f.2) (h : es.flatMap tag = fs.flatMap tag) : es = fs := by
  induction es generalizing fs with
  | nil =>
    cases fs with
    | nil => rfl
    | cons f fs => cases h
  | cons e es ih =>
    cases fs with
    | nil => cases h
    | cons f fs =>
      obtain ⟨hkey, hvalue⟩ := hes e List.mem_cons_self
      obtain ⟨hkey', hvalue'⟩ := hfs f List.mem_cons_self
      rw [List.flatMap_cons, List.flatMap_cons, tag_append, tag_append] at h
      have hequals {s : List Char} : ∀ c ∈ ('=' :: s).head?, c ∈ keySpecial := by
        intro c hc
        obtain rfl : '=' = c := Option.some.inj hc
        decide
      obtain ⟨hk, hrest⟩ := escape_append_inj backslash_notMem_key hkey hkey' hequals hequals
        (List.cons.inj h).2
      obtain ⟨hv, hmore⟩ := escape_append_inj backslash_notMem_key hvalue hvalue' (head?_tags es)
        (head?_tags fs) (List.cons.inj hrest).2
      have htags := ih (fun e he => hes e (List.mem_cons_of_mem _ he))
        (fun f hf => hfs f (List.mem_cons_of_mem _ hf)) hmore
      rw [htags, Prod.ext (String.toList_inj.1 hk) (String.toList_inj.1 hv)]

/-- A line tells the name and the tags of a measurement, unless one of them ends in a backslash. What it tells
in any case is the series as it is written, and all else. -/
theorem series_told_apart {m n : Measurement} (h : encode m = encode n) :
    OneLine m n ∧ (SeriesOpen m → SeriesOpen n → m.name = n.name ∧ m.tags = n.tags) := by
  have hone := oneLine_of_encode_eq h
  refine ⟨hone, fun hm hn => ?_⟩
  have hseries := hone.series
  rw [series_eq, series_eq] at hseries
  obtain ⟨hname, htags⟩ := escape_append_inj (by decide) hm.name hn.name (head?_labels m)
    (head?_labels n) hseries
  exact ⟨String.toList_inj.1 hname, labels_inj (tags_inj hm.labels hn.labels htags)⟩

/-- Two measurements of one line, with everything in them that is told apart. -/
def inMinutes : Measurement :=
  .complex "a\\, b" 1 .minutes (.ofList [("=k\\,", " "), ("", "\\=")]) ∅

def inHours : Measurement :=
  .complex "a\\, b" 2 .hours (.ofList [("", "\\="), ("=k\\,", " ")]) ∅

theorem series_told_apart_odd :
    encode inMinutes = encode inHours ∧ SeriesOpen inMinutes ∧ SeriesOpen inHours ∧
      inMinutes.name = inHours.name ∧ inMinutes.tags = inHours.tags := by
  have hline : encode inMinutes = encode inHours := by decide +kernel
  have hopen : SeriesOpen inMinutes := ⟨by decide, by decide⟩
  have hopen' : SeriesOpen inHours := ⟨by decide, by decide⟩
  exact ⟨hline, hopen, hopen', (series_told_apart hline).2 hopen hopen'⟩

/-- The name takes the comma behind it for its own. -/
def tagBehindName : Measurement :=
  .complex "a\\" 0 .milliseconds (.ofList [("t", "v")]) ∅

def tagInName : Measurement :=
  .complex "a,t=v" 0 .milliseconds ∅ ∅

def equalsInValue : Measurement :=
  .complex "a" 0 .milliseconds (.ofList [("k\\", "v=w")]) ∅

def equalsInKey : Measurement :=
  .complex "a" 0 .milliseconds (.ofList [("k=v\\", "w")]) ∅

def commaInKey : Measurement :=
  .complex "a" 0 .milliseconds (.ofList [("k", "v\\"), ("l,m", "w")]) ∅

def commaInValue : Measurement :=
  .complex "a" 0 .milliseconds (.ofList [("k", "v,l\\"), ("m", "w")]) ∅

/-- A backslash at the end of a name, of keys or of values is enough for one line of two series. -/
theorem series_confused :
    (encode tagBehindName = encode tagInName ∧ tagBehindName.name ≠ tagInName.name ∧
      tagBehindName.tags ≠ tagInName.tags) ∧
    (encode equalsInValue = encode equalsInKey ∧ equalsInValue.tags ≠ equalsInKey.tags) ∧
    (encode commaInKey = encode commaInValue ∧ commaInKey.tags ≠ commaInValue.tags) := by
  refine ⟨⟨by decide +kernel, by decide, ?_⟩, ⟨by decide +kernel, ?_⟩, ⟨by decide +kernel, ?_⟩⟩
  · intro h
    exact absurd (congrArg KeyMap.entries h) (by decide)
  · intro h
    exact absurd (congrArg KeyMap.entries h) (by decide)
  · intro h
    exact absurd (congrArg KeyMap.entries h) (by decide)

theorem mem_of_mem_escape {special : List Char} {s : List Char} {c : Char}
    (h : c ∈ escape special s) : c = '\\' ∨ c ∈ s := by
  induction s with
  | nil => exact .inr h
  | cons d s ih =>
    by_cases hd : d ∈ special
    · rw [escape_cons_of_mem hd] at h
      rcases List.mem_cons.1 h with rfl | h
      · exact .inl rfl
      · rcases List.mem_cons.1 h with rfl | h
        · exact .inr List.mem_cons_self
        · exact (ih h).imp_right (List.mem_cons_of_mem d)
    · rw [escape_cons_of_notMem hd] at h
      rcases List.mem_cons.1 h with rfl | h
      · exact .inr List.mem_cons_self
      · exact (ih h).imp_right (List.mem_cons_of_mem d)

/-- A key that shows where it begins and where it ends. -/
def IsPlainKey (key : String) : Prop :=
  ',' ∉ key.toList ∧ IsOpen key

instance (key : String) : Decidable (IsPlainKey key) :=
  inferInstanceAs (Decidable (_ ∧ _))

/-- What a backslash at the end of a value makes of the comma behind it would have to go on to an equals sign
that has no backslash. -/
theorem eq_nil_of_value_append {key : String} (hkey : IsPlainKey key) {v w x y z : List Char}
    (hw : escape keySpecial w = escape keySpecial v ++ z)
    (hz : ',' :: (escape keySpecial key.toList ++ '=' :: x) =
      z ++ ',' :: (escape keySpecial key.toList ++ '=' :: y)) : z = [] := by
  obtain ⟨hcomma, hopen⟩ := hkey
  cases z with
  | nil => rfl
  | cons c z =>
    obtain ⟨rfl, hrest⟩ := List.cons.inj hz
    rcases List.append_eq_append_iff.1 hrest with ⟨u, rfl, hu⟩ | ⟨u, hkey, hu⟩
    · cases u with
      | nil => exact absurd (List.cons.inj hu).1 (by decide)
      | cons d u =>
        -- The value goes on over the key and its equals sign.
        obtain ⟨rfl, -⟩ := List.cons.inj hu
        rw [List.append_cons, ← List.append_assoc] at hw
        have hlast := getLast_eq_backslash (by decide) (by decide) hw
        rw [List.getLast?_append, getLast?_escape] at hlast
        cases hend : key.toList.getLast? with
        | none =>
          rw [hend, List.getLast?_concat] at hlast
          exact absurd hlast (by decide)
        | some d =>
          rw [hend] at hlast
          exact absurd (hend.trans hlast) hopen
    · cases u with
      | nil => exact absurd (List.cons.inj hu).1 (by decide)
      | cons d u =>
        -- The value ends within the key, at a comma.
        obtain ⟨rfl, -⟩ := List.cons.inj hu
        have hmem : ',' ∈ escape keySpecial key.toList := by
          rw [hkey]
          exact List.mem_append_right z List.mem_cons_self
        rcases mem_of_mem_escape hmem with h | h
        · exact absurd h (by decide)
        · exact absurd h hcomma

theorem value_append_inj {key : String} (hkey : IsPlainKey key) {v w x y : List Char}
    (h : escape keySpecial v ++ ',' :: (escape keySpecial key.toList ++ '=' :: x) =
      escape keySpecial w ++ ',' :: (escape keySpecial key.toList ++ '=' :: y)) : v = w ∧ x = y := by
  have hvalue : escape keySpecial v = escape keySpecial w := by
    rcases List.append_eq_append_iff.1 h with ⟨z, hw, hz⟩ | ⟨z, hv, hz⟩
    · obtain rfl := eq_nil_of_value_append hkey hw hz
      rw [hw, List.append_nil]
    · obtain rfl := eq_nil_of_value_append hkey hv hz
      rw [hv, List.append_nil]
  rw [hvalue] at h
  have hrest := List.append_cancel_left (List.cons.inj (List.append_cancel_left h)).2
  exact ⟨escape_injective backslash_notMem_key hvalue, (List.cons.inj hrest).2⟩

theorem tags_inj_of_keys {es fs : List (String × String)} (hkeys : es.map Prod.fst = fs.map Prod.fst)
    (hplain : ∀ e ∈ es, IsPlainKey e.1) (h : es.flatMap tag = fs.flatMap tag) : es = fs := by
  induction es generalizing fs with
  | nil =>
    cases fs with
    | nil => rfl
    | cons f fs => cases hkeys
  | cons e es ih =>
    cases fs with
    | nil => cases hkeys
    | cons f fs =>
      obtain ⟨hkey, hmore⟩ := List.cons.inj hkeys
      have hvalues : escape keySpecial e.2.toList ++ es.flatMap tag =
          escape keySpecial f.2.toList ++ fs.flatMap tag := by
        rw [List.flatMap_cons, List.flatMap_cons, tag_append, tag_append, hkey] at h
        exact (List.cons.inj (List.append_cancel_left (List.cons.inj h).2)).2
      have htail : es.flatMap tag = fs.flatMap tag → e :: es = f :: fs := by
        intro htags
        obtain rfl := ih hmore (fun e he => hplain e (List.mem_cons_of_mem _ he)) htags
        have hvalue := escape_injective backslash_notMem_key (List.append_cancel_right hvalues)
        rw [Prod.ext hkey (String.toList_inj.1 hvalue)]
      apply htail
      cases es with
      | nil =>
        obtain rfl := List.map_eq_nil_iff.1 hmore.symm
        rfl
      | cons e' es =>
        cases fs with
        | nil => cases hmore
        | cons f' fs =>
          have hnext : e'.1 = f'.1 := (List.cons.inj hmore).1
          simp only [List.flatMap_cons, tag_append, hnext] at hvalues ⊢
          have hplain' := hplain e' (List.mem_cons_of_mem _ List.mem_cons_self)
          rw [hnext] at hplain'
          rw [(value_append_inj hplain' hvalues).2]

end QueryWatch.Encoding.Line
