import QueryWatch.Encoding.Line

namespace QueryWatch.Encoding.Line

section

variable {special : List Char}

@[simp] theorem escape_nil : escape special [] = [] :=
  rfl

theorem escape_cons_of_mem {c : Char} (h : c ∈ special) (s : List Char) :
    escape special (c :: s) = '\\' :: c :: escape special s := by
  rw [escape, List.flatMap_cons, if_pos h]
  rfl

theorem escape_cons_of_notMem {c : Char} (h : c ∉ special) (s : List Char) :
    escape special (c :: s) = c :: escape special s := by
  rw [escape, List.flatMap_cons, if_neg h]
  rfl

theorem getLast?_escape (s : List Char) : (escape special s).getLast? = s.getLast? := by
  induction s with
  | nil => rfl
  | cons c s ih =>
    by_cases hc : c ∈ special
    · rw [escape_cons_of_mem hc, List.getLast?_cons_cons, List.getLast?_cons, List.getLast?_cons, ih]
    · rw [escape_cons_of_notMem hc, List.getLast?_cons, List.getLast?_cons, ih]

theorem getLast_eq_backslash {s x y : List Char} {c : Char} (hc : c ∈ special) (hne : c ≠ '\\')
    (h : escape special s = x ++ c :: y) : x.getLast? = some '\\' := by
  induction s generalizing x with
  | nil =>
    rw [escape_nil] at h
    exact absurd h.symm (by simp)
  | cons d s ih =>
    by_cases hd : d ∈ special
    · rw [escape_cons_of_mem hd] at h
      match x with
      | [] => exact absurd (List.cons.inj h).1.symm hne
      | [e] =>
        obtain ⟨rfl, -⟩ := List.cons.inj h
        rfl
      | e :: e' :: x =>
        have hlast := ih (List.cons.inj (List.cons.inj h).2).2
        rw [List.getLast?_cons_cons, List.getLast?_cons, hlast]
        rfl
    · rw [escape_cons_of_notMem hd] at h
      match x with
      | [] =>
        rw [(List.cons.inj h).1] at hd
        exact absurd hc hd
      | e :: x =>
        have hlast := ih (List.cons.inj h).2
        rw [List.getLast?_cons, hlast]
        rfl

end

section

variable {special : List Char}

theorem notMem_of_escape_eq_cons (hplain : '\\' ∉ special) {s t : List Char} {c : Char}
    (h : escape special s = c :: t) : c ∉ special := by
  cases s with
  | nil => cases h
  | cons d s =>
    by_cases hd : d ∈ special
    · rw [escape_cons_of_mem hd] at h
      rw [← (List.cons.inj h).1]
      exact hplain
    · rw [escape_cons_of_notMem hd] at h
      rw [← (List.cons.inj h).1]
      exact hd

theorem escape_injective (hplain : '\\' ∉ special) {s t : List Char}
    (h : escape special s = escape special t) : s = t := by
  induction s generalizing t with
  | nil =>
    cases t with
    | nil => rfl
    | cons d t => by_cases hd : d ∈ special <;> simp [escape, hd] at h
  | cons c s ih =>
    cases t with
    | nil => by_cases hc : c ∈ special <;> simp [escape, hc] at h
    | cons d t =>
      by_cases hc : c ∈ special <;> by_cases hd : d ∈ special
      · rw [escape_cons_of_mem hc, escape_cons_of_mem hd] at h
        obtain ⟨rfl, htail⟩ := List.cons.inj (List.cons.inj h).2
        rw [ih htail]
      · -- The backslash that belongs to `c` would be the character `d` itself.
        rw [escape_cons_of_mem hc, escape_cons_of_notMem hd] at h
        exact absurd hc (notMem_of_escape_eq_cons hplain (List.cons.inj h).2.symm)
      · rw [escape_cons_of_notMem hc, escape_cons_of_mem hd] at h
        exact absurd hd (notMem_of_escape_eq_cons hplain (List.cons.inj h).2)
      · rw [escape_cons_of_notMem hc, escape_cons_of_notMem hd] at h
        obtain ⟨rfl, htail⟩ := List.cons.inj h
        rw [ih htail]

/-- Texts that do not end in a backslash are told from what special characters set off behind them. -/
theorem escape_append_inj (hplain : '\\' ∉ special) {s t x y : List Char}
    (hs : s.getLast? ≠ some '\\') (ht : t.getLast? ≠ some '\\')
    (hx : ∀ c ∈ x.head?, c ∈ special) (hy : ∀ c ∈ y.head?, c ∈ special)
    (h : escape special s ++ x = escape special t ++ y) : s = t ∧ x = y := by
  -- A text that went on beyond the other one would have the first character behind it escaped.
  have hlonger {s t x y z : List Char} (hs : s.getLast? ≠ some '\\')
      (hx : ∀ c ∈ x.head?, c ∈ special) (ht : escape special t = escape special s ++ z)
      (hz : x = z ++ y) : z = [] := by
    cases z with
    | nil => rfl
    | cons c z =>
      have hc : c ∈ special := hx c (by rw [hz]; rfl)
      have hlast := getLast_eq_backslash hc (fun heq => hplain (heq ▸ hc)) ht
      rw [getLast?_escape] at hlast
      exact absurd hlast hs
  rcases List.append_eq_append_iff.1 h with ⟨z, hst, hz⟩ | ⟨z, hst, hz⟩
  · obtain rfl := hlonger hs hx hst hz
    rw [List.append_nil] at hst
    exact ⟨(escape_injective hplain hst).symm, hz⟩
  · obtain rfl := hlonger ht hy hst hz
    rw [List.append_nil] at hst
    exact ⟨escape_injective hplain hst, hz.symm⟩

theorem exists_escape_of_append {s x y : List Char} {c : Char} (hc : c ∉ special) (hne : c ≠ '\\')
    (h : escape special s = x ++ c :: y) : ∃ s', y = escape special s' := by
  induction s generalizing x with
  | nil =>
    rw [escape_nil] at h
    exact absurd h.symm (by simp)
  | cons d s ih =>
    by_cases hd : d ∈ special
    · rw [escape_cons_of_mem hd] at h
      match x with
      | [] => exact absurd (List.cons.inj h).1.symm hne
      | [e] =>
        obtain ⟨rfl, -⟩ := List.cons.inj (List.cons.inj h).2
        exact absurd hd hc
      | e :: e' :: x => exact ih (List.cons.inj (List.cons.inj h).2).2
    · rw [escape_cons_of_notMem hd] at h
      match x with
      | [] => exact ⟨s, (List.cons.inj h).2.symm⟩
      | e :: x => exact ih (List.cons.inj h).2

end

theorem backslash_special : '\\' ∈ quotedSpecial := by
  decide

theorem quote_special : '"' ∈ quotedSpecial := by
  decide

/-- The closing quote is the first that is not escaped. -/
theorem quoted_append_inj {s t x y : List Char}
    (h : escape quotedSpecial s ++ '"' :: x = escape quotedSpecial t ++ '"' :: y) :
    s = t ∧ x = y := by
  induction s generalizing t with
  | nil =>
    cases t with
    | nil => exact ⟨rfl, (List.cons.inj h).2⟩
    | cons d t =>
      by_cases hd : d ∈ quotedSpecial
      · rw [escape_cons_of_mem hd] at h
        exact absurd (List.cons.inj h).1 (by decide)
      · rw [escape_cons_of_notMem hd] at h
        rw [← (List.cons.inj h).1] at hd
        exact absurd quote_special hd
  | cons c s ih =>
    cases t with
    | nil =>
      by_cases hc : c ∈ quotedSpecial
      · rw [escape_cons_of_mem hc] at h
        exact absurd (List.cons.inj h).1 (by decide)
      · rw [escape_cons_of_notMem hc] at h
        rw [(List.cons.inj h).1] at hc
        exact absurd quote_special hc
    | cons d t =>
      by_cases hc : c ∈ quotedSpecial <;> by_cases hd : d ∈ quotedSpecial
      · rw [escape_cons_of_mem hc, escape_cons_of_mem hd] at h
        obtain ⟨rfl, htail⟩ := List.cons.inj (List.cons.inj h).2
        obtain ⟨rfl, rfl⟩ := ih htail
        exact ⟨rfl, rfl⟩
      · rw [escape_cons_of_mem hc, escape_cons_of_notMem hd] at h
        rw [← (List.cons.inj h).1] at hd
        exact absurd backslash_special hd
      · rw [escape_cons_of_notMem hc, escape_cons_of_mem hd] at h
        rw [(List.cons.inj h).1] at hc
        exact absurd backslash_special hc
      · rw [escape_cons_of_notMem hc, escape_cons_of_notMem hd] at h
        obtain ⟨rfl, htail⟩ := List.cons.inj h
        obtain ⟨rfl, rfl⟩ := ih htail
        exact ⟨rfl, rfl⟩

end QueryWatch.Encoding.Line
