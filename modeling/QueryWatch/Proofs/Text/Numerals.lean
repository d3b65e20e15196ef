import QueryWatch.Decimal.Layout

namespace QueryWatch.Text.Digits

theorem isDigit_digit_all : ∀ d, d < 10 → (digit d).isDigit = true := by
  decide

theorem digit_injective_all : ∀ d, d < 10 → ∀ d', d' < 10 → digit d = digit d' → d = d' := by
  decide

theorem isDigit_of_mem_decimal {n : Nat} {c : Char} (h : c ∈ decimal n) : c.isDigit = true := by
  induction n using decimal.induct with
  | case1 n hn =>
    rw [decimal, if_pos hn] at h
    rw [List.mem_singleton.1 h]
    exact isDigit_digit_all n hn
  | case2 n hn ih =>
    rw [decimal, if_neg hn] at h
    rcases List.mem_append.1 h with h | h
    · exact ih h
    · rw [List.mem_singleton.1 h]
      exact isDigit_digit_all _ (Nat.mod_lt n (by decide))

theorem decimal_ne_nil (n : Nat) : decimal n ≠ [] := by
  rw [decimal]
  split
  · exact List.cons_ne_nil _ _
  · exact List.append_ne_nil_of_right_ne_nil _ (List.cons_ne_nil _ _)

theorem singleton_ne_decimal {n : Nat} (h : ¬n < 10) (c : Char) : [c] ≠ decimal n := by
  intro heq
  rw [decimal, if_neg h] at heq
  have hlen := congrArg List.length heq
  have hpos := List.length_pos_iff.2 (decimal_ne_nil (n / 10))
  rw [List.length_append, List.length_singleton, List.length_singleton] at hlen
  omega

theorem decimal_injective {m n : Nat} (h : decimal m = decimal n) : m = n := by
  induction m using decimal.induct generalizing n with
  | case1 m hm =>
    rw [decimal, if_pos hm] at h
    by_cases hn : n < 10
    · rw [decimal, if_pos hn] at h
      exact digit_injective_all m hm n hn (List.cons.inj h).1
    · exact (singleton_ne_decimal hn _ h).elim
  | case2 m hm ih =>
    by_cases hn : n < 10
    · rw [decimal.eq_def n, if_pos hn] at h
      exact (singleton_ne_decimal hm _ h.symm).elim
    · rw [decimal.eq_def m, decimal.eq_def n, if_neg hm, if_neg hn] at h
      obtain ⟨hinit, hlast⟩ := List.append_inj' h rfl
      have hdiv := ih hinit
      have hmod := digit_injective_all _ (Nat.mod_lt m (by decide)) _ (Nat.mod_lt n (by decide))
        (List.cons.inj hlast).1
      omega

theorem accumulate_append (base acc : Nat) (s rest : List Char) :
    accumulate base acc (s ++ rest) = (accumulate base acc s).bind (accumulate base · rest) := by
  induction s generalizing acc with
  | nil => rfl
  | cons c s ih =>
    rw [List.cons_append, accumulate, accumulate]
    cases value? base c with
    | none => rfl
    | some d => exact ih _

theorem value?_digit_all : ∀ d, d < 10 → value? 10 (digit d) = some d := by
  decide

theorem accumulate_decimal (n : Nat) : accumulate 10 0 (decimal n) = some n := by
  have hdigit (acc d : Nat) (hd : d < 10) : accumulate 10 acc [digit d] = some (acc * 10 + d) := by
    simp only [accumulate, value?_digit_all d hd]
  induction n using decimal.induct with
  | case1 n hn => rw [decimal, if_pos hn, hdigit 0 n hn, Nat.zero_mul, Nat.zero_add]
  | case2 n hn ih =>
    rw [decimal, if_neg hn, accumulate_append, ih, Option.bind_some,
      hdigit _ _ (Nat.mod_lt n (by decide)), Nat.mul_comm, Nat.div_add_mod]

theorem natural?_decimal (n : Nat) : natural? 10 (decimal n) = some n := by
  have hread := accumulate_decimal n
  unfold natural?
  split
  · next hnil => exact absurd hnil (decimal_ne_nil n)
  · exact hread

/-- The characters of numbers and of what stands for no number. -/
def isNumeral (c : Char) : Bool :=
  c.isAlphanum || c == '-' || c == '.' || c == '+'

theorem isNumeral_of_isDigit {c : Char} (h : c.isDigit = true) : isNumeral c = true := by
  simp [isNumeral, Char.isAlphanum, h]

theorem isNumeral_of_mem_decimal {n : Nat} {c : Char} (h : c ∈ decimal n) : isNumeral c = true :=
  isNumeral_of_isDigit (isDigit_of_mem_decimal h)

theorem isNumeral_of_mem_integer {n : Int} {c : Char} (h : c ∈ integer n) : isNumeral c = true := by
  unfold integer at h
  split at h
  · rcases List.mem_cons.1 h with rfl | h
    · rfl
    · exact isNumeral_of_mem_decimal h
  · exact isNumeral_of_mem_decimal h

theorem integer_injective {m n : Int} (h : integer m = integer n) : m = n := by
  have hsign (k : Nat) (s : List Char) : decimal k ≠ '-' :: s := by
    intro heq
    have hmem : '-' ∈ decimal k := heq ▸ List.mem_cons_self
    exact absurd (isDigit_of_mem_decimal hmem) (by decide)
  unfold integer at h
  split at h
  · split at h
    · have habs := decimal_injective (List.cons.inj h).2
      omega
    · exact (hsign _ _ h.symm).elim
  · split at h
    · exact (hsign _ _ h).elim
    · have habs := decimal_injective h
      omega

end QueryWatch.Text.Digits

namespace QueryWatch.Decimal

open Text.Digits (isNumeral isNumeral_of_mem_decimal isNumeral_of_mem_integer)

theorem isNumeral_of_mem_positionalText {pointed : Bool} {d : Scientific} {c : Char}
    (h : c ∈ positionalText pointed d) : isNumeral c = true := by
  have hzeros (n : Nat) (hc : c ∈ List.replicate n '0') : isNumeral c = true := by
    rw [List.eq_of_mem_replicate hc]
    rfl
  unfold positionalText at h
  simp only at h
  split at h
  · rcases List.mem_append.1 h with h | h
    · rcases List.mem_append.1 h with h | h
      · exact isNumeral_of_mem_decimal h
      · exact hzeros _ h
    · cases pointed with
      | true =>
        rcases List.mem_cons.1 h with rfl | h
        · rfl
        · rw [List.mem_singleton.1 h]
          rfl
      | false => cases h
  · split at h
    · rcases List.mem_append.1 h with h | h
      · exact isNumeral_of_mem_decimal (List.mem_of_mem_take h)
      · rcases List.mem_cons.1 h with rfl | h
        · rfl
        · exact isNumeral_of_mem_decimal (List.mem_of_mem_drop h)
    · rcases List.mem_cons.1 h with rfl | h
      · rfl
      · rcases List.mem_cons.1 h with rfl | h
        · rfl
        · rcases List.mem_append.1 h with h | h
          · exact hzeros _ h
          · exact isNumeral_of_mem_decimal h

theorem isNumeral_of_mem_exponentText {d : Scientific} {c : Char} (h : c ∈ exponentText d) :
    isNumeral c = true := by
  have hexponent (lead : Int) {c : Char}
      (hc : c ∈ if lead < 0 then Text.Digits.integer lead else '+' :: Text.Digits.integer lead) :
      isNumeral c = true := by
    split at hc
    · exact isNumeral_of_mem_integer hc
    · rcases List.mem_cons.1 hc with rfl | hc
      · rfl
      · exact isNumeral_of_mem_integer hc
  have hdigit {c : Char} (hc : c ∈ Text.Digits.decimal d.digits) : isNumeral c = true :=
    isNumeral_of_mem_decimal hc
  unfold exponentText at h
  simp only at h
  split at h
  · next hd =>
    rw [hd] at hdigit
    rcases List.mem_cons.1 h with rfl | h
    · exact hdigit List.mem_cons_self
    · rcases List.mem_cons.1 h with rfl | h
      · rfl
      · exact hexponent _ h
  · next hd =>
    rw [hd] at hdigit
    rcases List.mem_cons.1 h with rfl | h
    · exact hdigit List.mem_cons_self
    · rcases List.mem_cons.1 h with rfl | h
      · rfl
      · rcases List.mem_append.1 h with h | h
        · exact hdigit (List.mem_cons_of_mem _ h)
        · rcases List.mem_cons.1 h with rfl | h
          · rfl
          · exact hexponent _ h
  · cases h

theorem isNumeral_of_mem_write {layout : Layout} {d : Scientific} {c : Char}
    (h : c ∈ layout.write d) : isNumeral c = true := by
  unfold Layout.write at h
  split at h
  · exact isNumeral_of_mem_positionalText h
  · simp only at h
    split at h
    · exact isNumeral_of_mem_positionalText h
    · exact isNumeral_of_mem_exponentText h

theorem isNumeral_of_mem_text {layout : Layout} {x : Binary64} {c : Char}
    (h : c ∈ layout.text x) : isNumeral c = true := by
  have hwords : ∀ c ∈ ['N', 'a', 'N'] ++ ['i', 'n', 'f'] ++ ['-', 'i', 'n', 'f'],
      isNumeral c = true := List.all_eq_true.1 rfl
  unfold Layout.text at h
  split at h
  · exact hwords c (List.mem_append_left _ (List.mem_append_left _ h))
  · exact hwords c (List.mem_append_left _ (List.mem_append_right _ h))
  · exact hwords c (List.mem_append_right _ h)
  · simp only at h
    split at h
    · rcases List.mem_cons.1 h with rfl | h
      · rfl
      · exact isNumeral_of_mem_write h
    · exact isNumeral_of_mem_write h

theorem positionalText_ne_nil (pointed : Bool) (d : Scientific) : positionalText pointed d ≠ [] := by
  unfold positionalText
  simp only
  split
  · have hdigits := Text.Digits.decimal_ne_nil d.digits
    exact List.append_ne_nil_of_left_ne_nil (List.append_ne_nil_of_left_ne_nil hdigits _) _
  · split
    · exact List.append_ne_nil_of_right_ne_nil _ (List.cons_ne_nil _ _)
    · exact List.cons_ne_nil _ _

theorem exponentText_ne_nil (d : Scientific) : exponentText d ≠ [] := by
  unfold exponentText
  simp only
  split
  · exact List.cons_ne_nil _ _
  · exact List.cons_ne_nil _ _
  · next hnil => exact absurd hnil (Text.Digits.decimal_ne_nil d.digits)

theorem text_ne_nil (layout : Layout) (x : Binary64) : layout.text x ≠ [] := by
  have hwrite (d : Scientific) : layout.write d ≠ [] := by
    unfold Layout.write
    split
    · exact positionalText_ne_nil _ _
    · simp only
      split
      · exact positionalText_ne_nil _ _
      · exact exponentText_ne_nil _
  unfold Layout.text
  split
  · exact List.cons_ne_nil _ _
  · exact List.cons_ne_nil _ _
  · exact List.cons_ne_nil _ _
  · simp only
    split
    · exact List.cons_ne_nil _ _
    · exact hwrite _

theorem isNumeral_of_mem_fractional {x : Binary64} {c : Char} (h : c ∈ fractional x) :
    isNumeral c = true := by
  unfold fractional at h
  split at h
  · split at h
    · rcases List.mem_append.1 h with h | h
      · rcases List.mem_append.1 h with h | h
        · split at h
          · rw [List.mem_singleton.1 h]
            rfl
          · cases h
        · exact isNumeral_of_mem_decimal h
      · have hpoint : ∀ c ∈ ['.', '0'], isNumeral c = true := List.all_eq_true.1 rfl
        exact hpoint c h
    · exact isNumeral_of_mem_text h
  · exact isNumeral_of_mem_text h

end QueryWatch.Decimal
