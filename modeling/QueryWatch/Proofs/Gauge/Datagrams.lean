import QueryWatch.Encoding.Gauge
import QueryWatch.Proofs.Text.Numerals

namespace QueryWatch.Encoding.Gauge

variable {c : Char}

theorem separator_notMem_sanitize (hc : c ∈ separators) (s : List Char) : c ∉ sanitize s := by
  intro hmem
  obtain ⟨d, -, hd⟩ := List.mem_map.1 hmem
  split at hd
  · subst hd
    exact absurd hc (by decide)
  · next hplain =>
    subst hd
    exact hplain hc

theorem separator_notMem_value (hc : c ∈ separators) (x : Binary64) : c ∉ Decimal.plain.text x := by
  intro hmem
  have hnumeral := Decimal.isNumeral_of_mem_text hmem
  have hplain : separators.all (fun c => !Text.Digits.isNumeral c) = true := by decide
  have hnot := List.all_eq_true.1 hplain c hc
  rw [hnumeral] at hnot
  exact Bool.noConfusion hnot

theorem notMem_intercalate {d : Char} (hne : c ≠ d) {parts : List (List Char)}
    (h : ∀ p ∈ parts, c ∉ p) : c ∉ [d].intercalate parts := by
  induction parts with
  | nil => exact List.not_mem_nil
  | cons p parts ih =>
    obtain ⟨hp, hparts⟩ := List.forall_mem_cons.1 h
    cases parts with
    | nil => simpa using hp
    | cons q parts =>
      rw [List.intercalate_cons_cons, List.mem_append, List.mem_append, List.mem_singleton]
      rintro ((hmem | hmem) | hmem)
      · exact hp hmem
      · exact hne hmem
      · exact ih hparts hmem

theorem separator_notMem_tag (hc : c ∈ separators) (hne : c ≠ ':') (e : String × String) :
    c ∉ tag e := by
  rw [tag, List.mem_append, List.mem_cons]
  rintro (hmem | hmem | hmem)
  · exact separator_notMem_sanitize hc _ hmem
  · exact hne hmem
  · exact separator_notMem_sanitize hc _ hmem

def tagList (es : List (String × String)) : List Char :=
  [','].intercalate (es.map tag)

theorem separator_notMem_tagList (hc : c ∈ separators) (hcolon : c ≠ ':') (hcomma : c ≠ ',')
    (es : List (String × String)) : c ∉ tagList es := by
  apply notMem_intercalate hcomma
  intro part hpart
  obtain ⟨e, -, rfl⟩ := List.mem_map.1 hpart
  exact separator_notMem_tag hc hcolon e

theorem splitOn_tag (e : String × String) :
    (tag e).splitOn ':' = [sanitize e.1.toList, sanitize e.2.toList] := by
  have hcolon : ':' ∈ separators := by decide
  rw [tag, List.splitOn_append_cons_self_of_not_mem (separator_notMem_sanitize hcolon _),
    List.splitOn_eq_singleton (separator_notMem_sanitize hcolon _)]

/-- Tags, cut between them and within each, are the entries they were made of. -/
theorem splitOn_tagList {es : List (String × String)} (h : es ≠ []) :
    ((tagList es).splitOn ',').map (·.splitOn ':') =
      es.map fun e => [sanitize e.1.toList, sanitize e.2.toList] := by
  have htags : ∀ part ∈ es.map tag, ',' ∉ part := by
    intro part hpart
    obtain ⟨e, -, rfl⟩ := List.mem_map.1 hpart
    exact separator_notMem_tag (by decide) (by decide) e
  rw [tagList, List.splitOn_intercalate ',' htags (by simpa using h), List.map_map]
  exact List.map_congr_left fun e _ => splitOn_tag e

def head (m : Measurement) (value : Binary64) : List Char :=
  sanitize m.name.toList ++ ':' :: Decimal.plain.text value

theorem splitOn_head (m : Measurement) (value : Binary64) :
    (head m value).splitOn ':' = [sanitize m.name.toList, Decimal.plain.text value] := by
  have hcolon : ':' ∈ separators := by decide
  rw [head, List.splitOn_append_cons_self_of_not_mem (separator_notMem_sanitize hcolon _),
    List.splitOn_eq_singleton (separator_notMem_value hcolon _)]

def tagPart (tags : Labels) : List (List Char) :=
  match tags.entries with
  | [] => []
  | es => ['#' :: tagList es]

theorem tagPart_of_empty {tags : Labels} (h : tags.entries = []) : tagPart tags = [] := by
  rw [tagPart, h]

theorem tagPart_of_nonempty {tags : Labels} (h : tags.entries ≠ []) :
    tagPart tags = ['#' :: tagList tags.entries] := by
  unfold tagPart
  split
  · next hnil => exact absurd hnil h
  · rfl

def parts (m : Measurement) (value : Binary64) : List (List Char) :=
  head m value :: ['g'] :: tagPart m.tags

theorem chars_eq (m : Measurement) (value : Binary64) :
    chars none m value = ['|'].intercalate (parts m value) := by
  cases htags : m.tags.entries <;> simp [chars, parts, tagPart, tagSection, tagList, head, htags]

theorem separator_notMem_part (hc : c ∈ ['|', '\n']) (m : Measurement) (value : Binary64) :
    ∀ part ∈ parts m value, c ∉ part := by
  have hplain : c ∈ separators ∧ c ≠ ':' ∧ c ≠ ',' ∧ c ≠ '#' ∧ c ∉ ['g'] := by
    rw [List.mem_cons, List.mem_singleton] at hc
    rcases hc with rfl | rfl <;> decide
  obtain ⟨hsep, hcolon, hcomma, hmark, hletter⟩ := hplain
  intro part hpart
  rcases List.mem_cons.1 hpart with rfl | hpart
  · rw [head, List.mem_append, List.mem_cons]
    rintro (hmem | hmem | hmem)
    · exact separator_notMem_sanitize hsep _ hmem
    · exact hcolon hmem
    · exact separator_notMem_value hsep _ hmem
  rcases List.mem_cons.1 hpart with rfl | hpart
  · exact hletter
  · by_cases htags : m.tags.entries = []
    · rw [tagPart_of_empty htags] at hpart
      cases hpart
    · rw [tagPart_of_nonempty htags] at hpart
      rw [List.mem_singleton.1 hpart, List.mem_cons]
      rintro (hmem | hmem)
      · exact hmark hmem
      · exact separator_notMem_tagList hsep hcolon hcomma _ hmem

/-- The datagram of a simple measurement is one line of two parts, or of three if the measurement has tags. The
first part is the name and the value, the second the letter of a gauge, the third the tags in key order. -/
theorem datagrams_well_formed {m : Measurement} (h : m.kind = .simple) :
    ∃ value text first, m.value = some value ∧ encode none m = some text ∧ '\n' ∉ text.toList ∧
      first.splitOn ':' = [sanitize m.name.toList, Decimal.plain.text value] ∧
      (m.tags.entries = [] → text.toList.splitOn '|' = [first, ['g']]) ∧
      (m.tags.entries ≠ [] → ∃ third,
        text.toList.splitOn '|' = [first, ['g'], '#' :: third] ∧ '#' ∉ third ∧
        (third.splitOn ',').map (·.splitOn ':') =
          m.tags.entries.map fun e => [sanitize e.1.toList, sanitize e.2.toList]) := by
  obtain ⟨value, hvalue⟩ := Measurement.kind_eq_simple_iff.1 h
  have hencode : encode none m = some (String.ofList (chars none m value)) := by
    rw [encode, hvalue, Option.map_some]
  have hsplit : (String.ofList (chars none m value)).toList.splitOn '|' = parts m value := by
    rw [String.toList_ofList, chars_eq]
    exact List.splitOn_intercalate '|' (separator_notMem_part (by decide) m value) (List.cons_ne_nil _ _)
  refine ⟨value, _, head m value, hvalue, hencode, ?_, splitOn_head m value, ?_, ?_⟩
  · rw [String.toList_ofList, chars_eq]
    exact notMem_intercalate (by decide) (separator_notMem_part (by decide) m value)
  · intro hempty
    rw [hsplit, parts, tagPart_of_empty hempty]
  · intro htags
    exact ⟨tagList m.tags.entries, by rw [hsplit, parts, tagPart_of_nonempty htags],
      separator_notMem_tagList (by decide) (by decide) (by decide) _, splitOn_tagList htags⟩

def forged : Measurement :=
  ⟨"a:1|c\n", some ⟨0xfff0000000000000⟩, 0, .seconds, .ofList [("k:", "v,#x:y|"), ("", "|g")], ∅⟩

theorem datagrams_well_formed_forged : forged.kind = .simple ∧ ∃ text first third,
    encode none forged = some text ∧ '\n' ∉ text.toList ∧
    text.toList.splitOn '|' = [first, ['g'], '#' :: third] ∧ '#' ∉ third ∧
    first.splitOn ':' = ["a_1_c_".toList, "-inf".toList] ∧
    (third.splitOn ',').map (·.splitOn ':') =
      [["".toList, "_g".toList], ["k_".toList, "v__x_y_".toList]] := by
  have hkind : forged.kind = .simple := rfl
  obtain ⟨value, text, first, hvalue, hencode, hline, hfirst, -, htags⟩ :=
    datagrams_well_formed hkind
  obtain ⟨third, hparts, hmark, hthird⟩ := htags (by decide +kernel)
  obtain rfl : _ = value := Option.some.inj hvalue
  refine ⟨hkind, text, first, third, hencode, hline, hparts, hmark, hfirst.trans ?_,
    hthird.trans ?_⟩
  · decide +kernel
  · decide +kernel

end QueryWatch.Encoding.Gauge
