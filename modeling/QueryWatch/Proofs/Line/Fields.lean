import Mathlib.Data.List.Basic
import QueryWatch.Proofs.Line.Escape
import QueryWatch.Proofs.Text.Numerals

namespace QueryWatch.Encoding.Line

def fieldsBefore (tail : List Char) (fs : List (String × String)) : List Char :=
  fs.flatMap (fun f => ',' :: field f) ++ tail

theorem fieldsBefore_cons (tail : List Char) (f : String × String) (fs : List (String × String)) :
    fieldsBefore tail (f :: fs) =
      ',' :: (escape keySpecial f.1.toList ++ '=' :: '"' ::
        (escape quotedSpecial f.2.toList ++ '"' :: fieldsBefore tail fs)) := by
  simp [fieldsBefore, field]

/-- What can follow the fields: it is set off and has no quotes. -/
structure IsTail (t : List Char) : Prop where
  quoteless : '"' ∉ t
  setOff : ∃ c r, t = c :: r ∧ c ∈ keySpecial ∧ c ≠ '='

theorem IsTail.setOff_fields {t : List Char} (h : IsTail t) (fs : List (String × String)) :
    ∃ c r, fieldsBefore t fs = c :: r ∧ c ∈ keySpecial ∧ c ≠ '=' := by
  cases fs with
  | nil => exact h.setOff
  | cons f fs => exact ⟨',', _, fieldsBefore_cons t f fs, by decide, by decide⟩

theorem backslash_notMem_key : '\\' ∉ keySpecial := by
  decide

theorem quote_notMem_key : '"' ∉ keySpecial := by
  decide

/-- Where one reading is between quotes and the other within a key, the quote that closes for the one opens
for the other. -/
theorem close_eq_open {v k rest more : List Char} {c : Char} {r : List Char}
    (hrest : rest = c :: r) (hc : c ∈ keySpecial) (hne : c ≠ '=')
    (h : escape quotedSpecial v ++ '"' :: rest = escape keySpecial k ++ '=' :: '"' :: more) :
    rest = more := by
  subst hrest
  rcases List.append_eq_append_iff.1 h with ⟨x, hkey, hx⟩ | ⟨x, hvalue, hx⟩
  · -- The closing quote stands within the key, and a separator follows it without a backslash.
    cases x with
    | nil => exact absurd (List.cons.inj hx).1 (by decide)
    | cons q w =>
      obtain ⟨rfl, hw⟩ := List.cons.inj hx
      obtain ⟨k', rfl⟩ := exists_escape_of_append quote_notMem_key (by decide) hkey
      cases hk : escape keySpecial k' with
      | nil =>
        rw [hk] at hw
        exact absurd (List.cons.inj hw).1 hne
      | cons d w =>
        rw [hk] at hw
        obtain ⟨rfl, -⟩ := List.cons.inj hw
        exact absurd hc (notMem_of_escape_eq_cons backslash_notMem_key hk)
  · cases x with
    | nil => exact absurd (List.cons.inj hx).1 (by decide)
    | cons e x =>
      obtain ⟨rfl, hopen⟩ := List.cons.inj hx
      cases x with
      | nil => exact (List.cons.inj hopen).2.symm
      | cons q w =>
        -- The opening quote stands within the value, behind an equals sign and not a backslash.
        obtain ⟨rfl, -⟩ := List.cons.inj hopen
        rw [List.append_cons] at hvalue
        have hlast := getLast_eq_backslash quote_special (by decide) hvalue
        rw [List.getLast?_concat] at hlast
        exact absurd (Option.some.inj hlast) (by decide)

/-- A reading between quotes and a reading within a key do not both come to an end. By induction on the fields
that are left: at each quote the two readings change places. -/
theorem crossed_false {t t' : List Char} (ht : IsTail t) (ht' : IsTail t') {v k v' : List Char}
    {fs fs' : List (String × String)}
    (h : escape quotedSpecial v ++ '"' :: fieldsBefore t fs =
      escape keySpecial k ++ '=' :: '"' :: (escape quotedSpecial v' ++ '"' :: fieldsBefore t' fs')) :
    False := by
  obtain ⟨c, r, hrest, hc, hne⟩ := ht.setOff_fields fs
  have hquoted := close_eq_open hrest hc hne h
  match fs with
  | [] =>
    have hmem : '"' ∈ fieldsBefore t [] := by
      rw [hquoted]
      exact List.mem_append_right _ List.mem_cons_self
    exact ht.quoteless hmem
  | f :: fs =>
    rw [fieldsBefore_cons] at hquoted
    cases v' with
    | nil => exact absurd (List.cons.inj hquoted).1 (by decide)
    | cons d v' =>
      by_cases hd : d ∈ quotedSpecial
      · rw [escape_cons_of_mem hd] at hquoted
        exact absurd (List.cons.inj hquoted).1 (by decide)
      · rw [escape_cons_of_notMem hd] at hquoted
        exact crossed_false ht' ht (List.cons.inj hquoted).2.symm
termination_by fs.length + fs'.length
decreasing_by
  rw [List.length_cons]
  omega

theorem keys_agree {t t' k k' v v' : List Char} (ht : IsTail t) (ht' : IsTail t')
    {fs fs' : List (String × String)}
    (h : escape keySpecial k ++ '=' :: '"' :: (escape quotedSpecial v ++ '"' :: fieldsBefore t fs) =
      escape keySpecial k' ++ '=' :: '"' ::
        (escape quotedSpecial v' ++ '"' :: fieldsBefore t' fs')) :
    k = k' ∧ v = v' ∧ fieldsBefore t fs = fieldsBefore t' fs' := by
  -- A key that goes on beyond the other one has the other's opening quote in it.
  have hlonger {k k' v v' x t t' : List Char} {fs fs' : List (String × String)} (ht : IsTail t)
      (ht' : IsTail t') (hkey : escape keySpecial k' = escape keySpecial k ++ x)
      (hx : '=' :: '"' :: (escape quotedSpecial v ++ '"' :: fieldsBefore t fs) =
        x ++ '=' :: '"' :: (escape quotedSpecial v' ++ '"' :: fieldsBefore t' fs')) : x = [] := by
    match x with
    | [] => rfl
    | [e] => exact absurd (List.cons.inj (List.cons.inj hx).2).1 (by decide)
    | e :: q :: w =>
      obtain ⟨rfl, hopen⟩ := List.cons.inj hx
      obtain ⟨rfl, hcrossed⟩ := List.cons.inj hopen
      rw [List.append_cons] at hkey
      obtain ⟨k'', rfl⟩ := exists_escape_of_append quote_notMem_key (by decide) hkey
      exact (crossed_false ht ht' hcrossed).elim
  have hkeys : escape keySpecial k = escape keySpecial k' := by
    rcases List.append_eq_append_iff.1 h with ⟨x, hkey, hx⟩ | ⟨x, hkey, hx⟩
    · rw [hkey, hlonger ht ht' hkey hx, List.append_nil]
    · rw [hkey, hlonger ht' ht hkey hx, List.append_nil]
  rw [hkeys] at h
  obtain ⟨-, h⟩ := List.cons.inj (List.append_cancel_left h)
  obtain ⟨-, h⟩ := List.cons.inj h
  obtain ⟨rfl, hrest⟩ := quoted_append_inj h
  exact ⟨escape_injective backslash_notMem_key hkeys, rfl, hrest⟩

theorem fieldsBefore_inj {t t' : List Char} (ht : IsTail t) (ht' : IsTail t')
    {fs fs' : List (String × String)} (h : fieldsBefore t fs = fieldsBefore t' fs') :
    fs = fs' ∧ t = t' := by
  have hquote (t : List Char) (f : String × String) (fs : List (String × String)) :
      '"' ∈ fieldsBefore t (f :: fs) := by
    rw [fieldsBefore_cons]
    exact List.mem_cons_of_mem _ (List.mem_append_right _ (List.mem_cons_of_mem _ List.mem_cons_self))
  induction fs generalizing fs' with
  | nil =>
    cases fs' with
    | nil => exact ⟨rfl, h⟩
    | cons f fs' =>
      have hmem := hquote t' f fs'
      rw [← h] at hmem
      exact (ht.quoteless hmem).elim
  | cons f fs ih =>
    cases fs' with
    | nil =>
      have hmem := hquote t f fs
      rw [h] at hmem
      exact (ht'.quoteless hmem).elim
    | cons f' fs' =>
      rw [fieldsBefore_cons, fieldsBefore_cons] at h
      obtain ⟨hkey, hvalue, hrest⟩ := keys_agree ht ht' (List.cons.inj h).2
      obtain ⟨rfl, rfl⟩ := ih hrest
      exact ⟨by rw [Prod.ext (String.toList_inj.1 hkey) (String.toList_inj.1 hvalue)], rfl⟩

open Text (Digits.integer)
open Text.Digits (isNumeral isNumeral_of_mem_integer integer_injective)

/-- What follows the fields of a measurement: its value, if it has one, and the time. -/
def tailOf (m : Measurement) : List Char :=
  (match m.value with
    | some x => ",value=".toList ++ Decimal.fractional x
    | none => []) ++ ' ' :: Digits.integer m.timeNanos.toInt

theorem notMem_of_isNumeral {s : List Char} {c : Char} (hs : ∀ d ∈ s, isNumeral d = true)
    (hc : isNumeral c = false) : c ∉ s := by
  intro hmem
  rw [hs c hmem] at hc
  cases hc

theorem notMem_tailOf (m : Measurement) {c : Char} (hvalue : c ∉ ",value= ".toList)
    (hc : isNumeral c = false) : c ∉ tailOf m := by
  intro hmem
  rcases List.mem_append.1 hmem with h | h
  · cases hv : m.value with
    | none =>
      rw [hv] at h
      cases h
    | some x =>
      rw [hv] at h
      rcases List.mem_append.1 h with h | h
      · exact hvalue (List.mem_append_left [' '] h)
      · exact notMem_of_isNumeral (fun d => Decimal.isNumeral_of_mem_fractional) hc h
  · rcases List.mem_cons.1 h with rfl | h
    · exact hvalue (by decide)
    · exact notMem_of_isNumeral (fun d => isNumeral_of_mem_integer) hc h

theorem isTail_tailOf (m : Measurement) : IsTail (tailOf m) where
  quoteless := notMem_tailOf m (by decide) (by decide)
  setOff := by
    cases hv : m.value with
    | none => exact ⟨' ', _, by rw [tailOf, hv]; rfl, by decide, by decide⟩
    | some x => exact ⟨',', _, by rw [tailOf, hv]; rfl, by decide, by decide⟩

theorem intercalate_cons (separator first : List Char) (pieces : List (List Char)) :
    separator.intercalate (first :: pieces) = first ++ pieces.flatMap (separator ++ ·) := by
  induction pieces generalizing first with
  | nil => simp [List.intercalate]
  | cons piece pieces ih =>
    rw [List.intercalate_cons_cons, ih, List.flatMap_cons, List.append_assoc, List.append_assoc]

theorem cons_intercalate {is : List (List Char)} (h : is ≠ []) :
    ',' :: [','].intercalate is = is.flatMap (',' :: ·) := by
  obtain ⟨i, is, rfl⟩ := List.exists_cons_of_ne_nil h
  rw [intercalate_cons, List.flatMap_cons, List.cons_append]
  rfl

theorem exists_chars_eq (m : Measurement) :
    (items m = [] ∧ chars m = series m) ∨
      ∃ s, chars m = series m ++ ' ' :: s ∧ ',' :: s = fieldsBefore (tailOf m) m.fields.entries := by
  cases his : items m with
  | nil => exact .inl ⟨rfl, by rw [chars, his]⟩
  | cons i is =>
    refine .inr ⟨[','].intercalate (i :: is) ++ ' ' :: Digits.integer m.timeNanos.toInt, ?_, ?_⟩
    · rw [chars, his]
    · rw [← List.cons_append, cons_intercalate (List.cons_ne_nil i is), ← his, items,
        List.flatMap_append, List.flatMap_map, fieldsBefore, tailOf, List.append_assoc]
      cases m.value with
      | none => rfl
      | some x => rw [List.flatMap_singleton]; rfl

theorem series_append_inj {m n : Measurement} (hname : m.name = n.name) (htags : m.tags = n.tags)
    {s t : List Char} (h : series m ++ s = series n ++ t) : m.kind = n.kind ∧ s = t := by
  simp only [series, hname, htags, List.append_assoc, List.append_cancel_left_eq] at h
  cases hm : m.kind <;> cases hn : n.kind <;> rw [hm, hn] at h
  · exact ⟨rfl, List.append_cancel_left h⟩
  · exact absurd (List.cons.inj h).1 (by decide)
  · exact absurd (List.cons.inj h).1 (by decide)
  · exact ⟨rfl, List.append_cancel_left h⟩

theorem tailOf_inj {m n : Measurement} (hkind : m.kind = n.kind) (h : tailOf m = tailOf n) :
    m.value.map Decimal.fractional = n.value.map Decimal.fractional ∧ m.timeNanos = n.timeNanos := by
  have htime {a b : Int64} (h : Digits.integer a.toInt = Digits.integer b.toInt) : a = b :=
    Int64.toInt_inj.1 (integer_injective h)
  cases hm : m.value with
  | none =>
    have hn : n.value = none := by
      cases hn : n.value with
      | none => rfl
      | some x => simp [Measurement.kind, hm, hn] at hkind
    rw [tailOf, tailOf, hm, hn] at h
    rw [hn]
    exact ⟨rfl, htime (List.cons.inj h).2⟩
  | some x =>
    obtain ⟨y, hn⟩ : ∃ y, n.value = some y := by
      cases hn : n.value with
      | none => simp [Measurement.kind, hm, hn] at hkind
      | some y => exact ⟨y, rfl⟩
    rw [tailOf, tailOf, hm, hn] at h
    have hblank : ' ' ∉ ",value=".toList ++ Decimal.fractional x := by
      intro hmem
      rcases List.mem_append.1 hmem with hmem | hmem
      · exact absurd hmem (by decide)
      · exact notMem_of_isNumeral (fun d => Decimal.isNumeral_of_mem_fractional) (by decide) hmem
    have hdigits : ' ' ∉ Digits.integer m.timeNanos.toInt :=
      notMem_of_isNumeral (fun d => isNumeral_of_mem_integer) (by decide)
    obtain ⟨hvalues, -, htimes⟩ := (List.append_cons_inj_of_notMem hblank hdigits).1 h
    rw [hn, Option.map_some, Option.map_some, List.append_cancel_left hvalues]
    exact ⟨rfl, htime htimes⟩

theorem empty_of_items_eq_nil {m : Measurement} (h : items m = []) :
    m.fields.entries = [] ∧ m.value = none := by
  obtain ⟨hfields, hvalue⟩ := List.append_eq_nil_iff.1 h
  refine ⟨List.map_eq_nil_iff.1 hfields, ?_⟩
  cases hv : m.value with
  | none => rfl
  | some x =>
    rw [hv] at hvalue
    cases hvalue

/-- Of two measurements with one name and the same tags, one line is the line of both only if they have the
same kind, the same fields, the same value as it is written, and, if there is a field, the same time. -/
theorem fields_unforgeable {m n : Measurement} (hname : m.name = n.name) (htags : m.tags = n.tags)
    (h : encode m = encode n) :
    m.kind = n.kind ∧ m.fields = n.fields ∧
      m.value.map Decimal.fractional = n.value.map Decimal.fractional ∧
        (hasFields m = true → m.timeNanos = n.timeNanos) := by
  have hchars : chars m = chars n := String.ofList_injective h
  rcases exists_chars_eq m with ⟨hm, hmline⟩ | ⟨s, hmline, hs⟩ <;>
    rcases exists_chars_eq n with ⟨hn, hnline⟩ | ⟨t, hnline, ht⟩
  · obtain ⟨hkind, -⟩ := series_append_inj hname htags (s := []) (t := [])
      (by rw [List.append_nil, List.append_nil, ← hmline, ← hnline, hchars])
    obtain ⟨hmfields, hmvalue⟩ := empty_of_items_eq_nil hm
    obtain ⟨hnfields, hnvalue⟩ := empty_of_items_eq_nil hn
    refine ⟨hkind, KeyMap.ext (hmfields.trans hnfields.symm), by rw [hmvalue, hnvalue], fun hf => ?_⟩
    simp [hasFields, Measurement.kind, hmvalue, KeyMap.isEmpty, hmfields] at hf
  · obtain ⟨-, hnil⟩ := series_append_inj hname htags (s := []) (t := ' ' :: t)
      (by rw [List.append_nil, ← hmline, ← hnline, hchars])
    cases hnil
  · obtain ⟨-, hnil⟩ := series_append_inj hname htags (s := ' ' :: s) (t := [])
      (by rw [List.append_nil, ← hmline, ← hnline, hchars])
    cases hnil
  · rw [hmline, hnline] at hchars
    obtain ⟨hkind, hrest⟩ := series_append_inj hname htags hchars
    obtain rfl := (List.cons.inj hrest).2
    obtain ⟨hfields, htail⟩ := fieldsBefore_inj (isTail_tailOf m) (isTail_tailOf n) (hs.symm.trans ht)
    obtain ⟨hvalue, htime⟩ := tailOf_inj hkind htail
    exact ⟨hkind, KeyMap.ext hfields, hvalue, fun _ => htime⟩

/-- Keys and values with everything in them that fields are told apart by. -/
def oddFields : Labels :=
  .ofList [("k\\", "x="), ("k=\"x", ",\\\""), ("", " ")]

def inSeconds : Measurement :=
  .complex "a b" 1 .seconds (.ofList [("t,", "=")]) oddFields

def inMilliseconds : Measurement :=
  .complex "a b" 1000 .milliseconds (.ofList [("t,", "=")]) oddFields

theorem fields_unforgeable_odd :
    encode inSeconds = encode inMilliseconds ∧ inSeconds.fields = inMilliseconds.fields ∧
      inSeconds.timeNanos = inMilliseconds.timeNanos := by
  have hline : encode inSeconds = encode inMilliseconds := by decide +kernel
  obtain ⟨-, hfields, -, htime⟩ := fields_unforgeable (m := inSeconds) (n := inMilliseconds) rfl rfl hline
  exact ⟨hline, hfields, htime (by decide +kernel)⟩

end QueryWatch.Encoding.Line
