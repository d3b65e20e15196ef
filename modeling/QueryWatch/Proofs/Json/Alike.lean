import QueryWatch.Proofs.Json.Texts
import QueryWatch.Proofs.Text.Numerals

namespace QueryWatch.Json

open Text.Digits (isNumeral)
open Text (Quoted.encode)

def isWord : Json → Bool
  | .string _ => false
  | .array _ => false
  | .object _ => false
  | _ => true

mutual

/-- Values that differ at most in words that are written alike. -/
inductive Alike : Json → Json → Prop
  | word {j k : Json} (hj : j.isWord = true) (hk : k.isWord = true) (h : j.chars = k.chars) :
      Alike j k
  | string (s : String) : Alike (.string s) (.string s)
  | array {xs ys : List Json} (h : AlikeItems xs ys) : Alike (.array xs) (.array ys)
  | object {ms ns : List (String × Json)} (h : AlikeMembers ms ns) : Alike (.object ms) (.object ns)

inductive AlikeItems : List Json → List Json → Prop
  | nil : AlikeItems [] []
  | cons {j k : Json} {xs ys : List Json} (h : Alike j k) (hs : AlikeItems xs ys) :
      AlikeItems (j :: xs) (k :: ys)

inductive AlikeMembers : List (String × Json) → List (String × Json) → Prop
  | nil : AlikeMembers [] []
  | cons {j k : Json} {ms ns : List (String × Json)} (name : String) (h : Alike j k)
      (hs : AlikeMembers ms ns) : AlikeMembers ((name, j) :: ms) ((name, k) :: ns)

end

@[simp] theorem alike_string_iff {s t : String} : Alike (.string s) (.string t) ↔ s = t := by
  constructor
  · rintro (⟨hword, -, -⟩ | _)
    · cases hword
    · rfl
  · rintro rfl
    exact .string s

@[simp] theorem alike_int_iff {m n : Int} : Alike (.int m) (.int n) ↔ m = n := by
  constructor
  · rintro ⟨-, -, h⟩
    exact Text.Digits.integer_injective h
  · rintro rfl
    exact .word rfl rfl rfl

@[simp] theorem alike_float_iff {x y : Binary64} :
    Alike (.float x) (.float y) ↔ numberText x = numberText y := by
  constructor
  · rintro ⟨-, -, h⟩
    exact h
  · intro h
    exact .word rfl rfl h

@[simp] theorem alike_object_iff {ms ns : List (String × Json)} :
    Alike (.object ms) (.object ns) ↔ AlikeMembers ms ns := by
  constructor
  · rintro (⟨hword, -, -⟩ | _ | _ | h)
    · cases hword
    · exact h
  · exact .object

@[simp] theorem alikeMembers_cons_iff {m n : String × Json} {ms ns : List (String × Json)} :
    AlikeMembers (m :: ms) (n :: ns) ↔ m.1 = n.1 ∧ Alike m.2 n.2 ∧ AlikeMembers ms ns := by
  constructor
  · rintro (_ | ⟨name, h, hs⟩)
    exact ⟨rfl, h, hs⟩
  · obtain ⟨name, j⟩ := m
    obtain ⟨other, k⟩ := n
    rintro ⟨rfl, h, hs⟩
    exact .cons name h hs

theorem AlikeMembers.names_eq {ms ns : List (String × Json)} (h : AlikeMembers ms ns) :
    ms.map Prod.fst = ns.map Prod.fst := by
  induction ms generalizing ns with
  | nil =>
    cases h
    rfl
  | cons m ms ih =>
    cases h with
    | cons name _ hs => rw [List.map_cons, List.map_cons, ih hs]

theorem word_chars {j : Json} (h : j.isWord = true) :
    j.chars ≠ [] ∧ ∀ c ∈ j.chars, isNumeral c = true := by
  have hnull : ∀ c ∈ "null".toList, isNumeral c = true := List.all_eq_true.1 rfl
  have htrue : ∀ c ∈ "true".toList, isNumeral c = true := List.all_eq_true.1 rfl
  have hfalse : ∀ c ∈ "false".toList, isNumeral c = true := List.all_eq_true.1 rfl
  cases j with
  | null => exact ⟨by decide, hnull⟩
  | bool b =>
    cases b with
    | true => exact ⟨by decide, htrue⟩
    | false => exact ⟨by decide, hfalse⟩
  | int n =>
    refine ⟨?_, fun c => Text.Digits.isNumeral_of_mem_integer⟩
    rw [chars, Text.Digits.integer]
    split
    · exact List.cons_ne_nil _ _
    · exact Text.Digits.decimal_ne_nil _
  | float x =>
    rw [chars, numberText]
    split
    · exact ⟨Decimal.text_ne_nil _ x, fun c => Decimal.isNumeral_of_mem_text⟩
    · exact ⟨by decide, hnull⟩
  | string s => cases h
  | array xs => cases h
  | object ms => cases h

def opening : Json → Option Char
  | .string _ => some '"'
  | .array _ => some '['
  | .object _ => some '\x7b'
  | _ => none

theorem opening_eq_none_iff {j : Json} : j.opening = none ↔ j.isWord = true := by
  cases j <;> simp [opening, isWord]

theorem exists_chars_eq (j : Json) :
    ∃ c s, j.chars = c :: s ∧ j.opening = if isNumeral c then none else some c := by
  cases hword : j.isWord with
  | true =>
    obtain ⟨hne, hnumeral⟩ := word_chars hword
    obtain ⟨c, s, hs⟩ := List.exists_cons_of_ne_nil hne
    refine ⟨c, s, hs, ?_⟩
    rw [opening_eq_none_iff.2 hword, if_pos (hnumeral c (hs ▸ List.mem_cons_self))]
  | false =>
    cases j with
    | string s => exact ⟨_, _, rfl, rfl⟩
    | array xs => exact ⟨_, _, rfl, rfl⟩
    | object ms => exact ⟨_, _, rfl, rfl⟩
    | _ => cases hword

theorem opening_eq_of_chars {j k : Json} {x y : List Char} (h : j.chars ++ x = k.chars ++ y) :
    j.opening = k.opening := by
  obtain ⟨c, s, hj, hopening⟩ := exists_chars_eq j
  obtain ⟨d, t, hk, hopening'⟩ := exists_chars_eq k
  rw [hj, hk] at h
  obtain rfl := (List.cons.inj h).1
  rw [hopening, hopening']

/-- A text that no word goes on with. -/
def Ends (x : List Char) : Prop :=
  ∀ c ∈ x.head?, isNumeral c = false

theorem word_append_inj {j k : Json} (hj : j.isWord = true) (hk : k.isWord = true) {x y : List Char}
    (hx : Ends x) (hy : Ends y) (h : j.chars ++ x = k.chars ++ y) : j.chars = k.chars ∧ x = y := by
  have htake {j : Json} (hj : j.isWord = true) {x : List Char} (hx : Ends x) :
      (j.chars ++ x).takeWhile isNumeral = j.chars := by
    rw [List.takeWhile_append_of_pos (word_chars hj).2]
    cases x with
    | nil => simp
    | cons c x => simp [hx c rfl]
  have hchars : j.chars = k.chars := by
    rw [← htake hj hx, h, htake hk hy]
  rw [hchars] at h
  exact ⟨hchars, List.append_cancel_left h⟩

theorem alike_of_word {j k : Json} (hj : j.isWord = true) {x y : List Char} (hx : Ends x)
    (hy : Ends y) (h : j.chars ++ x = k.chars ++ y) : Alike j k ∧ x = y := by
  have hk : k.isWord = true := by
    rw [← opening_eq_none_iff, ← opening_eq_of_chars h, opening_eq_none_iff]
    exact hj
  obtain ⟨hchars, hrest⟩ := word_append_inj hj hk hx hy h
  exact ⟨.word hj hk hchars, hrest⟩

theorem chars_append_ne_closing {c : Char} (hc : c ∈ [']', '\x7d']) (j : Json) (x y : List Char) :
    j.chars ++ x ≠ c :: y := by
  have hclosing : isNumeral c = false ∧ c ≠ '"' ∧ c ≠ '[' ∧ c ≠ '\x7b' := by
    rw [List.mem_cons, List.mem_singleton] at hc
    rcases hc with rfl | rfl <;> decide
  obtain ⟨hnumeral, hquote, hbracket, hbrace⟩ := hclosing
  obtain ⟨d, s, hj, hopening⟩ := exists_chars_eq j
  intro h
  rw [hj] at h
  obtain rfl := (List.cons.inj h).1
  rw [hnumeral] at hopening
  cases j with
  | string s => exact hquote (Option.some.inj hopening).symm
  | array xs => exact hbracket (Option.some.inj hopening).symm
  | object ms => exact hbrace (Option.some.inj hopening).symm
  | _ => cases hopening

def itemsBehind : List Json → List Char
  | [] => []
  | xs => ',' :: itemChars xs

def membersBehind : List (String × Json) → List Char
  | [] => []
  | ms => ',' :: memberChars ms

theorem itemChars_cons (j : Json) (xs : List Json) :
    itemChars (j :: xs) = j.chars ++ itemsBehind xs := by
  cases xs with
  | nil => rw [itemChars, itemsBehind, List.append_nil]
  | cons k xs => rfl

theorem memberChars_cons (name : String) (j : Json) (ms : List (String × Json)) :
    memberChars ((name, j) :: ms) =
      Quoted.encode name.toList ++ ':' :: (j.chars ++ membersBehind ms) := by
  cases ms with
  | nil => rw [memberChars, membersBehind, List.append_nil]
  | cons m ms => rfl

theorem ends_itemsBehind (xs : List Json) (x : List Char) : Ends (itemsBehind xs ++ ']' :: x) := by
  cases xs <;> (rintro c ⟨⟩; rfl)

theorem ends_membersBehind (ms : List (String × Json)) (x : List Char) :
    Ends (membersBehind ms ++ '\x7d' :: x) := by
  cases ms <;> (rintro c ⟨⟩; rfl)

theorem itemChars_of_behind {xs ys : List Json} {x y : List Char}
    (h : itemsBehind xs ++ ']' :: x = itemsBehind ys ++ ']' :: y) :
    itemChars xs ++ ']' :: x = itemChars ys ++ ']' :: y := by
  cases xs with
  | nil =>
    cases ys with
    | nil => exact h
    | cons k ys => exact absurd (List.cons.inj h).1 (by decide)
  | cons j xs =>
    cases ys with
    | nil => exact absurd (List.cons.inj h).1 (by decide)
    | cons k ys => exact (List.cons.inj h).2

theorem memberChars_of_behind {ms ns : List (String × Json)} {x y : List Char}
    (h : membersBehind ms ++ '\x7d' :: x = membersBehind ns ++ '\x7d' :: y) :
    memberChars ms ++ '\x7d' :: x = memberChars ns ++ '\x7d' :: y := by
  cases ms with
  | nil =>
    cases ns with
    | nil => exact h
    | cons n ns => exact absurd (List.cons.inj h).1 (by decide)
  | cons m ms =>
    cases ns with
    | nil => exact absurd (List.cons.inj h).1 (by decide)
    | cons n ns => exact (List.cons.inj h).2

mutual

theorem alike_of_chars : ∀ {j k : Json} {x y : List Char}, Ends x → Ends y →
    j.chars ++ x = k.chars ++ y → Alike j k ∧ x = y
  | .string s, k, x, y, _, _, h => by
    have hopening := opening_eq_of_chars h
    cases k with
    | string t =>
      obtain ⟨rfl, hrest⟩ := encode_append_inj h
      exact ⟨.string s, hrest⟩
    | _ => cases hopening
  | .array xs, k, x, y, _, _, h => by
    have hopening := opening_eq_of_chars h
    cases k with
    | array ys =>
      have hitems : itemChars xs ++ ']' :: x = itemChars ys ++ ']' :: y := by
        simpa [chars] using h
      obtain ⟨halike, hrest⟩ := alike_of_itemChars hitems
      exact ⟨.array halike, hrest⟩
    | _ => cases hopening
  | .object ms, k, x, y, _, _, h => by
    have hopening := opening_eq_of_chars h
    cases k with
    | object ns =>
      have hmembers : memberChars ms ++ '\x7d' :: x = memberChars ns ++ '\x7d' :: y := by
        simpa [chars] using h
      obtain ⟨halike, hrest⟩ := alike_of_memberChars hmembers
      exact ⟨.object halike, hrest⟩
    | _ => cases hopening
  | .null, k, x, y, hx, hy, h => alike_of_word rfl hx hy h
  | .bool b, k, x, y, hx, hy, h => alike_of_word rfl hx hy h
  | .int n, k, x, y, hx, hy, h => alike_of_word rfl hx hy h
  | .float v, k, x, y, hx, hy, h => alike_of_word rfl hx hy h

theorem alike_of_itemChars : ∀ {xs ys : List Json} {x y : List Char},
    itemChars xs ++ ']' :: x = itemChars ys ++ ']' :: y → AlikeItems xs ys ∧ x = y
  | [], [], x, y, h => ⟨.nil, (List.cons.inj h).2⟩
  | [], k :: ys, x, y, h => by
    rw [itemChars_cons, List.append_assoc] at h
    exact absurd h.symm (chars_append_ne_closing (by decide) k _ _)
  | j :: xs, [], x, y, h => by
    rw [itemChars_cons, List.append_assoc] at h
    exact absurd h (chars_append_ne_closing (by decide) j _ _)
  | j :: xs, k :: ys, x, y, h => by
    rw [itemChars_cons, itemChars_cons, List.append_assoc, List.append_assoc] at h
    obtain ⟨halike, hbehind⟩ := alike_of_chars (ends_itemsBehind xs x) (ends_itemsBehind ys y) h
    obtain ⟨hitems, hrest⟩ := alike_of_itemChars (itemChars_of_behind hbehind)
    exact ⟨.cons halike hitems, hrest⟩

theorem alike_of_memberChars : ∀ {ms ns : List (String × Json)} {x y : List Char},
    memberChars ms ++ '\x7d' :: x = memberChars ns ++ '\x7d' :: y → AlikeMembers ms ns ∧ x = y
  | [], [], x, y, h => ⟨.nil, (List.cons.inj h).2⟩
  | [], (other, k) :: ns, x, y, h => by
    rw [memberChars_cons, List.append_assoc, encode_append] at h
    exact absurd (List.cons.inj h).1 (by decide)
  | (name, j) :: ms, [], x, y, h => by
    rw [memberChars_cons, List.append_assoc, encode_append] at h
    exact absurd (List.cons.inj h).1 (by decide)
  | (name, j) :: ms, (other, k) :: ns, x, y, h => by
    rw [memberChars_cons, memberChars_cons, List.append_assoc, List.append_assoc] at h
    obtain ⟨rfl, hvalue⟩ := encode_append_inj h
    rw [List.cons_append, List.cons_append, List.append_assoc, List.append_assoc] at hvalue
    obtain ⟨halike, hbehind⟩ := alike_of_chars (ends_membersBehind ms x) (ends_membersBehind ns y)
      (List.cons.inj hvalue).2
    obtain ⟨hmembers, hrest⟩ := alike_of_memberChars (memberChars_of_behind hbehind)
    exact ⟨.cons name halike hmembers, hrest⟩

end

/-- Values of one text are alike. -/
theorem alike_of_render {j k : Json} (h : j.render = k.render) : Alike j k := by
  have hends : Ends [] := by
    intro c hc
    cases hc
  have hchars := congrArg String.toList h
  rw [render, render, String.toList_ofList, String.toList_ofList] at hchars
  exact (alike_of_chars hends hends (by rw [List.append_nil, List.append_nil, hchars])).1

end QueryWatch.Json
