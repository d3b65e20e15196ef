import QueryWatch.Json.Parser
import QueryWatch.Json.Printer

namespace QueryWatch.Json

open Json.Parser (text?)
open Text (Quoted.escape Digits.hexadecimal Digits.natural?)

theorem natural?_hexadecimal :
    ∀ n, n < 32 → Digits.natural? 16 (Digits.hexadecimal 4 n) = some n := by
  decide

theorem text?_unit {n : Nat} (h : n < 32) (acc rest : List Char) :
    text? none acc ('\\' :: 'u' :: (Digits.hexadecimal 4 n ++ rest)) =
      text? none (Char.ofNat n :: acc) rest := by
  have hread := natural?_hexadecimal n h
  have hhigh : ¬(0xd800 ≤ n ∧ n < 0xdc00) := by omega
  have hlow : ¬(0xdc00 ≤ n ∧ n < 0xe000) := by omega
  simp only [Digits.hexadecimal, List.nil_append, List.cons_append] at hread ⊢
  rw [text?, hread]
  simp only [bind, Option.bind_some]
  rw [if_neg hhigh, if_neg hlow]

theorem text?_plain {c : Char} (hquote : c ≠ '"') (hslash : c ≠ '\\') (h : ¬c.toNat < 32)
    (acc rest : List Char) : text? none acc (c :: rest) = text? none (c :: acc) rest := by
  have hplain : ¬((none : Option Nat).isSome = true ∨ c.toNat < 32) := by
    rintro (hs | hc)
    · cases hs
    · exact h hc
  rw [text?, if_neg hplain]
  · exact hquote
  · rintro _ _ _ _ _ rfl
    exact absurd rfl hslash
  · rintro _ _ rfl
    exact absurd rfl hslash

theorem text?_escape (c : Char) (acc rest : List Char) :
    text? none acc (Quoted.escape c ++ rest) = text? none (c :: acc) rest := by
  unfold Quoted.escape
  -- the seven characters that have a letter of their own, in the order they are asked for
  split
  · next h => subst h; rfl
  split
  · next h => subst h; rfl
  split
  · next h => subst h; rfl
  split
  · next h => subst h; rfl
  split
  · next h => subst h; rfl
  split
  · next h => subst h; rfl
  split
  · next h => subst h; rfl
  split
  · next h =>
    rw [List.append_assoc]
    exact (text?_unit h acc rest).trans (by rw [Char.ofNat_toNat])
  · next hquote hslash _ _ _ _ _ h => exact text?_plain hquote hslash h acc rest

theorem text?_escapes (s acc rest : List Char) :
    text? none acc (s.flatMap Quoted.escape ++ '"' :: rest) =
      some (String.ofList (acc.reverse ++ s), rest) := by
  induction s generalizing acc with
  | nil =>
    rw [List.append_nil]
    rfl
  | cons c s ih =>
    rw [List.flatMap_cons, List.append_assoc, text?_escape, ih, List.reverse_cons, List.append_assoc]
    rfl

open Text (Quoted.encode)

theorem encode_append (s rest : List Char) :
    Quoted.encode s ++ rest = '"' :: (s.flatMap Quoted.escape ++ '"' :: rest) := by
  simp [Quoted.encode]

/-- Texts between quotes are told apart, and so is what follows them. -/
theorem encode_append_inj {s t : String} {x y : List Char}
    (h : Quoted.encode s.toList ++ x = Quoted.encode t.toList ++ y) : s = t ∧ x = y := by
  rw [encode_append, encode_append] at h
  have hread := congrArg (text? none []) (List.cons.inj h).2
  rw [text?_escapes, text?_escapes, List.reverse_nil, List.nil_append, List.nil_append,
    String.ofList_toList, String.ofList_toList] at hread
  exact Prod.ext_iff.1 (Option.some.inj hread)

end QueryWatch.Json
