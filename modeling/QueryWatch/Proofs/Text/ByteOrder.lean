import QueryWatch.KeyMap
import QueryWatch.Wire.Message

namespace QueryWatch.Wire

theorem utf8_eq_flatMap (s : String) : utf8 s = s.toList.flatMap String.utf8EncodeChar := by
  have hbytes : s.toByteArray = s.toList.utf8Encode := by
    rw [← String.toByteArray_ofList, String.ofList_toList]
  rw [utf8, hbytes, List.utf8Encode, List.toList_data_toByteArray]

theorem ofNat_lt_ofNat {a b : Nat} (h : a < b) (hb : b < 256) : UInt8.ofNat a < UInt8.ofNat b := by
  rw [UInt8.lt_iff_toNat_lt, UInt8.toNat_ofNat', UInt8.toNat_ofNat']
  omega

/-- A number in digits of six bits, a byte each. All but the first byte are marked as such, and the first
one by how many there are. -/
def sixes (mark : Nat) : (further : Nat) → Nat → List UInt8
  | 0, v => [UInt8.ofNat (v + mark)]
  | further + 1, v => sixes mark further (v / 64) ++ [UInt8.ofNat (v % 64 + 128)]

def leading : (further : Nat) → Nat → Nat
  | 0, v => v
  | further + 1, v => leading further (v / 64)

theorem sixes_append_lt {mark further v w : Nat} (h : v < w) (hw : leading further w + mark < 256)
    (x y : List UInt8) : sixes mark further v ++ x < sixes mark further w ++ y := by
  induction further generalizing v w x y with
  | zero => exact List.Lex.rel (ofNat_lt_ofNat (Nat.add_lt_add_right h mark) hw)
  | succ further ih =>
    rw [sixes, sixes, List.append_assoc, List.append_assoc]
    rcases Nat.lt_or_eq_of_le (Nat.div_le_div_right (Nat.le_of_lt h) : v / 64 ≤ w / 64) with hlt | heq
    · exact ih hlt hw _ _
    · rw [heq]
      apply List.append_left_lt
      exact List.Lex.rel (ofNat_lt_ofNat (by omega) (by omega))

theorem sixes_eq_cons (mark further v : Nat) :
    ∃ rest, sixes mark further v = UInt8.ofNat (leading further v + mark) :: rest := by
  induction further generalizing v with
  | zero => exact ⟨[], rfl⟩
  | succ further ih =>
    obtain ⟨rest, hrest⟩ := ih (v / 64)
    exact ⟨rest ++ [UInt8.ofNat (v % 64 + 128)], by rw [sixes, hrest, leading, List.cons_append]⟩

/-- How many bytes there are behind the first one of a character, and how that one is marked. -/
def form (v : Nat) : Nat × Nat :=
  if v ≤ 127 then (0, 0) else if v ≤ 2047 then (1, 192) else if v ≤ 65535 then (2, 224) else (3, 240)

def lead (v : Nat) : Nat :=
  leading (form v).1 v + (form v).2

theorem toNat_val_lt (c : Char) : c.val.toNat < 1114112 := by
  rcases c.valid with h | ⟨-, h⟩
  · exact Nat.lt_trans h (by decide)
  · exact h

theorem utf8EncodeChar_eq (c : Char) :
    String.utf8EncodeChar c = sixes (form c.val.toNat).2 (form c.val.toNat).1 c.val.toNat := by
  have hbound := toNat_val_lt c
  unfold String.utf8EncodeChar form
  dsimp only
  split
  · rfl
  split
  · have hfirst : c.val.toNat / 64 % 32 = c.val.toNat / 64 := by omega
    rw [hfirst]
    rfl
  split
  · have hfirst : c.val.toNat / 4096 % 16 = c.val.toNat / 64 / 64 := by omega
    rw [hfirst]
    rfl
  · have hfirst : c.val.toNat / 262144 % 8 = c.val.toNat / 64 / 64 / 64 := by omega
    have hsecond : c.val.toNat / 4096 % 64 = c.val.toNat / 64 / 64 % 64 := by omega
    rw [hfirst, hsecond]
    rfl

theorem lead_eq (v : Nat) : lead v =
    if v ≤ 127 then v else if v ≤ 2047 then v / 64 + 192 else if v ≤ 65535 then v / 64 / 64 + 224
      else v / 64 / 64 / 64 + 240 := by
  unfold lead form
  split
  · rfl
  split
  · rfl
  split <;> rfl

theorem lead_lt_size {v : Nat} (h : v < 1114112) : lead v < 256 := by
  rw [lead_eq]
  split
  · omega
  split
  · omega
  split <;> omega

/-- Of two characters in different forms the first bytes tell which is the greater one. -/
theorem lead_lt {v w : Nat} (h : v < w) (hform : form v ≠ form w) : lead v < lead w := by
  have hbetween : v ≤ 127 ∧ 127 < w ∨ v ≤ 2047 ∧ 2047 < w ∨ v ≤ 65535 ∧ 65535 < w := by
    grind [form]
  rw [lead_eq, lead_eq]
  grind

theorem utf8EncodeChar_append_lt {c d : Char} (h : c < d) (x y : List UInt8) :
    String.utf8EncodeChar c ++ x < String.utf8EncodeChar d ++ y := by
  have hlt : c.val.toNat < d.val.toNat := h
  have hsize : lead d.val.toNat < 256 := lead_lt_size (toNat_val_lt d)
  rw [utf8EncodeChar_eq, utf8EncodeChar_eq]
  by_cases hform : form c.val.toNat = form d.val.toNat
  · rw [hform]
    exact sixes_append_lt hlt hsize x y
  · obtain ⟨cs, hcs⟩ := sixes_eq_cons (form c.val.toNat).2 (form c.val.toNat).1 c.val.toNat
    obtain ⟨ds, hds⟩ := sixes_eq_cons (form d.val.toNat).2 (form d.val.toNat).1 d.val.toNat
    rw [hcs, hds]
    exact List.Lex.rel (ofNat_lt_ofNat (lead_lt hlt hform) hsize)

theorem flatMap_utf8_lt {cs ds : List Char} (h : cs < ds) :
    cs.flatMap String.utf8EncodeChar < ds.flatMap String.utf8EncodeChar := by
  induction h with
  | @nil d ds =>
    obtain ⟨b, rest, hb⟩ := List.exists_cons_of_ne_nil (String.utf8EncodeChar_ne_nil (c := d))
    rw [List.flatMap_nil, List.flatMap_cons, hb]
    exact List.nil_lt_cons _ _
  | rel h =>
    rw [List.flatMap_cons, List.flatMap_cons]
    exact utf8EncodeChar_append_lt h _ _
  | cons _ ih =>
    rw [List.flatMap_cons, List.flatMap_cons]
    exact List.append_left_lt ih

theorem utf8_lt_of_lt {s t : String} (h : s < t) : utf8 s < utf8 t := by
  rw [utf8_eq_flatMap, utf8_eq_flatMap]
  exact flatMap_utf8_lt h

/-- Texts come in the order of their bytes. -/
theorem utf8_lt_iff {s t : String} : utf8 s < utf8 t ↔ s < t := by
  constructor
  · intro h
    apply Classical.byContradiction
    intro hnot
    by_cases heq : s = t
    · subst heq
      exact List.lt_irrefl _ h
    · have hlt : t < s := KeyMap.lt_of_not_lt_of_ne hnot heq
      exact List.lt_asymm h (utf8_lt_of_lt hlt)
  · exact utf8_lt_of_lt

end QueryWatch.Wire
