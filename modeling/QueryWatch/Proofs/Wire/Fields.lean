import QueryWatch.Proofs.Wire.Endian

namespace QueryWatch.Wire

namespace Varint

theorem decodeFrom_encode {n taken : Nat} (acc : Nat) (rest : List UInt8) (ht : taken ≤ 9)
    (hn : n * Nat.pow 128 taken < UInt64.size) :
    decodeFrom taken acc (encode n ++ rest) = some (acc + n * Nat.pow 128 taken, rest) := by
  induction n using encode.induct generalizing taken acc with
  | case1 n hlow =>
    have hbyte : n.toUInt8.toNat = n := by
      rw [Nat.toUInt8_eq, UInt8.toNat_ofNat']
      omega
    rw [encode, if_pos hlow, List.singleton_append, decodeFrom, hbyte]
    by_cases hlast : taken = 9
    · subst hlast
      have hsize : UInt64.size = 2 * Nat.pow 128 9 := by decide
      have hbit : n < 2 := by
        rw [hsize] at hn
        exact Nat.lt_of_mul_lt_mul_right hn
      rw [if_pos rfl, if_pos hbit]
    · rw [if_neg hlast, if_pos hlow]
  | case2 n hhigh ih =>
    have hbyte : (n % 128 + 128).toUInt8.toNat = n % 128 + 128 := by
      rw [Nat.toUInt8_eq, UInt8.toNat_ofNat']
      omega
    have hpow : Nat.pow 128 (taken + 1) = 128 * Nat.pow 128 taken := Nat.mul_comm _ _
    have hsplit : n % 128 * Nat.pow 128 taken + n / 128 * Nat.pow 128 (taken + 1) =
        n * Nat.pow 128 taken := by
      rw [hpow, ← Nat.mul_assoc, ← Nat.add_mul, Nat.mul_comm (n / 128), Nat.mod_add_div]
    have hne : taken ≠ 9 := by
      intro hlast
      have hsize : UInt64.size < 128 * Nat.pow 128 9 := by decide
      have hle : 128 * Nat.pow 128 taken ≤ n * Nat.pow 128 taken :=
        Nat.mul_le_mul_right _ (Nat.le_of_not_lt hhigh)
      rw [hlast] at hn hle
      omega
    have hrest : n / 128 * Nat.pow 128 (taken + 1) < UInt64.size :=
      Nat.lt_of_le_of_lt (hsplit ▸ Nat.le_add_left _ _) hn
    rw [encode, if_neg hhigh, List.cons_append, decodeFrom, hbyte, if_neg hne,
      if_neg (Nat.not_lt.2 (Nat.le_add_left _ _)), Nat.add_sub_cancel, ih _ (by omega) hrest,
      Nat.add_assoc, hsplit]

theorem decode?_encode {n : Nat} (h : n < UInt64.size) (rest : List UInt8) :
    decode? (encode n ++ rest) = some (n, rest) := by
  have hone : n * Nat.pow 128 0 = n := Nat.mul_one n
  have hfrom := decodeFrom_encode 0 rest (Nat.zero_le 9) (by rwa [hone])
  rwa [hone, Nat.zero_add] at hfrom

theorem length_encode_pos (n : Nat) : 0 < (encode n).length := by
  rw [encode]
  split
  · exact Nat.zero_lt_one
  · exact Nat.succ_pos _

end Varint

theorem split?_append (bytes rest : List UInt8) {n : Nat} (h : bytes.length = n) :
    split? n (bytes ++ rest) = some (bytes, rest) := by
  subst h
  rw [split?, if_pos (by simp), List.take_left, List.drop_left]

theorem split?_littleEndian (width n : Nat) (rest : List UInt8) :
    split? width (littleEndian width n ++ rest) = some (littleEndian width n, rest) :=
  split?_append _ rest (length_littleEndian width n)

/-- How many tags there are: a key is a number of thirty-two bits, three of which say the form. -/
def tagLimit : Nat := UInt32.size / 8

namespace Field

/-- The tag and the numbers of a field are those that can be written. -/
structure Proper (f : Field) : Prop where
  positive : 0 < f.tag
  limited : f.tag < tagLimit
  varint : ∀ n, f.value = .varint n → n < UInt64.size
  fixed64 : ∀ n, f.value = .fixed64 n → n < UInt64.size
  fixed32 : ∀ n, f.value = .fixed32 n → n < UInt32.size

theorem Proper.bytes {tag : Nat} (hpos : 0 < tag) (hlt : tag < tagLimit) (b : List UInt8) :
    Proper ⟨tag, .bytes b⟩ :=
  ⟨hpos, hlt, fun _ h => (by cases h), fun _ h => (by cases h), fun _ h => (by cases h)⟩

theorem key?_key {tag form : Nat} (hpos : 0 < tag) (hlt : tag < tagLimit) (hform : form < 8)
    (rest : List UInt8) : key? (key tag form ++ rest) = some (tag, form, rest) := by
  have hlimit : tagLimit * 8 = UInt32.size := by decide
  have hsize : UInt32.size < UInt64.size := by decide
  have hread := Varint.decode?_encode (n := tag * 8 + form) (by omega) rest
  have htag : (tag * 8 + form) / 8 = tag := by omega
  have hrem : (tag * 8 + form) % 8 = form := by omega
  rw [key?, key, hread]
  simp only [Option.bind_eq_bind, Option.bind_some]
  rw [if_neg (by omega), htag, hrem]

theorem decode?_encode {f : Field} (h : f.Proper) (hlen : f.encode.length < UInt64.size)
    (limit : Nat) (rest : List UInt8) : decode? limit (f.encode ++ rest) = some (f, rest) := by
  obtain ⟨hpos, hlt, hvarint, hfixed64, hfixed32⟩ := h
  obtain ⟨tag, value⟩ := f
  cases value with
  | varint n =>
    simp only [encode, List.append_assoc, decode?, key?_key hpos hlt (show 0 < 8 by decide),
      Option.bind_eq_bind, Option.bind_some, plain?, Varint.decode?_encode (hvarint n rfl)]
    rfl
  | fixed64 n =>
    have hback : fromLittleEndian (littleEndian 8 n) = n :=
      fromLittleEndian_littleEndian (hfixed64 n rfl)
    simp only [encode, List.append_assoc, decode?, key?_key hpos hlt (show 1 < 8 by decide),
      Option.bind_eq_bind, Option.bind_some, plain?, split?_littleEndian, Option.map_some, hback]
    rfl
  | bytes b =>
    have hb : b.length < UInt64.size := by
      simp only [encode, List.length_append] at hlen
      omega
    simp only [encode, List.append_assoc, decode?, key?_key hpos hlt (show 2 < 8 by decide),
      Option.bind_eq_bind, Option.bind_some, plain?, Varint.decode?_encode hb,
      split?_append b rest rfl]
    rfl
  | fixed32 n =>
    have hback : fromLittleEndian (littleEndian 4 n) = n :=
      fromLittleEndian_littleEndian (hfixed32 n rfl)
    simp only [encode, List.append_assoc, decode?, key?_key hpos hlt (show 5 < 8 by decide),
      Option.bind_eq_bind, Option.bind_some, plain?, split?_littleEndian, Option.map_some, hback]
    rfl
  | group =>
    -- A group without fields ends where it begins.
    have hfuel : ∃ k, (key tag 4 ++ rest).length = k + 1 := by
      have hkey := Varint.length_encode_pos (tag * 8 + 4)
      refine ⟨(key tag 4 ++ rest).length - 1, ?_⟩
      rw [List.length_append, key]
      omega
    obtain ⟨k, hk⟩ := hfuel
    have hskip : skipGroups limit (k + 1) [tag] (key tag 4 ++ rest) = some rest := by
      rw [skipGroups, key?_key hpos hlt (show 4 < 8 by decide)]
      simp only [↓reduceIte, skipGroups]
    simp only [encode, List.append_assoc, decode?, key?_key hpos hlt (show 3 < 8 by decide),
      Option.bind_eq_bind, Option.bind_some, hk, hskip]
    rfl

theorem encode_eq_key_append (f : Field) : ∃ form rest, f.encode = key f.tag form ++ rest := by
  obtain ⟨tag, value⟩ := f
  cases value with
  | varint n => exact ⟨0, _, rfl⟩
  | fixed64 n => exact ⟨1, _, rfl⟩
  | bytes b => exact ⟨2, _, List.append_assoc ..⟩
  | group => exact ⟨3, _, rfl⟩
  | fixed32 n => exact ⟨5, _, rfl⟩

theorem length_encode_pos (f : Field) : 0 < f.encode.length := by
  obtain ⟨form, rest, h⟩ := f.encode_eq_key_append
  rw [h, List.length_append]
  exact Nat.add_pos_left (Varint.length_encode_pos _) _

theorem length_bytes_le (tag : Nat) (b : List UInt8) :
    b.length ≤ (encode ⟨tag, .bytes b⟩).length := by
  simp only [encode, List.length_append]
  omega

end Field

theorem length_encode_le_join {f : Field} {fs : List Field} (h : f ∈ fs) :
    f.encode.length ≤ (join fs).length := by
  obtain ⟨before, after, rfl⟩ := List.append_of_mem h
  simp only [join, List.flatMap_append, List.flatMap_cons, List.length_append]
  omega

namespace Field

theorem decodeAll_join {fs : List Field} {fuel : Nat} (h : ∀ f ∈ fs, f.Proper)
    (hlen : (join fs).length < UInt64.size) (hfuel : (join fs).length ≤ fuel) (limit : Nat) :
    decodeAll limit fuel (join fs) = some fs := by
  induction fs generalizing fuel with
  | nil => rw [join, List.flatMap_nil, decodeAll]
  | cons f fs ih =>
    have hcons : join (f :: fs) = f.encode ++ join fs := List.flatMap_cons
    have hpos := f.length_encode_pos
    rw [hcons, List.length_append] at hlen hfuel
    obtain ⟨fuel, rfl⟩ : ∃ k, fuel = k + 1 := ⟨fuel - 1, by omega⟩
    have hfirst := decode?_encode (h f List.mem_cons_self) (by omega) limit (join fs)
    have hrest : decodeAll limit fuel (join fs) = some fs :=
      ih (fun g hg => h g (List.mem_cons_of_mem f hg)) (by omega) (by omega)
    obtain ⟨b, bs, hbytes⟩ : ∃ b bs, f.encode ++ join fs = b :: bs := by
      cases hf : f.encode with
      | nil =>
        rw [hf] at hpos
        cases hpos
      | cons b bs => exact ⟨b, bs ++ join fs, rfl⟩
    rw [hcons, hbytes, decodeAll, ← hbytes, hfirst]
    · simp only [hrest, Option.map_some]
    · exact List.cons_ne_nil b bs

/-- The fields of a message come back, each once and in order. -/
theorem fields?_join {fs : List Field} (h : ∀ f ∈ fs, f.Proper)
    (hlen : (join fs).length < UInt64.size) (limit : Nat) : fields? limit (join fs) = some fs :=
  decodeAll_join h hlen (Nat.le_refl _) limit

end Field

end QueryWatch.Wire
