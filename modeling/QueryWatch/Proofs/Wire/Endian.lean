import QueryWatch.Sink.Exchange

namespace QueryWatch.Wire

@[simp] theorem length_littleEndian (width n : Nat) : (littleEndian width n).length = width := by
  induction width generalizing n with
  | zero => rfl
  | succ width ih => rw [littleEndian, List.length_cons, ih]

theorem fromLittleEndian_littleEndian {width n : Nat} (h : n < Nat.pow 256 width) :
    fromLittleEndian (littleEndian width n) = n := by
  induction width generalizing n with
  | zero =>
    have hone : n < 1 := h
    rw [littleEndian, fromLittleEndian]
    omega
  | succ width ih =>
    have hdiv : n / 256 < Nat.pow 256 width := by
      have hsucc : n < Nat.pow 256 width * 256 := h
      exact Nat.div_lt_of_lt_mul (by rwa [Nat.mul_comm])
    have hbyte : (n % 256).toUInt8.toNat = n % 256 := by
      simp
    rw [littleEndian, fromLittleEndian, ih hdiv, hbyte]
    omega

theorem littleEndian_fromLittleEndian (bytes : List UInt8) :
    littleEndian bytes.length (fromLittleEndian bytes) = bytes := by
  induction bytes with
  | nil => rfl
  | cons b rest ih =>
    have hlow : (b.toNat + 256 * fromLittleEndian rest) % 256 = b.toNat := by
      have hlt := b.toNat_lt
      omega
    have hhigh : (b.toNat + 256 * fromLittleEndian rest) / 256 = fromLittleEndian rest := by
      have hlt := b.toNat_lt
      omega
    rw [List.length_cons, fromLittleEndian, littleEndian, hlow, hhigh, ih]
    simp

namespace Message

@[simp] theorem length_bigEndian32 (n : Nat) : (bigEndian32 n).length = 4 := by
  simp [bigEndian32]

end Message

end QueryWatch.Wire

namespace QueryWatch.Sink

open Wire.Message (bigEndian32)

theorem bigEndian_bigEndian32 {n : Nat} (h : n < UInt32.size) : bigEndian (bigEndian32 n) = n := by
  rw [bigEndian, bigEndian32, List.reverse_reverse]
  exact Wire.fromLittleEndian_littleEndian h

theorem bigEndian32_bigEndian {bytes : List UInt8} (h : bytes.length = 4) :
    bigEndian32 (bigEndian bytes) = bytes := by
  have hback := Wire.littleEndian_fromLittleEndian bytes.reverse
  rw [List.length_reverse, h] at hback
  rw [bigEndian32, bigEndian, hback, List.reverse_reverse]

end QueryWatch.Sink
