import QueryWatch.Proofs.Wire.Endian

namespace QueryWatch.Sink

open Wire.Message (bigEndian32)

def Read.content : Read → List UInt8
  | .bytes b => b
  | .interrupted => []

def content (reads : List Read) : List UInt8 :=
  reads.flatMap Read.content

/-- The bytes that an acknowledgment goes in. -/
def framed (body : List UInt8) : List UInt8 :=
  bigEndian32 body.length ++ body

@[simp] theorem length_framed (body : List UInt8) : (framed body).length = body.length + 4 := by
  simp [framed, Nat.add_comm]

theorem content_append (a b : List Read) : content (a ++ b) = content a ++ content b :=
  List.flatMap_append

theorem content_of_readExact {ending : Ending} {n : Nat} {reads rest : List Read}
    {taken : List UInt8} (h : readExact ending n reads = .ok (taken, rest)) :
    content reads = taken ++ content rest ∧ taken.length = n := by
  induction n, reads using readExact.induct generalizing taken rest with
  | case1 reads =>
    rw [readExact] at h
    cases h
    exact ⟨rfl, rfl⟩
  | case2 n =>
    rw [readExact] at h
    cases h
  | case3 n reads ih =>
    rw [readExact] at h
    exact ih h
  | case4 n b reads hb ih =>
    rw [readExact, if_pos hb] at h
    cases hread : readExact ending (n + 1 - b.length) reads with
    | error e =>
      rw [hread] at h
      cases h
    | ok r =>
      obtain ⟨taken', rest'⟩ := r
      rw [hread] at h
      cases h
      obtain ⟨hcontent, hlength⟩ := ih hread
      refine ⟨?_, ?_⟩
      · rw [List.append_assoc, ← hcontent]
        rfl
      · rw [List.length_append, hlength]
        omega
  | case5 n b reads hb =>
    rw [readExact, if_neg hb] at h
    cases h
    refine ⟨?_, ?_⟩
    · change b ++ content reads = b.take (n + 1) ++ (b.drop (n + 1) ++ content reads)
      rw [← List.append_assoc, List.take_append_drop]
    · rw [List.length_take]
      omega

theorem of_bind_ok {α β : Type} {x : Except Fault α} {f : α → Except Fault β} {b : β}
    (h : x >>= f = .ok b) : ∃ a, x = .ok a ∧ f a = .ok b := by
  cases x with
  | error e => cases h
  | ok a => exact ⟨a, rfl, h⟩

/-- A positive acknowledgment that was read stood at the front, whole. -/
theorem content_of_readAck {ending : Ending} {reads rest : List Read}
    (h : readAck ending reads = .ok rest) :
    ∃ body, verdict body = .ok () ∧ body.length ≤ longestAck ∧
      content reads = framed body ++ content rest := by
  obtain ⟨⟨head, afterHead⟩, hhead, h⟩ := of_bind_ok h
  obtain ⟨hcontent, hfour⟩ := content_of_readExact hhead
  simp only at h
  split at h
  · cases h
  · next hlong =>
    obtain ⟨⟨body, afterBody⟩, hbody, h⟩ := of_bind_ok h
    obtain ⟨hrest, hlength⟩ := content_of_readExact hbody
    obtain ⟨⟨⟩, hverdict, h⟩ := of_bind_ok h
    cases h
    refine ⟨body, hverdict, by omega, ?_⟩
    rw [hcontent, hrest, framed, hlength, bigEndian32_bigEndian hfour, List.append_assoc]

theorem framed_prefix {a b : List UInt8} (ha : a.length < UInt32.size) (hb : b.length < UInt32.size)
    (h : framed a <+: framed b) : a = b := by
  obtain ⟨tail, ht⟩ := h
  rw [framed, framed, List.append_assoc] at ht
  obtain ⟨hhead, hbody⟩ := List.append_inj ht (by simp)
  have hlength : a.length = b.length := by
    rw [← bigEndian_bigEndian32 ha, hhead, bigEndian_bigEndian32 hb]
  exact (List.append_inj (hbody.trans (List.append_nil b).symm) hlength).1

end QueryWatch.Sink
