import QueryWatch.Proofs.Monitor.Reading
import QueryWatch.Sink.Endpoint

namespace QueryWatch.Sink

/-- Bytes that are a positive acknowledgment and some more. -/
structure Acknowledged (bytes body rest : List UInt8) : Prop where
  frame : bytes = framed body ++ rest
  short : body.length ≤ 1048576
  positive : ∃ m, Wire.Message.decode? body = some m ∧ m.ok = some true

theorem verdict_eq_ok_iff {body : List UInt8} :
    verdict body = .ok () ↔ ∃ m, Wire.Message.decode? body = some m ∧ m.ok = some true := by
  unfold verdict
  cases Wire.Message.decode? body with
  | none => simp
  | some m => simp

def takeBytes (ending : Ending) (n : Nat) (bytes : List UInt8) : Except Fault (List UInt8 × List UInt8) :=
  if n ≤ bytes.length then .ok (bytes.take n, bytes.drop n) else .error ending.fault

def takeAck (ending : Ending) (bytes : List UInt8) : Except Fault (List UInt8) := do
  let (head, bytes) ← takeBytes ending 4 bytes
  let length := bigEndian head
  if longestAck < length then .error (.oversized length)
  let (body, bytes) ← takeBytes ending length bytes
  verdict body
  return bytes

theorem takeBytes_append {ending : Ending} {n : Nat} {a b : List UInt8} (h : a.length = n) :
    takeBytes ending n (a ++ b) = .ok (a, b) := by
  have hle : n ≤ (a ++ b).length := by
    rw [List.length_append, h]
    exact Nat.le_add_right n b.length
  rw [takeBytes, if_pos hle, List.take_left' h, List.drop_left' h]

theorem eq_append_of_takeBytes {ending : Ending} {n : Nat} {bytes a b : List UInt8}
    (h : takeBytes ending n bytes = .ok (a, b)) : bytes = a ++ b ∧ a.length = n := by
  unfold takeBytes at h
  split at h
  · next hle =>
    cases h
    exact ⟨(List.take_append_drop n bytes).symm, List.length_take_of_le hle⟩
  · cases h

theorem takeBytes_chunk {ending : Ending} {n : Nat} {chunk bytes : List UInt8} (h : chunk.length ≤ n) :
    takeBytes ending n (chunk ++ bytes) =
      (takeBytes ending (n - chunk.length) bytes).map fun (taken, rest) => (chunk ++ taken, rest) := by
  unfold takeBytes
  by_cases hn : n - chunk.length ≤ bytes.length
  · have hle : n ≤ (chunk ++ bytes).length := by
      rw [List.length_append]
      omega
    rw [if_pos hn, if_pos hle, List.take_append, List.drop_append, List.take_of_length_le h,
      List.drop_of_length_le h, List.nil_append]
    rfl
  · have hgt : ¬n ≤ (chunk ++ bytes).length := by
      rw [List.length_append]
      omega
    rw [if_neg hn, if_neg hgt]
    rfl

theorem map_readExact (ending : Ending) (n : Nat) (reads : List Read) :
    (readExact ending n reads).map (fun (taken, rest) => (taken, content rest)) =
      takeBytes ending n (content reads) := by
  induction n, reads using readExact.induct with
  | case1 reads =>
    rw [readExact]
    exact (takeBytes_append (a := []) rfl).symm
  | case2 n =>
    rw [readExact]
    rfl
  | case3 n reads ih =>
    rw [readExact]
    exact ih
  | case4 n chunk reads hfits ih =>
    have hcontent : content (.bytes chunk :: reads) = chunk ++ content reads := rfl
    rw [readExact, if_pos hfits, hcontent, takeBytes_chunk hfits, ← ih]
    cases readExact ending (n + 1 - chunk.length) reads <;> rfl
  | case5 n chunk reads hlong =>
    have hcontent : content (.bytes chunk :: reads) =
        chunk.take (n + 1) ++ (chunk.drop (n + 1) ++ content reads) := by
      rw [← List.append_assoc, List.take_append_drop]
      rfl
    have hlength : (chunk.take (n + 1)).length = n + 1 := List.length_take_of_le (by omega)
    rw [readExact, if_neg hlong, hcontent, takeBytes_append hlength]
    rfl

/-- Two chains that agree in their first step up to a view of its result, and then on what they see. -/
theorem map_bind_eq {α β γ δ : Type} {x : Except Fault α} {y : Except Fault β} {view : α → β}
    (hx : x.map view = y) {f : α → Except Fault γ} {g : β → Except Fault δ} {h : γ → δ}
    (hf : ∀ a, (f a).map h = g (view a)) : (x >>= f).map h = y >>= g := by
  subst hx
  cases x with
  | error fault => rfl
  | ok a => exact hf a

theorem map_readAck (ending : Ending) (reads : List Read) :
    (readAck ending reads).map content = takeAck ending (content reads) := by
  unfold readAck takeAck
  apply map_bind_eq (map_readExact ending 4 reads)
  rintro ⟨head, afterHead⟩
  simp only
  split
  · rfl
  · apply map_bind_eq (map_readExact ending (bigEndian head) afterHead)
    rintro ⟨body, afterBody⟩
    simp only
    cases verdict body <;> rfl

theorem Acknowledged.takeAck {bytes body rest : List UInt8} (h : Acknowledged bytes body rest)
    (ending : Ending) : takeAck ending bytes = .ok rest := by
  have hsize : body.length < UInt32.size := Nat.lt_of_le_of_lt h.short (by decide)
  have hlong : ¬longestAck < body.length := Nat.not_lt.2 h.short
  have hhead : takeBytes ending 4 bytes = .ok (Wire.Message.bigEndian32 body.length, body ++ rest) := by
    rw [h.frame, framed, List.append_assoc]
    exact takeBytes_append (Wire.Message.length_bigEndian32 _)
  have hbody : takeBytes ending body.length (body ++ rest) = .ok (body, rest) := takeBytes_append rfl
  simp only [Sink.takeAck, hhead, bind, Except.bind, bigEndian_bigEndian32 hsize, if_neg hlong, hbody,
    verdict_eq_ok_iff.2 h.positive]
  rfl

theorem acknowledged_of_takeAck {ending : Ending} {bytes rest : List UInt8}
    (h : takeAck ending bytes = .ok rest) : ∃ body, Acknowledged bytes body rest := by
  obtain ⟨⟨head, afterHead⟩, hhead, h⟩ := of_bind_ok h
  obtain ⟨hbytes, hfour⟩ := eq_append_of_takeBytes hhead
  simp only at h
  split at h
  · cases h
  · next hlong =>
    obtain ⟨⟨body, afterBody⟩, hbody, h⟩ := of_bind_ok h
    obtain ⟨hrest, hlength⟩ := eq_append_of_takeBytes hbody
    obtain ⟨⟨⟩, hverdict, h⟩ := of_bind_ok h
    cases h
    refine ⟨body, ?_, ?_, verdict_eq_ok_iff.1 hverdict⟩
    · rw [hbytes, hrest, framed, hlength, bigEndian32_bigEndian hfour, List.append_assoc]
    · rw [hlength]
      exact Nat.not_lt.1 hlong

namespace Endpoint

theorem map_exchange {r : Reaction} (hw : r.write = none) (unread : List Read) :
    (exchange r unread).map content = takeAck r.ending (content (unread ++ r.reads)) := by
  rw [exchange, hw]
  exact map_readAck r.ending (unread ++ r.reads)

theorem write_of_exchange {r : Reaction} {unread rest : List Read} (h : exchange r unread = .ok rest) :
    r.write = none := by
  unfold exchange at h
  split at h
  · cases h
  · next hw => exact hw

theorem acknowledged_of_exchange {r : Reaction} {unread rest : List Read}
    (h : exchange r unread = .ok rest) :
    ∃ body, Acknowledged (content (unread ++ r.reads)) body (content rest) := by
  have htaken : takeAck r.ending (content (unread ++ r.reads)) = .ok (content rest) := by
    rw [← map_exchange (write_of_exchange h), h]
    rfl
  exact acknowledged_of_takeAck htaken

theorem exchange_of_acknowledged {r : Reaction} {unread : List Read} {body rest : List UInt8}
    (hw : r.write = none) (h : Acknowledged (content (unread ++ r.reads)) body rest) :
    ∃ left, exchange r unread = .ok left ∧ content left = rest := by
  have hmap := (map_exchange hw unread).trans (h.takeAck r.ending)
  cases hx : exchange r unread with
  | error fault =>
    rw [hx] at hmap
    cases hmap
  | ok left =>
    rw [hx] at hmap
    cases hmap
    exact ⟨left, rfl, rfl⟩

theorem exchange_eq_ok_iff {r : Reaction} {unread : List Read} :
    (∃ left, exchange r unread = .ok left) ↔
      r.write = none ∧ ∃ body rest, Acknowledged (content (unread ++ r.reads)) body rest := by
  constructor
  · rintro ⟨left, h⟩
    obtain ⟨body, hbody⟩ := acknowledged_of_exchange h
    exact ⟨write_of_exchange h, body, content left, hbody⟩
  · rintro ⟨hw, body, rest, h⟩
    obtain ⟨left, hleft, -⟩ := exchange_of_acknowledged hw h
    exact ⟨left, hleft⟩

/-- An exchange succeeds if and only if the bytes that came begin with a positive acknowledgment, and then
what is left are the bytes behind it; otherwise it fails. How the bytes were cut does not matter. -/
theorem acknowledgment_recognized (r : Reaction) (unread : List Read) :
    ((∃ left, exchange r unread = .ok left) ↔
      r.write = none ∧ ∃ body rest, Acknowledged (content (unread ++ r.reads)) body rest) ∧
    (∀ left, exchange r unread = .ok left → ∃ body,
      Acknowledged (content (unread ++ r.reads)) body (content left) ∧
        content left = (content (unread ++ r.reads)).drop (4 + body.length)) ∧
    ((∃ fault, exchange r unread = .error fault) ↔
      ¬(r.write = none ∧ ∃ body rest, Acknowledged (content (unread ++ r.reads)) body rest)) ∧
    ∀ (r' : Reaction) (unread' : List Read), r'.write = r.write → r'.ending = r.ending →
      content (unread' ++ r'.reads) = content (unread ++ r.reads) →
        (exchange r' unread').map content = (exchange r unread).map content := by
  refine ⟨exchange_eq_ok_iff, ?_, ?_, ?_⟩
  · intro left h
    obtain ⟨body, hbody⟩ := acknowledged_of_exchange h
    refine ⟨body, hbody, ?_⟩
    rw [hbody.frame, List.drop_left' (by rw [length_framed, Nat.add_comm])]
  · rw [← exchange_eq_ok_iff]
    cases exchange r unread <;> simp
  · intro r' unread' hwrite hending hcontent
    cases hw : r.write with
    | some fault => rw [exchange, exchange, hwrite, hw]
    | none =>
      rw [map_exchange hw, map_exchange (hwrite.trans hw), hending, hcontent]

end Endpoint

/-- An acknowledgment in four pieces, with an interruption among them and the next message behind it. -/
example :
    (readAck .closed
      [.bytes [0, 0], .interrupted, .bytes [0, 2, 16], .bytes [1, 7, 8], .bytes [9]]).map content =
        .ok [7, 8, 9] := by
  cbv

end QueryWatch.Sink
