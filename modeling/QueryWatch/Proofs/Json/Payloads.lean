import QueryWatch.Encoding.Payload
import QueryWatch.Proofs.Json.Alike

namespace QueryWatch

theorem Measurement.Kind.name_injective {k k' : Kind} (h : k.name = k'.name) : k = k' := by
  cases k <;> cases k' <;> simp_all [Kind.name]

theorem TimeUnit.name_injective {u v : TimeUnit} (h : u.name = v.name) : u = v := by
  have hu := find?_name u
  rw [h, find?_name v] at hu
  exact (Option.some.inj hu).symm

namespace Encoding

open Json (Alike AlikeMembers alike_of_render)

theorem entries_eq_of_alike {es fs : List (String × String)}
    (h : AlikeMembers (es.map fun e => (e.1, Json.string e.2)) (fs.map fun e => (e.1, Json.string e.2))) :
    es = fs := by
  induction es generalizing fs with
  | nil =>
    cases fs with
    | nil => rfl
    | cons f fs => cases h
  | cons e es ih =>
    cases fs with
    | nil => cases h
    | cons f fs =>
      rw [List.map_cons, List.map_cons, Json.alikeMembers_cons_iff, Json.alike_string_iff] at h
      obtain ⟨hkey, hvalue, hrest⟩ := h
      have hentry : e = f := Prod.ext hkey hvalue
      rw [hentry, ih hrest]

theorem labels_eq_of_alike {l l' : Labels} (h : Alike (labelsDocument l) (labelsDocument l')) :
    l = l' :=
  KeyMap.ext (entries_eq_of_alike (Json.alike_object_iff.1 h))

theorem document_eq (m : Measurement) :
    document m = .object (("name", .string m.name) :: ("kind", .string m.kind.name) ::
      ((m.value.map fun x => ("value", Json.float x)).toList ++
        [("time", .int m.time.toInt), ("timeUnit", .string m.unit.name),
          ("tags", labelsDocument m.tags), ("fields", labelsDocument m.fields)])) := by
  unfold document
  cases m.value <;> rfl

theorem value_eq_of_alike {x y : Option Binary64} {ms ns : List (String × Json)}
    (hms : ∀ e ∈ ms.head?, e.1 ≠ "value") (hns : ∀ e ∈ ns.head?, e.1 ≠ "value")
    (h : AlikeMembers ((x.map fun x => ("value", Json.float x)).toList ++ ms)
      ((y.map fun y => ("value", Json.float y)).toList ++ ns)) :
    x.map Json.numberText = y.map Json.numberText ∧ AlikeMembers ms ns := by
  cases x with
  | none =>
    cases y with
    | none => exact ⟨rfl, h⟩
    | some y =>
      cases h with
      | cons name _ _ => exact absurd rfl (hms _ rfl)
  | some x =>
    cases y with
    | none =>
      cases h with
      | cons name _ _ => exact absurd rfl (hns _ rfl)
    | some y =>
      obtain ⟨-, hvalue, hrest⟩ := Json.alikeMembers_cons_iff.1 h
      exact ⟨congrArg some (Json.alike_float_iff.1 hvalue), hrest⟩

theorem eq_of_alike {m n : Measurement} (h : Alike (document m) (document n)) :
    m.name = n.name ∧ m.kind = n.kind ∧ m.time = n.time ∧ m.unit = n.unit ∧ m.tags = n.tags ∧
      m.fields = n.fields ∧ m.value.map Json.numberText = n.value.map Json.numberText := by
  rw [document_eq, document_eq] at h
  simp only [Json.alike_object_iff, Json.alikeMembers_cons_iff, Json.alike_string_iff] at h
  obtain ⟨-, hname, -, hkind, hmembers⟩ := h
  have htime : "time" ≠ "value" := by decide
  obtain ⟨hvalue, hrest⟩ := value_eq_of_alike
    (by rintro e ⟨⟩; exact htime) (by rintro e ⟨⟩; exact htime) hmembers
  simp only [Json.alikeMembers_cons_iff, Json.alike_int_iff, Json.alike_string_iff] at hrest
  obtain ⟨-, htime, -, hunit, -, htags, -, hfields, -⟩ := hrest
  exact ⟨hname, Measurement.Kind.name_injective hkind, Int64.toInt_inj.1 htime,
    TimeUnit.name_injective hunit, labels_eq_of_alike htags, labels_eq_of_alike hfields, hvalue⟩

theorem value_mem_names_iff (m : Measurement) {ms : List (String × Json)}
    (h : Alike (document m) (.object ms)) : "value" ∈ ms.map Prod.fst ↔ m.kind = .simple := by
  rw [document_eq, Json.alike_object_iff] at h
  rw [← h.names_eq, Measurement.kind_eq_simple_iff]
  cases m.value <;> simp

/-- Two measurements that have one document have the same name, kind, time, tags and fields, and values that
are written alike. Of whatever object the document is, it has a value in it if and only if the measurement is
simple. -/
theorem payloads_told_apart (m : Measurement) :
    (∃ ms, PayloadFormat.json.encode m = (Json.object ms).render) ∧
      (∀ ms, PayloadFormat.json.encode m = (Json.object ms).render →
        ("value" ∈ ms.map Prod.fst ↔ m.kind = .simple)) ∧
      ∀ n : Measurement, PayloadFormat.json.encode m = PayloadFormat.json.encode n →
        m.name = n.name ∧ m.kind = n.kind ∧ m.time = n.time ∧ m.unit = n.unit ∧ m.tags = n.tags ∧
          m.fields = n.fields ∧ m.value.map Json.numberText = n.value.map Json.numberText :=
  ⟨⟨_, rfl⟩, fun _ h => value_mem_names_iff m (alike_of_render h),
    fun _ h => eq_of_alike (alike_of_render h)⟩

/-- A measurement with text that has to be escaped. -/
def unprintable (value : Binary64) : Measurement :=
  ⟨"\"\\\n\x00é", some value, -1, .days, .ofList [("value", "\",\""), ("", "\x7d")],
    .ofList [("\\", "\"")]⟩

theorem payloads_told_apart_indefinite :
    let m := unprintable ⟨0x7ff8000000000000⟩
    let n := unprintable ⟨0xfff0000000000000⟩
    PayloadFormat.json.encode m = PayloadFormat.json.encode n ∧ m.value ≠ n.value ∧
      m.name = n.name ∧ m.kind = n.kind ∧ m.time = n.time ∧ m.unit = n.unit ∧ m.tags = n.tags ∧
      m.fields = n.fields ∧ m.value.map Json.numberText = n.value.map Json.numberText := by
  intro m n
  have htext : PayloadFormat.json.encode m = PayloadFormat.json.encode n := by decide +kernel
  obtain ⟨-, -, hsame⟩ := payloads_told_apart m
  exact ⟨htext, by decide +kernel, hsame n htext⟩

end Encoding

end QueryWatch
