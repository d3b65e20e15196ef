import QueryWatch.Proofs.Wire.Fields
import QueryWatch.Sink.MonitorSink

namespace QueryWatch.Wire

@[simp] theorem ofUtf8?_utf8 (s : String) : ofUtf8? (utf8 s) = some s := by
  change String.fromUTF8? s.toByteArray = some s
  rw [String.fromUTF8?, dif_pos s.isValidUTF8]
  rfl

section

variable {α σ : Type} (read : σ → Field → Option σ)

theorem foldlM_optional (write : α → Field) (set : Option α → σ) (o : Option α)
    (h : ∀ a, o = some a → read (set none) (write a) = some (set (some a))) :
    (o.map write).toList.foldlM read (set none) = some (set o) := by
  cases o with
  | none => rfl
  | some a =>
    rw [Option.map_some, Option.toList_some, List.foldlM_cons, h a rfl]
    rfl

theorem foldlM_repeated (write : α → Field) (set : List α → σ) (values done : List α)
    (h : ∀ done, ∀ a ∈ values, read (set done) (write a) = some (set (done ++ [a]))) :
    (values.map write).foldlM read (set done) = some (set (done ++ values)) := by
  induction values generalizing done with
  | nil =>
    rw [List.append_nil]
    rfl
  | cons a values ih =>
    rw [List.map_cons, List.foldlM_cons, h done a List.mem_cons_self]
    have hrest := ih (done ++ [a]) fun done b hb => h done b (List.mem_cons_of_mem a hb)
    rw [List.append_assoc, List.singleton_append] at hrest
    exact hrest

end

namespace Field

/-- A tag that messages use: positive and small. -/
def Common (tag : Nat) : Prop :=
  0 < tag ∧ tag < 16

instance (tag : Nat) : Decidable (Common tag) :=
  inferInstanceAs (Decidable (_ ∧ _))

theorem Common.lt_tagLimit {tag : Nat} (h : Common tag) : tag < tagLimit :=
  Nat.lt_trans h.2 (by decide)

theorem proper_text {tag : Nat} (h : Common tag) (s : String) : (textField tag s).Proper :=
  .bytes h.1 h.lt_tagLimit _

theorem proper_varint {tag n : Nat} (h : Common tag) (hn : n < UInt64.size) :
    Proper ⟨tag, .varint n⟩ :=
  ⟨h.1, h.lt_tagLimit, fun _ he => Value.varint.inj he ▸ hn, fun _ he => (by cases he),
    fun _ he => (by cases he)⟩

theorem proper_int {tag : Nat} (h : Common tag) (n : Int64) : (intField tag n).Proper :=
  proper_varint h n.toUInt64.toNat_lt

theorem proper_single {tag : Nat} (h : Common tag) (x : Binary32) :
    Proper ⟨tag, .fixed32 x.bits.toNat⟩ :=
  ⟨h.1, h.lt_tagLimit, fun _ he => (by cases he), fun _ he => (by cases he),
    fun _ he => Value.fixed32.inj he ▸ x.bits.toNat_lt⟩

theorem proper_double {tag : Nat} (h : Common tag) (x : Binary64) :
    Proper ⟨tag, .fixed64 x.bits.toNat⟩ :=
  ⟨h.1, h.lt_tagLimit, fun _ he => (by cases he), fun _ he => Value.fixed64.inj he ▸ x.bits.toNat_lt,
    fun _ he => (by cases he)⟩

theorem proper_optional {α : Type} {write : α → Field} (h : ∀ a, (write a).Proper) (o : Option α) :
    ∀ f ∈ (o.map write).toList, f.Proper := by
  intro f hf
  obtain ⟨a, -, rfl⟩ := Option.map_eq_some_iff.1 (Option.mem_toList.1 hf)
  exact h a

theorem proper_repeated {α : Type} {write : α → Field} (h : ∀ a, (write a).Proper) (l : List α) :
    ∀ f ∈ l.map write, f.Proper := by
  intro f hf
  obtain ⟨a, -, rfl⟩ := List.mem_map.1 hf
  exact h a

end Field

open Wire.Field (Common proper_text proper_varint proper_int proper_single proper_double proper_optional
  proper_repeated)

namespace Attribute

theorem proper_fields (a : Attribute) : ∀ f ∈ a.fields, f.Proper := by
  intro f hf
  rcases List.mem_cons.1 hf with rfl | hf
  · exact proper_text (by decide) a.key
  · exact proper_optional (proper_text (by decide)) a.value f hf

theorem decode?_join {a : Attribute} (h : (join a.fields).length < UInt64.size) (limit : Nat) :
    decode? limit (join a.fields) = some a := by
  have hkey : read ⟨"", none⟩ (textField 1 a.key) = some ⟨a.key, none⟩ := by
    simp [read, textField]
  have hvalue := foldlM_optional read (textField 2) (fun v => ⟨a.key, v⟩) a.value
    fun v _ => by simp [read, textField]
  rw [decode?, Field.fields?_join a.proper_fields h]
  simp only [Option.bind_eq_bind, Option.bind_some, fields, List.foldlM_cons, hkey, hvalue]

end Attribute

namespace Event

theorem proper_fields (e : Event) : ∀ f ∈ e.fields, f.Proper := by
  intro f hf
  simp only [fields, List.mem_append] at hf
  obtain ((((((((hf | hf) | hf) | hf) | hf) | hf) | hf) | hf) | hf) | hf := hf
  · exact proper_optional (proper_int (by decide)) e.time f hf
  · exact proper_optional (proper_text (by decide)) e.state f hf
  · exact proper_optional (proper_text (by decide)) e.service f hf
  · exact proper_optional (proper_text (by decide)) e.host f hf
  · exact proper_optional (proper_text (by decide)) e.description f hf
  · exact proper_repeated (proper_text (by decide)) e.tags f hf
  · exact proper_optional (proper_single (by decide)) e.ttl f hf
  · exact proper_repeated (fun a => .bytes (by decide) (by decide) (join a.fields)) e.attributes f hf
  · exact proper_optional (proper_int (by decide)) e.timeMicros f hf
  · exact proper_optional (proper_double (by decide)) e.metric f hf

theorem length_attribute_lt {e : Event} {a : Attribute} {n : Nat} (ha : a ∈ e.attributes)
    (h : (join e.fields).length < n) : (join a.fields).length < n := by
  have hmem : (⟨9, .bytes (join a.fields)⟩ : Field) ∈ e.fields := by
    simp only [fields, List.mem_append]
    exact .inl (.inl (.inr (List.mem_map_of_mem ha)))
  have hbytes := Field.length_bytes_le 9 (join a.fields)
  have hfield := length_encode_le_join hmem
  omega

theorem decode?_join {e : Event} (h : (join e.fields).length < UInt64.size) (limit : Nat) :
    decode? limit (join e.fields) = some e := by
  obtain ⟨time, state, service, host, description, tags, ttl, attributes, timeMicros, metric⟩ := e
  have htime := foldlM_optional (read limit) (intField 1)
    (fun x => { time := x }) time fun n _ => by simp [read, intField]
  have hstate := foldlM_optional (read limit) (textField 2)
    (fun x => { time, state := x }) state fun s _ => by simp [read, textField]
  have hservice := foldlM_optional (read limit) (textField 3)
    (fun x => { time, state, service := x }) service fun s _ => by simp [read, textField]
  have hhost := foldlM_optional (read limit) (textField 4)
    (fun x => { time, state, service, host := x }) host fun s _ => by simp [read, textField]
  have hdescription := foldlM_optional (read limit) (textField 5)
    (fun x => { time, state, service, host, description := x }) description
    fun s _ => by simp [read, textField]
  have htags := foldlM_repeated (read limit) (textField 7)
    (fun x => { time, state, service, host, description, tags := x }) tags []
    fun done s _ => by simp [read, textField]
  have httl := foldlM_optional (read limit) (fun x : Binary32 => ⟨8, .fixed32 x.bits.toNat⟩)
    (fun x => { time, state, service, host, description, tags, ttl := x }) ttl
    fun x _ => by simp [read]
  have hattributes := foldlM_repeated (read limit)
    (fun a : Attribute => ⟨9, .bytes (join a.fields)⟩)
    (fun x => { time, state, service, host, description, tags, ttl, attributes := x }) attributes []
    fun done a ha => by simp [read, Attribute.decode?_join (length_attribute_lt ha h)]
  have htimeMicros := foldlM_optional (read limit) (intField 10)
    (fun x => { time, state, service, host, description, tags, ttl, attributes, timeMicros := x })
    timeMicros fun n _ => by simp [read, intField]
  have hmetric := foldlM_optional (read limit) (fun x : Binary64 => ⟨14, .fixed64 x.bits.toNat⟩)
    (fun x => { time, state, service, host, description, tags, ttl, attributes, timeMicros, metric := x })
    metric fun x _ => by simp [read]
  rw [decode?, Field.fields?_join (proper_fields _) h]
  simp only [List.nil_append] at htags hattributes
  simp only [Option.bind_eq_bind, Option.bind_some, fields, List.foldlM_append, htime, hstate,
    hservice, hhost, hdescription, htags, httl, hattributes, htimeMicros, hmetric]

end Event

namespace Message

theorem proper_fields (m : Message) : ∀ f ∈ m.fields, f.Proper := by
  intro f hf
  simp only [fields, List.mem_append] at hf
  obtain (hf | hf) | hf := hf
  · refine proper_optional (fun b => proper_varint (by decide) ?_) m.ok f hf
    cases b <;> decide
  · exact proper_optional (proper_text (by decide)) m.error f hf
  · exact proper_repeated (fun e => .bytes (by decide) (by decide) (join e.fields)) m.events f hf

theorem length_event_lt {m : Message} {e : Event} {n : Nat} (he : e ∈ m.events)
    (h : m.encode.length < n) : (join e.fields).length < n := by
  have hmem : (⟨6, .bytes (join e.fields)⟩ : Field) ∈ m.fields := by
    simp only [fields, List.mem_append]
    exact .inr (List.mem_map_of_mem he)
  have hbytes := Field.length_bytes_le 6 (join e.fields)
  have hfield : _ ≤ m.encode.length := length_encode_le_join hmem
  omega

theorem decode?_encode {m : Message} (h : m.encode.length < UInt64.size) :
    decode? m.encode = some m := by
  obtain ⟨ok, error, events⟩ := m
  have hok := foldlM_optional read (fun b : Bool => ⟨2, .varint (if b then 1 else 0)⟩)
    (fun x => { ok := x }) ok
    fun b _ => by cases b <;> simp [read]
  have herror := foldlM_optional read (textField 3)
    (fun x => { ok, error := x }) error fun s _ => by simp [read, textField]
  have hevents := foldlM_repeated read (fun e : Event => ⟨6, .bytes (join e.fields)⟩)
    (fun x => { ok, error, events := x }) events []
    fun done e he => by simp [read, Event.decode?_join (length_event_lt he h)]
  rw [decode?, encode, Field.fields?_join (proper_fields _) h]
  simp only [List.nil_append] at hevents
  simp only [Option.bind_eq_bind, Option.bind_some, fields, List.foldlM_append, hok, herror, hevents]

end Message

end QueryWatch.Wire

namespace QueryWatch.Sink

open Wire

theorem Endpoint.frame_send (peer : Nat → Reaction) (frame : List UInt8) (e : Endpoint) :
    (e.send peer frame).1.frame = frame := by
  unfold send
  simp only
  split <;> rfl

/-- A measurement is told by bytes behind a length: they are a message with one event, which gives the name,
all fields and the value of the measurement back. -/
def Conveys (m : Measurement) (bytes : List UInt8) : Prop :=
  ∃ e : Event, Message.decode? (bytes.drop 4) = some { ok := none, error := none, events := [e] } ∧
    e.service = some m.name ∧
    KeyMap.ofList (e.attributes.filterMap fun a => a.value.map fun v => (a.key, v)) = m.fields ∧
    e.metric = m.value ∧ (m.kind = .complex ↔ e.metric = none)

namespace MonitorSink

theorem frame_of_mem_attempt {peer : Nat → Reaction} {frame : List UInt8} {n : Nat} {e : Endpoint}
    {a : Attempt} (h : a ∈ (attempt peer frame n e).1) : a.frame = frame := by
  induction n generalizing e with
  | zero => cases h
  | succ n ih =>
    have hfirst := e.frame_send peer frame
    rw [attempt] at h
    simp only at h
    split at h
    · rw [List.mem_singleton.1 h]
      exact hfirst
    · rcases List.mem_cons.1 h with rfl | h
      · exact hfirst
      · exact ih h

theorem conveys_frame {s : MonitorSink} {m : Measurement}
    (h : (Message.ofEvents [s.event m]).encode.length < UInt64.size) : Conveys m (s.frame m) := by
  refine ⟨s.event m, Message.decode?_encode h, rfl, ?_, rfl, ?_⟩
  · have hpairs : (s.event m).attributes.filterMap (fun a => a.value.map fun v => (a.key, v)) =
        m.fields.entries := by
      rw [event, List.filterMap_map]
      exact List.filterMap_some
    rw [hpairs, KeyMap.ofList_entries]
  · change m.kind = .complex ↔ m.value = none
    rw [Measurement.kind]
    cases m.value <;> simp

end MonitorSink

end QueryWatch.Sink

namespace QueryWatch.Wire.Message

open Sink (bigEndian bigEndian_bigEndian32 MonitorSink Endpoint Conveys)

/-- A message goes as its length, in four bytes with the high ones first, and its body; the length and the
message can be read off them. -/
structure Travels (m : Message) : Prop where
  frame : m.encodeFramed =
    [(m.encode.length / 16777216).toUInt8, (m.encode.length / 65536).toUInt8,
      (m.encode.length / 256).toUInt8, m.encode.length.toUInt8] ++ m.encode
  length : bigEndian (m.encodeFramed.take 4) = m.encode.length
  body : decode? m.encode = some m

theorem bigEndian32_eq (n : Nat) :
    bigEndian32 n = [(n / 16777216).toUInt8, (n / 65536).toUInt8, (n / 256).toUInt8, n.toUInt8] := by
  have hbyte (k : Nat) : (k % 256).toUInt8 = k.toUInt8 := by
    apply UInt8.toNat_inj.1
    simp
  simp only [bigEndian32, littleEndian, hbyte, Nat.div_div_eq_div_mul]
  rfl

theorem travels {m : Message} (h : m.encode.length < UInt32.size) : m.Travels where
  frame := by rw [encodeFramed, bigEndian32_eq]
  length := by
    rw [encodeFramed, List.take_left' (length_bigEndian32 _), bigEndian_bigEndian32 h]
  body := decode?_encode (Nat.lt_trans h (by decide))

/-- Messages that fit behind a length of four bytes read back bit for bit, whatever they hold; what the
monitoring sink sends of a measurement gives the measurement back. -/
theorem frames_read_back :
    (∀ m : Message, m.encode.length < UInt32.size → m.Travels) ∧
      ∀ (s : MonitorSink) (m : Measurement),
        (ofEvents [s.event m]).encode.length < UInt32.size →
          (ofEvents [s.event m]).Travels ∧ Conveys m (s.frame m) ∧
            ∀ (e : Endpoint),
              ∀ a ∈ (MonitorSink.attempt s.peer (s.frame m) MonitorSink.tries e).1,
                a.frame = s.frame m := by
  refine ⟨fun m h => travels h, fun s m h => ⟨travels h, ?_, fun e a ha => ?_⟩⟩
  · exact MonitorSink.conveys_frame (Nat.lt_trans h (by decide))
  · exact MonitorSink.frame_of_mem_attempt ha

def oddMessage : Message where
  ok := some false
  error := some "a\"b"
  events :=
    [{ time := some (-1), service := some "", tags := ["", "k:v"], ttl := some ⟨0xffc00001⟩
       attributes := [⟨"", none⟩, ⟨"k", some ""⟩], metric := some ⟨0x7ff8000000000001⟩ }, {}]

def plainSink : MonitorSink where
  kind := "monitor"
  hostname := "n1"
  ttl := ⟨0x41f00000⟩
  state := "ok"
  endpoint := none
  peer _ := {}

def oddMeasurement : Measurement :=
  .complex "beat" (-5) .seconds ∅ (.ofList [("", ""), ("k", "=\"")])

theorem frames_read_back_odd :
    (oddMessage.encode.length < UInt32.size ∧ oddMessage.Travels) ∧
      (ofEvents [plainSink.event oddMeasurement]).encode.length < UInt32.size ∧
        Conveys oddMeasurement (plainSink.frame oddMeasurement) := by
  have hmessage : oddMessage.encode.length < UInt32.size := by decide +kernel
  have hevent : (ofEvents [plainSink.event oddMeasurement]).encode.length < UInt32.size := by
    decide +kernel
  exact ⟨⟨hmessage, frames_read_back.1 oddMessage hmessage⟩, hevent,
    (frames_read_back.2 plainSink oddMeasurement hevent).2.1⟩

end QueryWatch.Wire.Message
