import QueryWatch.Wire.Field
import QueryWatch.Binary.Word

namespace QueryWatch.Wire

structure Attribute where
  key : String
  value : Option String
  deriving DecidableEq

structure Event where
  time : Option Int64 := none
  state : Option String := none
  service : Option String := none
  host : Option String := none
  description : Option String := none
  tags : List String := []
  ttl : Option Binary32 := none
  attributes : List Attribute := []
  timeMicros : Option Int64 := none
  metric : Option Binary64 := none
  deriving DecidableEq

/-- A message acknowledges or carries events. Absent fields are not written, and of a field that is written
more than once the last counts; unknown fields are passed over, and a known field in the wrong form spoils
the message. -/
structure Message where
  ok : Option Bool := none
  error : Option String := none
  events : List Event := []
  deriving DecidableEq

def utf8 (s : String) : List UInt8 :=
  s.toByteArray.data.toList

def ofUtf8? (bytes : List UInt8) : Option String :=
  String.fromUTF8? ⟨bytes.toArray⟩

def textField (tag : Nat) (s : String) : Field :=
  ⟨tag, .bytes (utf8 s)⟩

/-- An integer goes by its sixty-four bits. -/
def intField (tag : Nat) (n : Int64) : Field :=
  ⟨tag, .varint n.toUInt64.toNat⟩

def join (fields : List Field) : List UInt8 :=
  fields.flatMap Field.encode

namespace Attribute

/-- The key is written even when it is empty. -/
def fields (a : Attribute) : List Field :=
  textField 1 a.key :: (a.value.map (textField 2)).toList

def read (a : Attribute) (f : Field) : Option Attribute :=
  match f.tag, f.value with
  | 1, .bytes b => (ofUtf8? b).map fun s => { a with key := s }
  | 2, .bytes b => (ofUtf8? b).map fun s => { a with value := some s }
  | 1, _ => none
  | 2, _ => none
  | _, _ => some a

def decode? (limit : Nat) (bytes : List UInt8) : Option Attribute := do
  (← Field.fields? limit bytes).foldlM read ⟨"", none⟩

end Attribute

namespace Event

def fields (e : Event) : List Field :=
  (e.time.map (intField 1)).toList ++ (e.state.map (textField 2)).toList ++
    (e.service.map (textField 3)).toList ++ (e.host.map (textField 4)).toList ++
    (e.description.map (textField 5)).toList ++ e.tags.map (textField 7) ++
    (e.ttl.map fun x => Field.mk 8 (.fixed32 x.bits.toNat)).toList ++
    e.attributes.map (fun a => ⟨9, .bytes (join a.fields)⟩) ++
    (e.timeMicros.map (intField 10)).toList ++
    (e.metric.map fun x => Field.mk 14 (.fixed64 x.bits.toNat)).toList

def read (limit : Nat) (e : Event) (f : Field) : Option Event :=
  match f.tag, f.value with
  | 1, .varint n => some { e with time := some n.toUInt64.toInt64 }
  | 2, .bytes b => (ofUtf8? b).map fun s => { e with state := some s }
  | 3, .bytes b => (ofUtf8? b).map fun s => { e with service := some s }
  | 4, .bytes b => (ofUtf8? b).map fun s => { e with host := some s }
  | 5, .bytes b => (ofUtf8? b).map fun s => { e with description := some s }
  | 7, .bytes b => (ofUtf8? b).map fun s => { e with tags := e.tags ++ [s] }
  | 8, .fixed32 n => some { e with ttl := some ⟨n.toUInt32⟩ }
  | 9, .bytes b =>
    (Attribute.decode? (limit - 1) b).map fun a => { e with attributes := e.attributes ++ [a] }
  | 10, .varint n => some { e with timeMicros := some n.toUInt64.toInt64 }
  | 14, .fixed64 n => some { e with metric := some ⟨n.toUInt64⟩ }
  | tag, _ => if tag ∈ [1, 2, 3, 4, 5, 7, 8, 9, 10, 14] then none else some e

def decode? (limit : Nat) (bytes : List UInt8) : Option Event := do
  (← Field.fields? limit bytes).foldlM (read limit) {}

end Event

namespace Message

def ack : Message := { ok := some true }

def ofEvents (events : List Event) : Message := { events := events }

def fields (m : Message) : List Field :=
  (m.ok.map fun b => Field.mk 2 (.varint (if b then 1 else 0))).toList ++
    (m.error.map (textField 3)).toList ++ m.events.map fun e => ⟨6, .bytes (join e.fields)⟩

def read (m : Message) (f : Field) : Option Message :=
  match f.tag, f.value with
  | 2, .varint n => some { m with ok := some (n != 0) }
  | 3, .bytes b => (ofUtf8? b).map fun s => { m with error := some s }
  | 6, .bytes b =>
    (Event.decode? (Field.depthLimit - 1) b).map fun e => { m with events := m.events ++ [e] }
  | tag, _ => if tag ∈ [2, 3, 6] then none else some m

def encode (m : Message) : List UInt8 :=
  join m.fields

def decode? (bytes : List UInt8) : Option Message := do
  (← Field.fields? Field.depthLimit bytes).foldlM read {}

def bigEndian32 (n : Nat) : List UInt8 :=
  (littleEndian 4 n).reverse

/-- The message behind its length in four bytes. -/
def encodeFramed (m : Message) : List UInt8 :=
  bigEndian32 m.encode.length ++ m.encode

end Message

end QueryWatch.Wire
