import QueryWatch.Encoding.LogLine
import QueryWatch.Proofs.Encoding.Enumeration
import QueryWatch.Proofs.Line.Fields
import QueryWatch.Sink.MonitorSink

namespace QueryWatch

open Encoding
open Text (Digits.integer)

/-- A measurement whose tags and fields are enumerated in some order, and the sort that they go through.
-/
structure Enumerated (m : Measurement) where
  sort : KeySort String
  tags : Enumeration m.tags
  fields : Enumeration m.fields

theorem foldl_write {α : Type} (write : α → List Char) (text : List Char) (pieces : List α) :
    pieces.foldl (fun text piece => text ++ write piece) text = text ++ pieces.flatMap write := by
  rw [List.foldl_append_eq_append, List.flatMap_def]

namespace Enumerated

variable {m : Measurement}

def sortedTags (e : Enumerated m) : List (String × String) :=
  e.sort.sort e.tags.entries

def sortedFields (e : Enumerated m) : List (String × String) :=
  e.sort.sort e.fields.entries

theorem sortedTags_eq (e : Enumerated m) : e.sortedTags = m.tags.entries :=
  e.sort.sort_eq e.tags

theorem sortedFields_eq (e : Enumerated m) : e.sortedFields = m.fields.entries :=
  e.sort.sort_eq e.fields

def pushField (line : List Char × Bool) (field : List Char) : List Char × Bool :=
  (line.1 ++ (if line.2 then ' ' else ',') :: field, false)

def series (e : Enumerated m) : List Char :=
  let name := Line.escape Line.nameSpecial m.name.toList
  e.sortedTags.foldl (fun line entry => line ++ Line.tag entry) name ++
    ",type=".toList ++ m.kind.name.toList

def withFields (e : Enumerated m) : List Char × Bool :=
  let line := e.sortedFields.foldl (fun line entry => pushField line (Line.field entry))
    (e.series, true)
  match m.value with
  | some x => pushField line ("value=".toList ++ Decimal.fractional x)
  | none => line

def line (e : Enumerated m) : String :=
  let (line, bare) := e.withFields
  String.ofList (if bare then line else line ++ ' ' :: Digits.integer m.timeNanos.toInt)

theorem foldl_pushField_behind (line : List Char) (fields : List (List Char)) :
    fields.foldl pushField (line, false) = (line ++ fields.flatMap (',' :: ·), false) := by
  rw [← foldl_write]
  induction fields generalizing line with
  | nil => rfl
  | cons field fields ih => exact ih _

theorem foldl_pushField (line field : List Char) (fields : List (List Char)) :
    (field :: fields).foldl pushField (line, true) =
      (line ++ ' ' :: [','].intercalate (field :: fields), false) := by
  rw [List.foldl_cons, pushField, foldl_pushField_behind, Line.intercalate_cons, List.append_assoc]
  rfl

theorem series_eq (e : Enumerated m) : e.series = Line.series m := by
  rw [series, Line.series, sortedTags_eq, foldl_write]

theorem withFields_eq (e : Enumerated m) :
    e.withFields = (Line.items m).foldl pushField (Line.series m, true) := by
  rw [withFields, series_eq, sortedFields_eq, Line.items, List.foldl_append, List.foldl_map]
  cases m.value <;> rfl

theorem line_eq (e : Enumerated m) : e.line = Line.encode m := by
  rw [line, withFields_eq, Line.encode, Line.chars]
  cases Line.items m with
  | nil => rfl
  | cons field fields =>
    rw [foldl_pushField]
    dsimp only
    rw [if_neg Bool.false_ne_true, List.append_assoc, List.cons_append]

def pushEntry (text : List Char) (entry : (String × String) × Nat) : List Char :=
  text ++ (if 0 < entry.2 then ", ".toList else []) ++
    (entry.1.1.toList ++ '=' :: entry.1.2.toList)

def braced (entries : List (String × String)) : List Char :=
  entries.zipIdx.foldl pushEntry ['\x7b'] ++ ['\x7d']

def logLine (e : Enumerated m) : String :=
  let start := m.name.toList ++ " [time=".toList ++ Digits.integer m.time.toInt
  let valued := match m.value with
    | some x => start ++ (", value=".toList ++ Decimal.plain.text x)
    | none => start
  String.ofList (valued ++ ", tags=".toList ++ braced e.sortedTags ++
    ", fields=".toList ++ braced e.sortedFields ++ [']'])

theorem foldl_pushEntry_behind (text : List Char) (entries : List (String × String)) (k : Nat) :
    (entries.zipIdx (k + 1)).foldl pushEntry text =
      text ++ entries.flatMap fun e => ", ".toList ++ (e.1.toList ++ '=' :: e.2.toList) := by
  induction entries generalizing text k with
  | nil => exact (List.append_nil text).symm
  | cons entry entries ih =>
    rw [List.zipIdx_cons, List.foldl_cons, ih, pushEntry, if_pos (Nat.succ_pos k), List.flatMap_cons]
    simp only [List.append_assoc]

theorem braced_eq (l : Labels) : braced l.entries = LogLine.labels l := by
  rw [braced, LogLine.labels]
  cases l.entries with
  | nil => rfl
  | cons entry entries =>
    rw [List.zipIdx_cons, List.foldl_cons, foldl_pushEntry_behind, List.map_cons, Line.intercalate_cons,
      List.flatMap_map, pushEntry, if_neg (Nat.lt_irrefl 0), List.append_nil]
    simp only [List.append_assoc]
    rfl

theorem logLine_eq (e : Enumerated m) : e.logLine = LogLine.format m := by
  rw [logLine, LogLine.format, LogLine.chars, sortedTags_eq, sortedFields_eq, braced_eq, braced_eq]
  cases m.value with
  | none => simp only [List.append_assoc, List.nil_append]
  | some x => simp only [List.append_assoc]

def gauge (e : Enumerated m) (lead : Option String) : Option String :=
  m.value.map fun x =>
    let named := (match lead with
      | some s => s.toList ++ ['.']
      | none => []) ++ Gauge.sanitize m.name.toList
    let valued := named ++ ':' :: (Decimal.plain.text x ++ "|g".toList)
    let tags := e.sortedTags.map Gauge.tag
    String.ofList (if tags.isEmpty then valued else valued ++ "|#".toList ++ [','].intercalate tags)

def event (e : Enumerated m) (s : Sink.MonitorSink) : Wire.Event :=
  { s.event m with
    tags := e.sortedTags.map fun entry => entry.1 ++ ":" ++ entry.2
    attributes := e.sortedFields.map fun entry => ⟨entry.1, some entry.2⟩ }

def frame (e : Enumerated m) (s : Sink.MonitorSink) : List UInt8 :=
  (Wire.Message.ofEvents [e.event s]).encodeFramed

theorem gauge_eq (e : Enumerated m) (lead : Option String) : e.gauge lead = Gauge.encode lead m := by
  unfold gauge Gauge.encode
  apply congrArg (Option.map · m.value)
  funext x
  apply congrArg String.ofList
  unfold Gauge.chars Gauge.tagSection
  rw [sortedTags_eq]
  cases m.tags.entries with
  | nil => rfl
  | cons entry entries =>
    have htagged : (List.map Gauge.tag (entry :: entries)).isEmpty = false := rfl
    rw [htagged, if_neg Bool.false_ne_true]
    simp only [List.append_assoc, List.cons_append]
    rfl

theorem event_eq (e : Enumerated m) (s : Sink.MonitorSink) : e.event s = s.event m := by
  rw [event, sortedTags_eq, sortedFields_eq]
  rfl

theorem frame_eq (e : Enumerated m) (s : Sink.MonitorSink) : e.frame s = s.frame m := by
  rw [frame, event_eq]
  rfl

end Enumerated

/-- What is written of a measurement does not depend on the order of its maps. Sorted, the entries of a
map are those of the map, in increasing order of the bytes of their keys, whatever the order was that they
came in and whichever sort they went through; and so all encodings are those of the measurement. -/
theorem encodings_orderless (m : Measurement) (first second : Enumerated m) (lead : Option String)
    (s : Sink.MonitorSink) :
    (first.sortedTags = second.sortedTags ∧ first.sortedFields = second.sortedFields) ∧
      (first.sortedTags.Pairwise (fun a b => Wire.utf8 a.1 < Wire.utf8 b.1) ∧
        first.sortedFields.Pairwise fun a b => Wire.utf8 a.1 < Wire.utf8 b.1) ∧
      ((∀ key value, (key, value) ∈ first.sortedTags ↔ m.tags.get? key = some value) ∧
        ∀ key value, (key, value) ∈ first.sortedFields ↔ m.fields.get? key = some value) ∧
      (first.line = second.line ∧ first.line = Line.encode m) ∧
      (first.logLine = second.logLine ∧ first.logLine = LogLine.format m) ∧
      (first.gauge lead = second.gauge lead ∧ first.gauge lead = Gauge.encode lead m) ∧
      (first.event s = second.event s ∧ first.event s = s.event m) ∧
      (first.frame s = second.frame s ∧ first.frame s = s.frame m) := by
  have htags : first.sortedTags = m.tags.entries := first.sortedTags_eq
  have hfields : first.sortedFields = m.fields.entries := first.sortedFields_eq
  refine ⟨⟨?_, ?_⟩, ⟨?_, ?_⟩, ⟨?_, ?_⟩, ⟨?_, first.line_eq⟩, ⟨?_, first.logLine_eq⟩,
    ⟨?_, first.gauge_eq lead⟩, ⟨?_, first.event_eq s⟩, ⟨?_, first.frame_eq s⟩⟩
  · exact htags.trans second.sortedTags_eq.symm
  · exact hfields.trans second.sortedFields_eq.symm
  · rw [htags]
    exact m.tags.increasing_utf8
  · rw [hfields]
    exact m.fields.increasing_utf8
  · intro key value
    rw [htags, KeyMap.get?_eq_some_iff]
  · intro key value
    rw [hfields, KeyMap.get?_eq_some_iff]
  · exact first.line_eq.trans second.line_eq.symm
  · exact first.logLine_eq.trans second.logLine_eq.symm
  · exact (first.gauge_eq lead).trans (second.gauge_eq lead).symm
  · exact (first.event_eq s).trans (second.event_eq s).symm
  · exact (first.frame_eq s).trans (second.frame_eq s).symm

end QueryWatch
