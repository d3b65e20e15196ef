import QueryWatch.Proofs.Line.Series
import QueryWatch.Proofs.SlowQuery.Construction

namespace QueryWatch.SlowQuery.Watcher

open Encoding

variable {entry : ModuleEntry} {global : GlobalSettings} {w : Watcher}

theorem labels_measurement (h : w.baseTags = global.baseTags) (e : QueryEvent) :
    Line.labels (w.measurement e) =
      [("host", global.hostname), ("keyspace", e.keyspace), ("systemName", global.systemName),
        ("table", e.table), ("type", "SIMPLE")] := by
  rw [Line.labels, entries_tags h]
  rfl

theorem tables_eq_of_series_eq (hw : w.baseTags = global.baseTags) {e e' : QueryEvent}
    (h : Line.series (w.measurement e) = Line.series (w.measurement e')) :
    e.keyspace = e'.keyspace ∧ e.table = e'.table := by
  have hname : (w.measurement e).name = (w.measurement e').name := rfl
  rw [Line.series_eq, Line.series_eq, hname] at h
  have htags := List.append_cancel_left h
  rw [labels_measurement hw e, labels_measurement hw e'] at htags
  have hplain : ∀ key ∈ ["host", "keyspace", "systemName", "table", "type"], Line.IsPlainKey key := by
    decide
  have hlabels := Line.tags_inj_of_keys (by rfl)
    (fun e he => hplain e.1 (by exact List.mem_map_of_mem he)) htags
  simp only [List.cons.injEq, Prod.mk.injEq, true_and, and_true] at hlabels
  exact hlabels

theorem mem_transform_iff {f : Decider → Decider} {e : QueryEvent} {m : Measurement} :
    m ∈ (ModuleUnit.transform e (w.mapDecider f)).2 ↔
      (f w.decider).shouldReport e.executionMicros e.keyspace e.table = true ∧
        m = w.measurement e := by
  have htransform : (ModuleUnit.transform e (w.mapDecider f)).2 =
      if (f w.decider).shouldReport e.executionMicros e.keyspace e.table then [w.measurement e]
      else [] := rfl
  rw [htransform]
  split <;> simp [*]

/-- Two slow queries of one module that have one line came from the same client at the same time, for the
same table and in the same words. -/
theorem slow_queries_told_apart (hw : build entry global = .ok w) {f f' : Decider → Decider}
    {e e' : QueryEvent} {m m' : Measurement}
    (hm : m ∈ (ModuleUnit.transform e (w.mapDecider f)).2)
    (hm' : m' ∈ (ModuleUnit.transform e' (w.mapDecider f')).2)
    (h : Line.encode m = Line.encode m') :
    e.keyspace = e'.keyspace ∧ e.table = e'.table ∧ e.clientAddress = e'.clientAddress ∧
      e.statement = e'.statement ∧
      TimeUnit.milliseconds.toNanos e.timestampMillis =
        TimeUnit.milliseconds.toNanos e'.timestampMillis := by
  rw [(mem_transform_iff.1 hm).2, (mem_transform_iff.1 hm').2] at h
  have hone := Line.oneLine_of_encode_eq h
  obtain ⟨hkeyspace, htable⟩ := tables_eq_of_series_eq (baseTags_of_build hw) hone.series
  have hfields := congrArg KeyMap.entries hone.fields
  rw [entries_fields, entries_fields] at hfields
  simp only [List.cons.injEq, Prod.mk.injEq, true_and, and_true] at hfields
  obtain ⟨hclient, hstatement⟩ := hfields
  exact ⟨hkeyspace, htable, hclient, hstatement, hone.time rfl⟩

/-- A module whose tags are full of what separates tags. -/
def oddSettings : GlobalSettings :=
  ⟨"h,\\", "=s\\", true, 8998⟩

def oddEntry : ModuleEntry :=
  ⟨"slow_query", some "q\\", none, ∅⟩

def oddWatcher : Watcher :=
  ⟨"slow_query", oddEntry.namespaceOr "slow_query", .new (thousandfold 25) [], oddSettings.baseTags⟩

/-- A query that took too long, and came too late, for its time to be told exactly. -/
def lateQuery (more : Nat) : QueryEvent :=
  ⟨.ofNat (UInt64.size / 4 + more), .ofNat (UInt64.size / 16 + more), "", "a\\\",b\n=\"", "k\\", ",table=\\"⟩

theorem slow_queries_told_apart_late :
    let m := oddWatcher.measurement (lateQuery 0)
    let m' := oddWatcher.measurement (lateQuery 1)
    build oddEntry oddSettings = .ok oddWatcher ∧
      m ∈ (ModuleUnit.transform (lateQuery 0) (oddWatcher.mapDecider id)).2 ∧
      m' ∈ (ModuleUnit.transform (lateQuery 1) (oddWatcher.mapDecider (·.setMillis 1))).2 ∧
      Line.encode m = Line.encode m' ∧ lateQuery 0 ≠ lateQuery 1 ∧
      TimeUnit.milliseconds.toNanos (lateQuery 0).timestampMillis =
        TimeUnit.milliseconds.toNanos (lateQuery 1).timestampMillis := by
  have hw : build oddEntry oddSettings = .ok oddWatcher := rfl
  have hm : oddWatcher.measurement (lateQuery 0) ∈
      (ModuleUnit.transform (lateQuery 0) (oddWatcher.mapDecider id)).2 :=
    mem_transform_iff.2 ⟨by decide +kernel, rfl⟩
  have hm' : oddWatcher.measurement (lateQuery 1) ∈
      (ModuleUnit.transform (lateQuery 1) (oddWatcher.mapDecider (·.setMillis 1))).2 :=
    mem_transform_iff.2 ⟨by decide +kernel, rfl⟩
  have hline : Line.encode (oddWatcher.measurement (lateQuery 0)) =
      Line.encode (oddWatcher.measurement (lateQuery 1)) := by
    decide +kernel
  obtain ⟨-, -, -, -, htime⟩ := slow_queries_told_apart hw hm hm' hline
  exact ⟨hw, hm, hm', hline, by decide +kernel, htime⟩

end QueryWatch.SlowQuery.Watcher
