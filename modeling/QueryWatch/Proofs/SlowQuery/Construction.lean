import QueryWatch.Proofs.Config.Unknown
import QueryWatch.Proofs.SlowQuery.Tables

namespace QueryWatch.SlowQuery

open Config

/-- Options that give a list of tables and a threshold in milliseconds, each of which may be left to its
default. What else they give is nothing to the module. -/
structure Given (options : KeyMap Json) (tables : List String) (millis : UInt64) : Prop where
  tables : (options.get? "tablesForLogging").getD (.array []) = .array (tables.map .string)
  millis : (options.get? "slowQueryThresholdInMilliseconds").getD (.int 25) = .int millis.toNat

namespace Given

variable {options : KeyMap Json} {tables : List String} {millis : UInt64}

theorem tables_cases (h : Given options tables millis) :
    options.get? "tablesForLogging" = none ∧ tables = [] ∨
      options.get? "tablesForLogging" = some (.array (tables.map .string)) := by
  have hgiven := h.tables
  cases ht : options.get? "tablesForLogging" with
  | none =>
    rw [ht] at hgiven
    exact .inl ⟨rfl, List.map_eq_nil_iff.1 (Json.array.inj hgiven).symm⟩
  | some l =>
    rw [ht] at hgiven
    exact .inr (congrArg some hgiven)

theorem millis_cases (h : Given options tables millis) :
    options.get? "slowQueryThresholdInMilliseconds" = none ∧ millis = 25 ∨
      options.get? "slowQueryThresholdInMilliseconds" = some (.int millis.toNat) := by
  have hgiven := h.millis
  cases hm : options.get? "slowQueryThresholdInMilliseconds" with
  | none =>
    rw [hm] at hgiven
    exact .inl ⟨rfl, UInt64.toNat_inj.1 (Int.ofNat_inj.1 (Json.int.inj hgiven)).symm⟩
  | some n =>
    rw [hm] at hgiven
    exact .inr (congrArg some hgiven)

end Given

namespace Options

theorem keys_perm : record.keys.Perm ["slowQueryThresholdInMilliseconds", "tablesForLogging"] := by
  decide

theorem readMillis (n : UInt64) :
    record.Takes ("slowQueryThresholdInMilliseconds", .int n.toNat)
      ("slowQueryThresholdInMilliseconds", fun o => { o with thresholdMillis := n }) :=
  Record.takes_field rfl (reads_uint64 n) rfl

theorem readTables (l : List String) :
    record.Takes ("tablesForLogging", .array (l.map .string))
      ("tablesForLogging", fun o => { o with tables := l }) :=
  Record.takes_field rfl (reads_string.list l) rfl

theorem readMembers_of_takes {members : List (String × Json)}
    {changes : List (String × (Options → Options))} (h : List.Forall₂ record.Takes members changes)
    (hnodup : (changes.map Prod.fst).Nodup) :
    record.readMembers members = .ok (changes.foldl (fun o c => c.2 o) record.start) :=
  record.read_of_takes .json changes h hnodup (by simp [record, RecordField.of])

theorem options_of_given {options : KeyMap Json} {tables : List String} {millis : UInt64}
    (h : Given options tables millis) : record.options options = .ok ⟨millis, tables⟩ := by
  have hread : record.readOptions options = .ok ⟨millis, tables⟩ := by
    rw [Record.readOptions_eq keys_perm (by decide)]
    rcases h.millis_cases with ⟨hm, rfl⟩ | hm <;> rcases h.tables_cases with ⟨ht, rfl⟩ | ht <;>
      simp only [List.filterMap_cons, hm, ht]
    · exact readMembers_of_takes .nil .nil
    · exact readMembers_of_takes (.cons (readTables _) .nil) (List.nodup_singleton _)
    · exact readMembers_of_takes (.cons (readMillis _) .nil) (List.nodup_singleton _)
    · exact readMembers_of_takes (.cons (readMillis _) (.cons (readTables _) .nil))
        (by decide : ["slowQueryThresholdInMilliseconds", "tablesForLogging"].Nodup)
  rw [Record.options, hread]
  rfl

end Options

theorem toNat_thousandfold (n : UInt64) :
    (thousandfold n).toNat = min (n.toNat * 1000) (UInt64.size - 1) := by
  have hlt : min (n.toNat * 1000) (UInt64.size - 1) < UInt64.size :=
    (Nat.min_le_right _ _).trans_lt (by decide)
  exact UInt64.toNat_ofNat_of_lt' hlt

namespace Watcher

variable {entry : ModuleEntry} {global : GlobalSettings} {w : Watcher}

/-- A module is built when its options are read and each of its entries names something. -/
theorem build_eq {options : Options} (h : Options.record.options entry.options = .ok options) :
    build entry global = (selectors options.tables).map fun chosen =>
      ⟨entry.kind, entry.namespaceOr "slow_query", .new (thousandfold options.thresholdMillis) chosen,
        global.baseTags⟩ := by
  rw [build, h]
  rfl

theorem baseTags_of_build (h : build entry global = .ok w) : w.baseTags = global.baseTags := by
  cases ho : Options.record.options entry.options with
  | error fault =>
    rw [build, ho] at h
    cases h
  | ok options =>
    rw [build_eq ho] at h
    cases hs : selectors options.tables with
    | error fault =>
      rw [hs] at h
      cases h
    | ok chosen =>
      rw [hs] at h
      cases h
      rfl

theorem entries_tags (h : w.baseTags = global.baseTags) (e : QueryEvent) :
    (w.measurement e).tags.entries =
      [("host", global.hostname), ("keyspace", e.keyspace), ("systemName", global.systemName),
        ("table", e.table)] := by
  simp only [measurement, h, GlobalSettings.baseTags, KeyMap.ofList, KeyMap.insert,
    KeyMap.insertEntry, KeyMap.empty, List.foldl_cons, List.foldl_nil, String.reduceLT,
    String.reduceEq, reduceIte]

theorem entries_fields (w : Watcher) (e : QueryEvent) :
    (w.measurement e).fields.entries = [("client", e.clientAddress), ("statement", e.statement)] := by
  simp only [measurement, KeyMap.ofList, KeyMap.insert, KeyMap.insertEntry, KeyMap.empty,
    List.foldl_cons, List.foldl_nil, String.reduceLT, String.reduceEq, reduceIte]

end Watcher

end QueryWatch.SlowQuery
