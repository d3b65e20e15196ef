import QueryWatch.Proofs.SlowQuery.Construction

namespace QueryWatch.SlowQuery

inductive Step
  | setMicros (micros : UInt64)
  | setMillis (millis : UInt64)
  | query (event : QueryEvent)

def Step.sets : Step → Option Nat
  | .setMicros micros => some micros.toNat
  | .setMillis millis => some (min (millis.toNat * 1000) (UInt64.size - 1))
  | .query _ => none

def lastSet (start : Nat) (steps : List Step) : Nat :=
  (steps.filterMap Step.sets).getLast?.getD start

theorem lastSet_cons (start : Nat) (step : Step) (steps : List Step) :
    lastSet start (step :: steps) = lastSet (step.sets.getD start) steps := by
  cases h : step.sets with
  | none => simp [lastSet, h]
  | some micros => simp [lastSet, h, List.getLast?_cons]

/-- A query that took as long as the threshold, on a table that the list is about. -/
def IsSlow (threshold : Nat) (entries : List String) (e : QueryEvent) : Prop :=
  threshold ≤ e.executionMicros.toNat ∧ Listed entries e.keyspace e.table

/-- What there is to tell about a slow query. -/
structure Tells (global : GlobalSettings) (e : QueryEvent) (m : Measurement) : Prop where
  kind : m.kind = .simple
  time : m.time = e.timestampMillis
  unit : m.unit = .milliseconds
  tags : m.tags.entries = [("host", global.hostname), ("keyspace", e.keyspace),
    ("systemName", global.systemName), ("table", e.table)]
  fields : m.fields.entries = [("client", e.clientAddress), ("statement", e.statement)]

namespace Watcher

variable {entry : ModuleEntry} {global : GlobalSettings} {w : Watcher}

theorem tells_measurement (h : w.baseTags = global.baseTags) (e : QueryEvent) :
    Tells global e (w.measurement e) :=
  ⟨rfl, rfl, rfl, entries_tags h e, entries_fields w e⟩

def after (w : Watcher) : Step → Watcher
  | .setMicros micros => w.mapDecider (·.setMicros micros)
  | .setMillis millis => w.mapDecider (·.setMillis millis)
  | .query event => (ModuleUnit.transform event w).1.unit

theorem after_eq (w : Watcher) (step : Step) : ∃ micros : UInt64,
    w.after step = w.mapDecider (·.setMicros micros) ∧
      micros.toNat = step.sets.getD w.decider.thresholdMicros.toNat := by
  cases step with
  | setMicros micros => exact ⟨micros, rfl, rfl⟩
  | setMillis millis => exact ⟨thousandfold millis, rfl, toNat_thousandfold millis⟩
  | query event => exact ⟨w.decider.thresholdMicros, rfl, rfl⟩

theorem foldl_after_eq (w : Watcher) (steps : List Step) : ∃ micros : UInt64,
    steps.foldl after w = w.mapDecider (·.setMicros micros) ∧
      micros.toNat = lastSet w.decider.thresholdMicros.toNat steps := by
  induction steps generalizing w with
  | nil => exact ⟨w.decider.thresholdMicros, rfl, rfl⟩
  | cons step steps ih =>
    obtain ⟨first, hfirst, hset⟩ := w.after_eq step
    obtain ⟨last, hlast, hsteps⟩ := ih (w.after step)
    refine ⟨last, ?_, ?_⟩
    · rw [List.foldl_cons, hlast, hfirst]
      rfl
    · rw [hsteps, hfirst, lastSet_cons, ← hset]
      rfl

/-- A module that was built of a list holds a query against what was set last and what is on the list. -/
theorem shouldReport_iff {entries : List String} (h : ∀ e ∈ entries, (Selector.parse? e).isSome = true)
    (start micros : UInt64) (e : QueryEvent) :
    ((Decider.new start (entries.filterMap Selector.parse?)).setMicros micros).shouldReport
        e.executionMicros e.keyspace e.table = true ↔
      IsSlow micros.toNat entries e := by
  rw [Decider.shouldReport, Bool.and_eq_true, decide_eq_true_eq, IsSlow, listed_iff h,
    UInt64.le_iff_toNat_le]
  rfl

theorem transform_mapDecider (w : Watcher) (f : Decider → Decider) (e : QueryEvent) :
    (ModuleUnit.transform e (w.mapDecider f)).2 =
      if (f w.decider).shouldReport e.executionMicros e.keyspace e.table then [w.measurement e]
      else [] :=
  rfl

/-- A module is refused for the first entry that names no table. Any other list is taken, and then a query is
told, once and as it was, if it is slow by the threshold that was set last; and no other query is. -/
theorem slow_queries_decided {tables : List String} {millis : UInt64}
    (h : Given entry.options tables millis) :
    (∀ fault, build entry global = .error fault ↔ ∃ before bad behind,
      tables = before ++ bad :: behind ∧ (∀ t ∈ before, ∃ keyspace table, Names t keyspace table) ∧
      (¬∃ keyspace table, Names bad keyspace table) ∧
      fault = .invalidOption "tablesForLogging" (.tableEntry bad)) ∧
    ((∀ t ∈ tables, ∃ keyspace table, Names t keyspace table) →
      ∃ w, build entry global = .ok w ∧ ∀ (steps : List Step) (e : QueryEvent),
        (IsSlow (lastSet (min (millis.toNat * 1000) (UInt64.size - 1)) steps) tables e →
          ∃ m, (ModuleUnit.transform e (steps.foldl after w)).2 = [m] ∧ Tells global e m) ∧
        (¬IsSlow (lastSet (min (millis.toNat * 1000) (UInt64.size - 1)) steps) tables e →
          (ModuleUnit.transform e (steps.foldl after w)).2 = [])) := by
  have hbuild : build entry global = _ := build_eq (Options.options_of_given h)
  simp only [← Selector.isSome_parse?_iff]
  constructor
  · intro fault
    rw [hbuild, map_eq_error_iff, selectors_eq_error_iff]
    simp only [Bool.not_eq_true, Option.isSome_eq_false_iff, Option.isNone_iff_eq_none]
  · intro hnamed
    rw [hbuild, selectors_eq_ok hnamed]
    refine ⟨_, rfl, fun steps e => ?_⟩
    obtain ⟨micros, hafter, hmicros⟩ := foldl_after_eq
      ⟨entry.kind, entry.namespaceOr "slow_query",
        .new (thousandfold millis) (tables.filterMap Selector.parse?), global.baseTags⟩ steps
    rw [hafter, transform_mapDecider, ← toNat_thousandfold]
    change micros.toNat = lastSet (thousandfold millis).toNat steps at hmicros
    rw [← hmicros, ← shouldReport_iff hnamed (thousandfold millis)]
    constructor
    · intro hslow
      rw [if_pos hslow]
      exact ⟨_, rfl, tells_measurement rfl e⟩
    · intro hnot
      rw [if_neg hnot]

/-- A module that is given a list, and something that it does not know. -/
def listing (entries : List String) : ModuleEntry :=
  ⟨"slow_query", none, none,
    .ofList [("tablesForLogging", .array (entries.map .string)), ("tables", .null)]⟩

theorem given_listing (entries : List String) : Given (listing entries).options entries 25 := by
  have hentries : (listing entries).options.entries =
      [("tables", .null), ("tablesForLogging", .array (entries.map .string))] := by
    simp only [listing, KeyMap.ofList, KeyMap.insert, KeyMap.insertEntry, KeyMap.empty, List.foldl_cons,
      List.foldl_nil, String.reduceLT, String.reduceEq, reduceIte]
  constructor
  · rw [KeyMap.get?, hentries]
    rfl
  · rw [KeyMap.get?, hentries]
    rfl

/-- A query on a table that has a point in its name. -/
def pointed (micros : UInt64) : QueryEvent :=
  ⟨-1, micros, "client", "", "a", "b.c"⟩

theorem slow_queries_decided_retuned :
    let global : GlobalSettings := ⟨"h", "s", true, 8998⟩
    let mixed := ["a.b", " .x", "y."]
    let clean := ["\tks.* ", "a.b.c"]
    (∀ entries, Given (listing entries).options entries 25) ∧
    build (listing mixed) global = .error (.invalidOption "tablesForLogging" (.tableEntry " .x")) ∧
    ∃ w, build (listing clean) global = .ok w ∧
      (∃ m, (ModuleUnit.transform (pointed 25000) w).2 = [m] ∧ Tells global (pointed 25000) m) ∧
      (ModuleUnit.transform (pointed 25000) ([.setMillis (-1), .query (pointed 0)].foldl after w)).2 = [] ∧
      ∃ m, (ModuleUnit.transform (pointed 5) ([.setMillis (-1), .setMicros 5].foldl after w)).2 = [m] ∧
        Tells global (pointed 5) m := by
  intro global mixed clean
  obtain ⟨hrefused, -⟩ := @slow_queries_decided _ global _ _ (given_listing mixed)
  obtain ⟨-, htaken⟩ := @slow_queries_decided _ global _ _ (given_listing clean)
  simp only [← Selector.isSome_parse?_iff] at hrefused htaken
  obtain ⟨w, hw, htold⟩ := htaken (by decide)
  have hnames : Names "a.b.c" "a" "b.c" := ⟨by decide, by decide, by decide, by decide⟩
  have hlisted : Listed clean "a" "b.c" :=
    .inr ⟨_, List.mem_cons_of_mem _ List.mem_cons_self, _, hnames, .inr rfl⟩
  have hfirst := (hrefused _).2 ⟨["a.b"], " .x", ["y."], rfl, by decide, by decide, rfl⟩
  refine ⟨given_listing, hfirst, w, hw, ?_, ?_, ?_⟩
  · exact (htold [] _).1 ⟨by decide, hlisted⟩
  · exact (htold _ _).2 fun hslow => absurd hslow.1 (by decide)
  · exact (htold _ _).1 ⟨by decide, hlisted⟩

end Watcher

end QueryWatch.SlowQuery
