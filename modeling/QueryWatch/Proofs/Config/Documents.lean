import Mathlib.Data.List.Forall2
import QueryWatch.Config.Basic
import QueryWatch.QueryEvent

namespace QueryWatch

namespace Config

variable {α σ : Type} {read : Reader α} {write : α → Json}

/-- The reader gives back whatever was written. -/
def Reads (read : Reader α) (write : α → Json) : Prop :=
  ∀ a, read (write a) = .ok a

theorem reads_string : Reads readString .string :=
  fun _ => rfl

theorem reads_bool : Reads readBool .bool :=
  fun _ => rfl

theorem readNat_of_lt {n bound : Nat} (h : n < bound) (type : String) :
    readNat bound type (.int n) = .ok n := by
  have hn : (0 : Int) ≤ n ∧ (n : Int) < bound := ⟨Int.natCast_nonneg n, Int.ofNat_lt.2 h⟩
  rw [readNat, if_pos hn, Int.toNat_natCast]

theorem reads_uint16 : Reads readUInt16 fun n => .int n.toNat := by
  intro n
  rw [readUInt16, readNat_of_lt n.toNat_lt]
  exact congrArg Except.ok UInt16.ofNat_toNat

theorem reads_uint64 : Reads readUInt64 fun n => .int n.toNat := by
  intro n
  rw [readUInt64, readNat_of_lt n.toNat_lt]
  exact congrArg Except.ok UInt64.ofNat_toNat

theorem reads_size : Reads readSize fun n => .int n.toNat := by
  intro n
  rw [readSize, readNat_of_lt n.toNat_lt]
  exact congrArg Except.ok UInt64.ofNat_toNat

theorem reads_int64 : Reads readInt64 fun n => .int n.toInt := by
  intro n
  rw [readInt64, if_pos ⟨n.minValue_le_toInt, n.toInt_le⟩, Int64.ofInt_toInt]

theorem Reads.option (h : Reads read write) (hnull : ∀ a, write a ≠ .null) :
    Reads (readOption read) fun o => (o.map write).getD .null := by
  intro o
  cases o with
  | none => rfl
  | some a =>
    have hsome : readOption read (write a) = (read (write a)).map some := by
      unfold readOption
      split
      · next hw => exact absurd hw (hnull a)
      · rfl
    exact hsome.trans (congrArg (Except.map some) (h a))

theorem Reads.list (h : Reads read write) : Reads (readList read) fun l => .array (l.map write) := by
  intro l
  change (l.map write).mapM read = .ok l
  rw [List.mapM_map, show read ∘ write = pure from funext h, List.mapM_pure]
  exact congrArg Except.ok (List.map_id l)

theorem reads_map : Reads (readMap .json) fun m => .object m.entries :=
  fun m => congrArg Except.ok (KeyMap.ofList_entries m)

theorem Reads.again (h : Reads read write) (first : Reader α) (j : Json) :
    (first j >>= fun a => read (write a)) = first j := by
  cases first j with
  | error e => rfl
  | ok a => exact h a

theorem RecordField.read_of {a : α} {j : Json} (h : read j = .ok a) (name : String)
    (set : α → σ → σ) (s : σ) : (RecordField.of name read set).read j s = .ok (set a s) := by
  change (read j).map (set · s) = _
  rw [h]
  rfl

namespace Record

variable {r : Record σ} {members : List (String × Json)} {changes : List (String × (σ → σ))}

/-- A member that a field takes, and what the field makes of whatever the record holds. -/
def Takes (r : Record σ) (member : String × Json) (change : String × (σ → σ)) : Prop :=
  ∃ f, r.fields.find? (·.answersTo member.1) = some f ∧ f.name = change.1 ∧
    ∀ s, f.read member.2 s = .ok (change.2 s)

theorem takes_field {name key : String} {set : α → σ → σ} {a : α} {j : Json} {change : σ → σ}
    (hfind : r.fields.find? (·.answersTo key) = some (.of name read set)) (h : read j = .ok a)
    (hchange : set a = change) : r.Takes (key, j) (name, change) := by
  subst hchange
  exact ⟨_, hfind, rfl, RecordField.read_of h name set⟩

theorem takes_mandatory {name key : String} {set : α → σ → σ} {a : α} {j : Json} {change : σ → σ}
    (hfind : r.fields.find? (·.answersTo key) = some (RecordField.of name read set).mandatory)
    (h : read j = .ok a) (hchange : set a = change) : r.Takes (key, j) (name, change) := by
  subst hchange
  exact ⟨_, hfind, rfl, RecordField.read_of h name set⟩

theorem Takes.visit {member : String × Json} {change : String × (σ → σ)} (h : r.Takes member change)
    {seen : List String} (hnew : change.1 ∉ seen) (s : σ) :
    r.visit (seen, s) member = .ok (change.1 :: seen, change.2 s) := by
  obtain ⟨f, hfind, hname, hread⟩ := h
  have hunseen : ¬seen.contains f.name := by
    rw [hname, List.contains_iff_mem]
    exact hnew
  rw [Record.visit, hfind]
  dsimp only
  rw [if_neg hunseen, hread, ← hname]
  rfl

theorem foldlM_visit (h : List.Forall₂ r.Takes members changes) {seen : List String}
    (hnew : ∀ c ∈ changes, c.1 ∉ seen) (hnodup : (changes.map Prod.fst).Nodup) (s : σ) :
    members.foldlM r.visit (seen, s) =
      .ok ((changes.map Prod.fst).reverse ++ seen, changes.foldl (fun s c => c.2 s) s) := by
  induction h generalizing seen s with
  | nil => rfl
  | @cons member change members changes hc _ ih =>
    obtain ⟨hfirst, hrest⟩ := List.nodup_cons.1 hnodup
    have hvisit : r.visit (seen, s) member = .ok (change.1 :: seen, change.2 s) :=
      hc.visit (hnew change List.mem_cons_self) s
    have hnew' : ∀ c ∈ changes, c.1 ∉ change.1 :: seen := by
      intro c hmem hin
      rcases List.mem_cons.1 hin with heq | hin
      · apply hfirst
        rw [← heq]
        exact List.mem_map_of_mem hmem
      · exact hnew c (List.mem_cons_of_mem _ hmem) hin
    rw [List.foldlM_cons, hvisit]
    refine (ih hnew' hrest _).trans ?_
    rw [List.map_cons, List.reverse_cons, List.append_assoc]
    rfl

/-- A record is read when every member is taken and no field that has to be given is left out. -/
theorem read_of_takes (r : Record σ) (d : Dialect) (changes : List (String × (σ → σ)))
    (h : List.Forall₂ r.Takes members changes)
    (hnodup : (changes.map Prod.fst).Nodup)
    (hgiven : ∀ f ∈ r.fields, f.required → f.name ∈ changes.map Prod.fst) :
    r.read d (.object members) = .ok (changes.foldl (fun s c => c.2 s) r.start) := by
  have hmissing : r.fields.find? (fun f => f.required &&
      !((changes.map Prod.fst).reverse ++ []).contains f.name) = none := by
    rw [List.find?_eq_none]
    intro f hf
    have hf' := hgiven f hf
    simpa using hf'
  change r.readMembers members = _
  rw [readMembers, foldlM_visit h (fun _ _ => List.not_mem_nil) hnodup]
  simp only [bind, Except.bind, hmissing]

end Record

end Config

open Config

theorem GlobalSettings.reads (env : Environment) (d : Dialect) :
    Reads ((record env).read d) document := by
  intro g
  refine (record env).read_of_takes d
    [("hostname", fun s => { s with hostname := g.hostname }),
      ("httpApiEnabled", fun s => { s with httpApiEnabled := g.httpApiEnabled }),
      ("httpApiPort", fun s => { s with httpApiPort := g.httpApiPort }),
      ("systemName", fun s => { s with systemName := g.systemName })] ?_ ?_ ?_
  · exact .cons (Record.takes_field rfl (reads_string _) rfl) <|
      .cons (Record.takes_field rfl (reads_bool _) rfl) <|
      .cons (Record.takes_field rfl (reads_uint16 _) rfl) <|
      .cons (Record.takes_field rfl (reads_string _) rfl) .nil
  · exact (by decide : ["hostname", "httpApiEnabled", "httpApiPort", "systemName"].Nodup)
  · simp [record, RecordField.of]

theorem ReporterEntry.reads : Reads ((record .json).read .json) document := by
  intro e
  refine (record .json).read_of_takes .json
    [("kind", fun s => { s with kind := e.kind }),
      ("options", fun s => { s with options := e.options })] ?_ ?_ ?_
  · exact .cons (Record.takes_mandatory rfl (reads_string _) rfl) <|
      .cons (Record.takes_field rfl (reads_map _) rfl) .nil
  · exact (by decide : ["kind", "options"].Nodup)
  · simp [record, RecordField.of, RecordField.mandatory]

theorem ModuleEntry.reads : Reads ((record .json).read .json) document := by
  intro e
  have hnamespace : Reads (readOption readString) fun o => (o.map .string).getD .null :=
    reads_string.option fun _ => Json.noConfusion
  have hreporters : Reads (readOption (readList readString))
      fun o => (o.map fun l => .array (l.map .string)).getD .null :=
    reads_string.list.option fun _ => Json.noConfusion
  refine (record .json).read_of_takes .json
    [("kind", fun s => { s with kind := e.kind }),
      ("measurementNamespace", fun s => { s with measurementNamespace := e.measurementNamespace }),
      ("options", fun s => { s with options := e.options }),
      ("reporters", fun s => { s with reporters := e.reporters })] ?_ ?_ ?_
  · exact .cons (Record.takes_mandatory rfl (reads_string _) rfl) <|
      .cons (Record.takes_field rfl (hnamespace _) rfl) <|
      .cons (Record.takes_field rfl (reads_map _) rfl) <|
      .cons (Record.takes_field rfl (hreporters _) rfl) .nil
  · exact (by decide : ["kind", "measurementNamespace", "options", "reporters"].Nodup)
  · simp [record, RecordField.of, RecordField.mandatory]

theorem Configuration.reads (env : Environment) : Reads (ofDocument env) document := by
  intro c
  refine (record env .json).read_of_takes .json
    [("global", fun s => { s with global := c.global }),
      ("modules", fun s => { s with modules := c.modules }),
      ("reporters", fun s => { s with reporters := c.reporters })] ?_ ?_ ?_
  · exact .cons (Record.takes_field rfl (GlobalSettings.reads env .json _) rfl) <|
      .cons (Record.takes_field rfl (ModuleEntry.reads.list _) rfl) <|
      .cons (Record.takes_field rfl (ReporterEntry.reads.list _) rfl) .nil
  · exact (by decide : ["global", "modules", "reporters"].Nodup)
  · simp [record, RecordField.of]

theorem QueryEvent.reads : Reads ofDocument document := by
  intro e
  refine record.read_of_takes .json
    [("clientAddress", fun s => { s with clientAddress := e.clientAddress }),
      ("executionDurationMicros", fun s => { s with executionMicros := e.executionMicros }),
      ("keyspace", fun s => { s with keyspace := e.keyspace }),
      ("statement", fun s => { s with statement := e.statement }),
      ("table", fun s => { s with table := e.table }),
      ("timestampMillis", fun s => { s with timestampMillis := e.timestampMillis })] ?_ ?_ ?_
  · exact .cons (Record.takes_mandatory rfl (reads_string _) rfl) <|
      .cons (Record.takes_mandatory rfl (reads_uint64 _) rfl) <|
      .cons (Record.takes_mandatory rfl (reads_string _) rfl) <|
      .cons (Record.takes_mandatory rfl (reads_string _) rfl) <|
      .cons (Record.takes_mandatory rfl (reads_string _) rfl) <|
      .cons (Record.takes_mandatory rfl (reads_int64 _) rfl) .nil
  · exact (by decide : ["clientAddress", "executionDurationMicros", "keyspace", "statement",
      "table", "timestampMillis"].Nodup)
  · simp [record, RecordField.of, RecordField.mandatory]

/-- Configurations and events come back from their documents as they were, whatever the environment; so a
document that was accepted is read once and for all. -/
theorem documents_read_back :
    (∀ (env : Environment) (c : Configuration), Configuration.ofDocument env c.document = .ok c) ∧
    (∀ e : QueryEvent, QueryEvent.ofDocument e.document = .ok e) ∧
    (∀ (env env' : Environment) (j : Json),
      (Configuration.ofDocument env j >>= fun c => Configuration.ofDocument env' c.document) =
        Configuration.ofDocument env j) ∧
    ∀ j : Json, (QueryEvent.ofDocument j >>= fun e => QueryEvent.ofDocument e.document) =
      QueryEvent.ofDocument j :=
  ⟨Configuration.reads, QueryEvent.reads, fun _ env' j => (Configuration.reads env').again _ j,
    QueryEvent.reads.again _⟩

/-- Where the settings are left out the environment does have a say, once. -/
example (env env' : Environment) :
    (Configuration.ofDocument env (.object []) >>= fun c => Configuration.ofDocument env' c.document) =
      .ok ⟨.ofEnvironment env, [], []⟩ :=
  (Configuration.reads env').again _ _

end QueryWatch
