import QueryWatch.Building
import QueryWatch.Proofs.Config.Names

namespace QueryWatch

open Config

variable {α β : Type}

/-- What is made of options is settled by what they give under some names: further options change nothing,
and under each of the names something can be given that does. -/
structure Confined (names : List String) (make : KeyMap Json → β) : Prop where
  further : ∀ options extra : KeyMap Json, (∀ name ∈ names, extra.contains name = false) →
    make (options.merge extra) = make options
  heeded : ∀ name ∈ names, ∃ (options : KeyMap Json) (value : Json),
    make (options.insert name value) ≠ make options

namespace Config.Record

variable {σ : Type} {r : Record σ}

theorem readOptions_empty (h : ∀ f ∈ r.fields, (!f.required) = true) :
    r.readOptions ∅ = .ok r.start := by
  have hgiven : r.fields.find? (fun f => f.required && !([] : List String).contains f.name) = none := by
    rw [List.find?_eq_none]
    intro f hf hmissing
    rw [Bool.and_eq_true] at hmissing
    have hoptional := h f hf
    rw [hmissing.1] at hoptional
    cases hoptional
  change r.readMembers [] = _
  simp only [readMembers, List.foldlM_nil, pure, Except.pure, bind, Except.bind, hgiven]

theorem readOptions_fault {f : RecordField σ} {name : String} {j : Json} {fault : Malformed}
    (hfind : r.fields.find? (·.answersTo name) = some f) (hread : f.read j r.start = .error fault) :
    r.readOptions ((∅ : KeyMap Json).insert name j) = .error fault := by
  have hvisit : r.visit ([], r.start) (name, j) = .error fault := by
    rw [visit, hfind]
    dsimp only
    rw [hread]
    rfl
  change r.readMembers [(name, j)] = _
  simp only [readMembers, List.foldlM_cons, hvisit, bind, Except.bind]

end Config.Record

/-- The options of a kind of units: their names in key order, and the record that they are read into. All of
them can be left out, and none of them is a flag. -/
structure OptionSet where
  names : List String
  {Settings : Type}
  record : Record Settings
  sorted : names.Pairwise (· < ·) := by decide
  keys : record.keys.Perm names := by decide
  optional : record.fields.all (!·.required) = true := by rfl
  noFlag : record.fields.all (fun f => !(f.read (.bool true) record.start).isOk) = true := by rfl

namespace OptionSet

variable (s : OptionSet)

theorem options_merge {options extra : KeyMap Json}
    (h : ∀ name ∈ s.names, extra.contains name = false) :
    s.record.options (options.merge extra) = s.record.options options := by
  have hsame : ∀ name ∈ s.names, (options.merge extra).get? name = options.get? name := by
    intro name hname
    exact options.get?_merge_of_not_contains (h name hname)
  rw [Record.options, Record.options, Record.readOptions_congr s.keys s.sorted hsame]

theorem options_empty : s.record.options ∅ = .ok s.record.start := by
  rw [Record.options, Record.readOptions_empty (List.all_eq_true.1 s.optional)]
  rfl

theorem options_flag {name : String} (h : name ∈ s.names) :
    ∃ e, s.record.options ((∅ : KeyMap Json).insert name (.bool true)) = .error e := by
  have hknows : s.record.knows name = true := Record.knows_iff.2 (s.keys.mem_iff.2 h)
  obtain ⟨f, hfind⟩ := Option.isSome_iff_exists.1 (List.find?_isSome.2 (List.any_eq_true.1 hknows))
  have hflag := List.all_eq_true.1 s.noFlag f (List.mem_of_find?_eq_some hfind)
  cases hread : f.read (.bool true) s.record.start with
  | ok settings =>
    rw [hread] at hflag
    cases hflag
  | error fault =>
    rw [Record.options, Record.readOptions_fault hfind hread]
    exact ⟨_, rfl⟩

theorem confined : Confined s.names s.record.options where
  further _ _ h := s.options_merge h
  heeded name hname := by
    obtain ⟨e, he⟩ := s.options_flag hname
    refine ⟨∅, .bool true, ?_⟩
    rw [he, s.options_empty]
    exact nofun

def empty : OptionSet where
  names := []
  record := ⟨"", [], ()⟩

end OptionSet

/-- What is built is settled by the settings that are read: of options that are read alike the same is
built, those that cannot be read are refused, and something is built where none is given. -/
structure Config.Record.Governs {σ : Type} (r : Record σ) (build : KeyMap Json → Construction α) :
    Prop where
  alike : ∀ {options options' : KeyMap Json}, r.options options = r.options options' →
    build options = build options'
  refused : ∀ {options : KeyMap Json} {e : BuildError}, r.options options = .error e →
    (build options).outcome = .refused e
  unset : ∃ unit, (build ∅).outcome = .built unit

namespace Config.Record.Governs

variable {σ : Type} {r : Record σ} {build : KeyMap Json → Construction α}

theorem map (h : r.Governs build) (f : α → β) : r.Governs fun options => (build options).map f where
  alike hread := congrArg (Construction.map f) (h.alike hread)
  refused hread := by
    rw [Construction.map, h.refused hread]
  unset := by
    obtain ⟨unit, hunit⟩ := h.unset
    exact ⟨f unit, by rw [Construction.map, hunit]⟩

theorem confined {s : OptionSet} (h : s.record.Governs build) : Confined s.names build where
  further _ _ hextra := h.alike (s.options_merge hextra)
  heeded name hname := by
    obtain ⟨e, he⟩ := s.options_flag hname
    obtain ⟨unit, hunit⟩ := h.unset
    refine ⟨∅, .bool true, fun hsame => ?_⟩
    have hrefused := h.refused he
    rw [hsame, hunit] at hrefused
    cases hrefused

end Config.Record.Governs

theorem Registry.confined_of_notMem {ε : Type} {fs : List (String × Factory ε α)} {kind : String}
    (h : kind ∉ fs.map Prod.fst) (entry : KeyMap Json → ε) (site : Site) :
    Confined [] fun options => (ofList fs).build kind (entry options) site where
  further _ _ _ := by
    rw [build_ofList_of_notMem h, build_ofList_of_notMem h]
  heeded _ hname := nomatch hname

end QueryWatch
