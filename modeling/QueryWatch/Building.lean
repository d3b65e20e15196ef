import QueryWatch.Config.Basic
import QueryWatch.Signal
import QueryWatch.Sink.Network

namespace QueryWatch

structure Site where
  global : GlobalSettings
  network : Sink.Network

inductive Outcome (α : Type)
  | built (unit : α)
  | refused (error : BuildError)
  | panicked

/-- An attempt to build a unit, with what it showed. -/
structure Construction (α : Type) where
  outcome : Outcome α
  signals : List Signal := []

namespace Construction

variable {α β : Type}

def map (f : α → β) (c : Construction α) : Construction β :=
  { outcome := match c.outcome with
      | .built a => .built (f a)
      | .refused e => .refused e
      | .panicked => .panicked
    signals := c.signals }

def ofExcept : Except BuildError α → Construction α
  | .ok a => ⟨.built a, []⟩
  | .error e => ⟨.refused e, []⟩

theorem ofExcept_built {x : Except BuildError α} {a : α} (h : (ofExcept x).outcome = .built a) :
    x = .ok a := by
  cases x with
  | error e => cases h
  | ok b =>
    cases h
    rfl

theorem exists_of_map_built {f : α → β} {c : Construction α} {b : β}
    (h : (c.map f).outcome = .built b) : ∃ a, c.outcome = .built a ∧ f a = b := by
  simp only [map] at h
  cases hc : c.outcome with
  | built a =>
    rw [hc] at h
    exact ⟨a, rfl, Outcome.built.inj h⟩
  | refused e =>
    rw [hc] at h
    cases h
  | panicked =>
    rw [hc] at h
    cases h

theorem map_panicked_iff {f : α → β} {c : Construction α} :
    (c.map f).outcome = .panicked ↔ c.outcome = .panicked := by
  rw [map]
  cases c.outcome <;> simp

end Construction

abbrev Factory (ε α : Type) := ε → Site → Construction α

structure Registry (ε α : Type) where
  factories : KeyMap (Factory ε α)

namespace Registry

variable {ε α : Type}

def empty : Registry ε α := ⟨∅⟩

/-- A kind that was there before is replaced. -/
def register (r : Registry ε α) (kind : String) (f : Factory ε α) : Registry ε α :=
  ⟨r.factories.insert kind f⟩

def ofList (fs : List (String × Factory ε α)) : Registry ε α :=
  ⟨.ofList fs⟩

def contains (r : Registry ε α) (kind : String) : Bool :=
  r.factories.contains kind

def map {β : Type} (f : α → β) (r : Registry ε α) : Registry ε β :=
  ⟨r.factories.map fun build entry site => (build entry site).map f⟩

def build (r : Registry ε α) (kind : String) (entry : ε) (site : Site) : Construction α :=
  match r.factories.get? kind with
  | some f => f entry site
  | none => ⟨.refused (.unknownKind kind), []⟩

theorem build_register_self (r : Registry ε α) (kind : String) (f : Factory ε α) :
    (r.register kind f).build kind = f := by
  unfold register build
  rw [KeyMap.get?_insert_self]

theorem build_register_of_ne (r : Registry ε α) {kind other : String} (f : Factory ε α)
    (h : other ≠ kind) : (r.register kind f).build other = r.build other := by
  unfold register build
  rw [KeyMap.get?_insert_of_ne _ _ h]

theorem build_ofList_of_notMem {fs : List (String × Factory ε α)} {kind : String}
    (h : kind ∉ fs.map Prod.fst) (entry : ε) (site : Site) :
    (ofList fs).build kind entry site = ⟨.refused (.unknownKind kind), []⟩ := by
  unfold ofList build
  rw [KeyMap.get?_ofList_of_notMem h]

theorem outcome_of_register {r : Registry ε α} {kind other : String} {f : Factory ε α} {entry : ε}
    {site : Site} {o : Outcome α} (h : ((r.register kind f).build other entry site).outcome = o) :
    other = kind ∧ (f entry site).outcome = o ∨
      other ≠ kind ∧ (r.build other entry site).outcome = o := by
  by_cases heq : other = kind
  · subst heq
    rw [build_register_self] at h
    exact .inl ⟨rfl, h⟩
  · rw [build_register_of_ne _ _ heq] at h
    exact .inr ⟨heq, h⟩

/-- Whether something holds of every attempt to build a unit, of whatever kind. -/
def Every (P : Construction α → Prop) (r : Registry ε α) : Prop :=
  ∀ kind entry site, P (r.build kind entry site)

variable {P : Construction α → Prop} {r : Registry ε α}

theorem every_empty (h : ∀ kind, P ⟨.refused (.unknownKind kind), []⟩) :
    (empty : Registry ε α).Every P :=
  fun kind _ _ => h kind

theorem Every.register (h : r.Every P) (kind : String) {f : Factory ε α}
    (hf : ∀ entry site, P (f entry site)) : (r.register kind f).Every P := by
  intro kind' entry site
  by_cases heq : kind' = kind
  · subst heq
    rw [build_register_self]
    exact hf entry site
  · rw [build_register_of_ne _ _ heq]
    exact h kind' entry site

end Registry

def Config.Record.options {σ : Type} (r : Config.Record σ) (options : KeyMap Json) :
    Except BuildError σ :=
  (r.readOptions options).mapError .malformed

def GlobalSettings.baseTags (g : GlobalSettings) : Labels :=
  .ofList [("host", g.hostname), ("systemName", g.systemName)]

end QueryWatch
