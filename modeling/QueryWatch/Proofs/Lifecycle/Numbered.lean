import QueryWatch.Proofs.Delivery.Observation
import QueryWatch.Proofs.Lifecycle.Timers
import QueryWatch.Proofs.Operations.Basic

namespace QueryWatch

/-- A unit with the number of its configuration and its place there. -/
structure Numbered (σ : Type) where
  generation : Nat
  place : Nat
  unit : σ

namespace Numbered

variable {μ ρ σ : Type}

def mark (generation place : Nat) : Json :=
  .array [.int generation, .int place]

/-- Options with a number, the options that were there as one of them. -/
def pack (generation place : Nat) (options : KeyMap Json) : KeyMap Json :=
  .ofList [("number", mark generation place), ("options", .object options.entries)]

def unpack (options : KeyMap Json) : KeyMap Json :=
  match options.get? "options" with
  | some (.object members) => .ofList members
  | _ => ∅

def number (options : KeyMap Json) : Nat × Nat :=
  match options.get? "number" with
  | some (.array [.int generation, .int place]) => (generation.toNat, place.toNat)
  | _ => (0, 0)

@[simp] theorem unpack_pack (generation place : Nat) (options : KeyMap Json) :
    unpack (pack generation place options) = options := by
  have hget : (pack generation place options).get? "options" = some (.object options.entries) :=
    KeyMap.get?_insert_self ..
  simp only [unpack, hget, KeyMap.ofList_entries]

@[simp] theorem number_pack (generation place : Nat) (options : KeyMap Json) :
    number (pack generation place options) = (generation, place) := by
  have hget : (pack generation place options).get? "number" = some (mark generation place) :=
    (KeyMap.get?_insert_of_ne _ _ (show "number" ≠ "options" by decide)).trans
      (KeyMap.get?_insert_self ..)
  simp only [number, hget, mark, Int.toNat_natCast]

def seen (u : Numbered σ) (name call : String) (running : Nat) : Signal :=
  .sighted (.moduleCalled name (.array [.int u.generation, .int u.place, .int running]) call)

variable [ModuleUnit μ] [ReporterUnit ρ]

def turn (u : Numbered (AnyModule μ)) (call : String) (t : ModuleTurn (AnyModule μ)) :
    ModuleTurn (Numbered (AnyModule μ)) where
  unit := { u with unit := t.unit }
  acts := .signal (u.seen (ModuleUnit.name u.unit) call (AnyModule.running t.unit)) ::
    t.acts.filter Act.emits
  panicked := t.panicked

instance : ModuleUnit (Numbered (AnyModule μ)) where
  name u := ModuleUnit.name u.unit
  transform e u :=
    let (t, ms) := ModuleUnit.transform e u.unit
    ({ unit := { u with unit := t.unit }
       signals := [u.seen (ModuleUnit.name u.unit) "transform" (AnyModule.running t.unit)]
       panicked := t.panicked }, ms)
  start now u := u.turn "start" (ModuleUnit.start now u.unit)
  stop u := u.turn "stop" (ModuleUnit.stop u.unit)
  due? u := ModuleUnit.due? u.unit
  tick now u := u.turn "tick" (ModuleUnit.tick now u.unit)
  name_transform e u := ModuleUnit.name_transform e u.unit
  name_start now u := ModuleUnit.name_start now u.unit
  name_stop u := ModuleUnit.name_stop u.unit
  name_tick now u := ModuleUnit.name_tick now u.unit

instance : ReporterUnit (Numbered ρ) where
  kind r := ReporterUnit.kind r.unit
  report m r :=
    { unit := { r with unit := (ReporterUnit.report m r.unit).unit }
      panicked := (ReporterUnit.report m r.unit).panicked }
  stop r :=
    { unit := { r with unit := (ReporterUnit.stop r.unit).unit }
      signals := [.sighted (.reporterStopped (ReporterUnit.kind r.unit)
        (mark r.generation r.place))]
      panicked := (ReporterUnit.stop r.unit).panicked }
  kind_report m r := ReporterUnit.kind_report m r.unit
  kind_stop r := ReporterUnit.kind_stop r.unit

theorem fed_eq (ms : List Measurement) (r : Numbered ρ) :
    ReporterUnit.fed ms r = { r with unit := ReporterUnit.fed ms r.unit } := by
  induction ms generalizing r with
  | nil => rfl
  | cons m ms ih => exact ih _

end Numbered

/-- An attempt that shows, where it came to something, that it did, and nothing else. -/
def Construction.numbered {α : Type} (generation place : Nat) (built : Signal)
    (c : Construction α) : Construction (Numbered α) :=
  match c.outcome with
  | .built unit => ⟨.built ⟨generation, place, unit⟩, [built]⟩
  | .refused e => ⟨.refused e, []⟩
  | .panicked => ⟨.panicked, []⟩

def Registry.numbered {ε α : Type} (strip : ε → ε) (number : ε → Nat × Nat)
    (built : ε → Signal) (r : Registry ε α) : Registry ε (Numbered α) :=
  ⟨r.factories.map fun build entry site =>
    (build (strip entry) site).numbered (number entry).1 (number entry).2 (built entry)⟩

theorem Registry.build_numbered {ε α : Type} {strip : ε → ε} {number : ε → Nat × Nat}
    {built : ε → Signal} (r : Registry ε α) (kind : String) (entry : ε) (site : Site) :
    (r.numbered strip number built).build kind entry site =
      (r.build kind (strip entry) site).numbered (number entry).1 (number entry).2
        (built entry) := by
  unfold build numbered
  simp only [KeyMap.get?_map]
  cases r.factories.get? kind <;> rfl

namespace ModuleEntry

def numbered (generation place : Nat) (e : ModuleEntry) : ModuleEntry :=
  { e with options := Numbered.pack generation place e.options }

def built (e : ModuleEntry) : Signal :=
  let (generation, place) := Numbered.number e.options
  .sighted (.moduleBuilt e.kind (Numbered.mark generation place) "")

end ModuleEntry

namespace ReporterEntry

def numbered (generation place : Nat) (e : ReporterEntry) : ReporterEntry :=
  { e with options := Numbered.pack generation place e.options }

def built (e : ReporterEntry) : Signal :=
  let (generation, place) := Numbered.number e.options
  .sighted (.reporterBuilt e.kind (Numbered.mark generation place))

end ReporterEntry

def Configuration.numbered (generation : Nat) (c : Configuration) : Configuration :=
  { c with
    reporters := c.reporters.zipIdx.map fun e => e.1.numbered generation e.2
    modules := c.modules.zipIdx.map fun e => e.1.numbered generation e.2 }

def Setting.numbered {μ ρ : Type} (s : Setting μ ρ) : Setting (Numbered μ) (Numbered ρ) where
  moduleKinds := s.moduleKinds.numbered
    (fun e => { e with options := Numbered.unpack e.options }) (fun e => Numbered.number e.options)
    ModuleEntry.built
  reporterKinds := s.reporterKinds.numbered
    (fun e => { e with options := Numbered.unpack e.options }) (fun e => Numbered.number e.options)
    ReporterEntry.built
  defaults := s.defaults
  network := s.network

namespace Setting

variable {μ ρ : Type} (s : Setting μ ρ) (kind : String) (generation place : Nat) (site : Site)

theorem build_numbered_module (e : ModuleEntry) :
    s.numbered.moduleKinds.build kind (e.numbered generation place) site =
      (s.moduleKinds.build kind e site).numbered generation place
        (.sighted (.moduleBuilt e.kind (Numbered.mark generation place) "")) := by
  simp [Setting.numbered, Registry.build_numbered, ModuleEntry.numbered, ModuleEntry.built]

theorem build_numbered_reporter (e : ReporterEntry) :
    s.numbered.reporterKinds.build kind (e.numbered generation place) site =
      (s.reporterKinds.build kind e site).numbered generation place
        (.sighted (.reporterBuilt e.kind (Numbered.mark generation place))) := by
  simp [Setting.numbered, Registry.build_numbered, ReporterEntry.numbered, ReporterEntry.built]

end Setting

end QueryWatch
