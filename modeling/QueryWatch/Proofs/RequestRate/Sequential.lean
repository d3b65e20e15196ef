import QueryWatch.Proofs.Delivery.Story
import QueryWatch.Proofs.RequestRate.Conservation

namespace QueryWatch.Periodic.RequestRate.Counting

open LiveModule (emitted)

/-- Nothing is under way, and the module is `r`. What it holds of its timer is that there is one; the timer
itself is the one that was started last. -/
structure Stands (c : Counting) (r : RequestRate) : Prop where
  unit : ∃ lastTick task, c.unit = { r with lastTick, task } ∧ task.isSome = r.task.isSome
  unlocked : c.locked = false
  clock : ∀ task, r.task = some task → c.clocks.getLast? = some ⟨{ task }, r.lastTick⟩

/-- Some run of steps does to the module what an operation of it does, and produces what that emits. -/
def Does (c : Counting) (turn : ModuleTurn RequestRate) : Prop :=
  ∃ schedule, Stands (run schedule c) turn.unit ∧
    (run schedule c).produced = c.produced ++ emitted turn.acts

variable {c : Counting} {r : RequestRate} {k now : Nat}

theorem stands_opened (h : r.task = none) : Stands { unit := r } r := by
  refine ⟨⟨r.lastTick, r.task, rfl, rfl⟩, rfl, fun task ht => ?_⟩
  rw [h] at ht
  cases ht

theorem count_alone (h : Stands c r) (e : QueryEvent) :
    Stands (run [.event e] c) (ModuleUnit.transform e r).1.unit := by
  obtain ⟨⟨lastTick, task, hunit, htask⟩, hunlocked, hclock⟩ := h
  refine ⟨⟨lastTick, task, ?_, htask⟩, hunlocked, hclock⟩
  change c.unit.count = _
  rw [hunit]
  rfl

theorem next_returned (hk : c.calls[k]? = some .returned) : next (.call k now) c = c := by
  simp only [next, advance, hk]

theorem start_running {task : PeriodicTask} (h : r.task = some task) (now : Nat) :
    ModuleUnit.start now r = { unit := r } := by
  change r.start now = _
  rw [start, h]

theorem unit_start (h : r.task = none) (now : Nat) :
    (ModuleUnit.start now r).unit =
      { r with task := some (PeriodicTask.start r.title r.period now).1, lastTick := now } := by
  change (r.start now).unit = _
  rw [start, h]

theorem emitted_start (h : r.task = none) (now : Nat) :
    emitted (ModuleUnit.start now r).acts = [] := by
  change emitted (r.start now).acts = []
  rw [start, h]
  simp [emitted, List.filterMap_map]

theorem start_alone (h : Stands c r) (now : Nat) : Does c (ModuleUnit.start now r) := by
  obtain ⟨⟨lastTick, task, hunit, htask⟩, hunlocked, hclock⟩ := h
  let k := c.calls.length
  let c₁ : Counting := { c with calls := c.calls ++ [.starting] }
  have hk : c₁.calls[k]? = some .starting := List.getElem?_concat_length
  refine ⟨[.start, .call k now, .call k now], ?_⟩
  change Stands (next (.call k now) (next (.call k now) c₁)) _ ∧
    (next (.call k now) (next (.call k now) c₁)).produced = _
  cases ht : r.task with
  | some held =>
    rw [ht] at htask
    obtain ⟨mine, rfl⟩ := Option.isSome_iff_exists.1 htask
    have hspawn : next (.call k now) c₁ = c₁.put k .returned := by
      simp [next, advance, hk, spawn, c₁, hunlocked, hunit]
    have hreturned : (c₁.put k .returned).calls[k]? = some .returned := by
      simp [put, c₁, k]
    rw [hspawn, next_returned hreturned, start_running ht]
    refine ⟨⟨⟨lastTick, some mine, hunit, ?_⟩, hunlocked, hclock⟩, (List.append_nil _).symm⟩
    rw [ht]
    rfl
  | none =>
    rw [ht] at htask
    obtain rfl := Option.isNone_iff_eq_none.1 (by simpa using htask)
    let clock : Clock := ⟨{ task := (PeriodicTask.start r.title r.period now).1 }, now⟩
    let c₂ : Counting :=
      { c₁.put k (.storing now) with locked := true, clocks := c.clocks ++ [clock] }
    have hspawn : next (.call k now) c₁ = c₂ := by
      simp [next, advance, hk, spawn, c₁, c₂, clock, hunlocked, hunit]
    have hstoring : c₂.calls[k]? = some (.storing now) := by
      simp [c₂, put, c₁, k]
    have hstore : next (.call k now) c₂ = c₂.store k now := by
      simp only [next, advance, hstoring]
    rw [hspawn, hstore, emitted_start ht, unit_start ht]
    refine ⟨⟨⟨now, some clock.loop.task, ?_, rfl⟩, rfl, ?_⟩, (List.append_nil _).symm⟩
    · change (ModuleUnit.start now c.unit).unit = _
      rw [hunit]
      exact unit_start rfl now
    · intro task hnew
      cases hnew
      exact List.getLast?_concat

theorem stop_alone (h : Stands c r) : Does c (ModuleUnit.stop r) := by
  obtain ⟨⟨lastTick, task, hunit, htask⟩, hunlocked, hclock⟩ := h
  let k := c.calls.length
  let c₁ : Counting := { c with calls := c.calls ++ [.stopping] }
  have hk : c₁.calls[k]? = some .stopping := List.getElem?_concat_length
  refine ⟨[.stop, .call k 0, .call k 0], ?_⟩
  change Stands (next (.call k 0) (next (.call k 0) c₁)) { r with task := none } ∧
    (next (.call k 0) (next (.call k 0) c₁)).produced = c.produced ++ []
  rw [List.append_nil]
  have hnone : ∀ task, none = some task → ∀ clocks : List Clock,
      clocks.getLast? = some ⟨{ task }, r.lastTick⟩ := fun _ hnone => nomatch hnone
  cases ht : task with
  | none =>
    have hrelease : next (.call k 0) c₁ = c₁.put k .returned := by
      simp [next, advance, hk, release, c₁, hunlocked, hunit, ht]
    have hreturned : (c₁.put k .returned).calls[k]? = some .returned := by
      simp [put, c₁, k]
    rw [hrelease, next_returned hreturned]
    exact ⟨⟨⟨lastTick, none, hunit.trans (by rw [ht]), rfl⟩, hunlocked, fun t h => hnone t h _⟩, rfl⟩
  | some mine =>
    let last := c.clocks.length - 1
    let c₂ : Counting :=
      { c₁.put k (.cancelling last) with locked := true, unit := (ModuleUnit.stop c.unit).unit }
    have hrelease : next (.call k 0) c₁ = c₂ := by
      simp [next, advance, hk, release, c₁, c₂, last, hunlocked, hunit, ht]
    have hcancelling : c₂.calls[k]? = some (.cancelling last) := by
      simp [c₂, put, c₁, k]
    have hcancel : next (.call k 0) c₂ = c₂.cancel k last := by
      simp only [next, advance, hcancelling]
    rw [hrelease, hcancel]
    refine ⟨⟨⟨lastTick, none, ?_, rfl⟩, rfl, fun t h => hnone t h _⟩, rfl⟩
    change (ModuleUnit.stop c.unit).unit = _
    rw [hunit]
    rfl

theorem tick_running {task : PeriodicTask} (h : r.task = some task) (now : Nat) :
    ModuleUnit.tick now r =
      { unit := { r with pending := 0, lastTick := now, task := some (task.taken now) }
        acts := [.emit (r.measurement now)] } := by
  change r.tick now = _
  rw [tick, h]

theorem tick_alone (h : Stands c r) {task : PeriodicTask} (ht : r.task = some task)
    (hdue : task.due ≤ now) : Does c (ModuleUnit.tick now r) := by
  obtain ⟨⟨lastTick, mine, hunit, hmine⟩, hunlocked, hclock⟩ := h
  obtain ⟨clocks, hclocks⟩ := List.getLast?_eq_some_iff.1 (hclock task ht)
  let i := clocks.length
  let j := c.ticks.length
  let ticking (last : Nat) : Clock := ⟨⟨task.taken now, .ticking⟩, last⟩
  -- The counter as it was, and the tick at one of its stages.
  let c₁ : Counting :=
    { c with clocks := clocks ++ [ticking r.lastTick], ticks := c.ticks ++ [{ clock := i }] }
  let after (last : Nat) (stage : Stage) : Counting :=
    { c with
      unit := { c.unit with pending := 0 }
      fresh := []
      clocks := clocks ++ [ticking last]
      ticks := c.ticks ++ [⟨i, stage, c.fresh⟩] }
  have hfire : next (.fire i now) c = c₁ := by
    simp [next, fire, hclocks, i, PeriodicTask.Loop.fire?, hdue, c₁, ticking]
  have htake : next (.tick j now) c₁ = after r.lastTick (.taken r.pending) := by
    simp [next, proceed, take, c₁, j, after, hunit]
  have htime : next (.tick j now) (after r.lastTick (.taken r.pending)) =
      after now (.timed r.pending (now - r.lastTick)) := by
    simp [next, proceed, time, setStage, j, after, i, ticking]
  have htell : next (.tick j now) (after now (.timed r.pending (now - r.lastTick))) =
      after now (.told (r.measurement now)) := by
    simp [next, proceed, setStage, j, after, told, measurement, hunit]
  have hover : next (.tick j now) (after now (.told (r.measurement now))) =
      { after now (.finished (r.measurement now)) with
        clocks := clocks ++ [⟨{ task := task.taken now }, now⟩] } := by
    simp [next, proceed, setStage, mapLoop, j, after, i, ticking, modify_concat, PeriodicTask.Loop.resume]
  refine ⟨[.fire i now, .tick j now, .tick j now, .tick j now, .tick j now], ?_⟩
  simp only [run, Schedule.run_cons, Schedule.run_nil, hfire, htake, htime, htell, hover]
  rw [tick_running ht]
  refine ⟨⟨⟨lastTick, mine, ?_, ?_⟩, hunlocked, ?_⟩, ?_⟩
  · simp [after, hunit]
  · rw [hmine, ht]
    rfl
  · intro task hnew
    cases hnew
    exact List.getLast?_concat
  · simp [produced, after, List.filterMap_append, Tick.measurement?, emitted]

inductive Use
  | event (e : QueryEvent)
  | start (now : Nat)
  | stop
  | tick (now : Nat)

def Use.turn : Use → RequestRate → ModuleTurn RequestRate
  | .event e, r => { unit := (ModuleUnit.transform e r).1.unit }
  | .start now, r => ModuleUnit.start now r
  | .stop, r => ModuleUnit.stop r
  | .tick now, r =>
    if (ModuleUnit.due? r).any (· ≤ now) then ModuleUnit.tick now r else { unit := r }

def uses : List Use → RequestRate → RequestRate × List Measurement
  | [], r => (r, [])
  | u :: us, r =>
    let rest := uses us (u.turn r).unit
    (rest.1, emitted (u.turn r).acts ++ rest.2)

theorem does_nothing (h : Stands c r) : Does c { unit := r } :=
  ⟨[], h, (List.append_nil _).symm⟩

theorem use_alone (h : Stands c r) (u : Use) : Does c (u.turn r) := by
  cases u with
  | event e =>
    refine ⟨[.event e], count_alone h e, ?_⟩
    exact (List.append_nil _).symm
  | start now => exact start_alone h now
  | stop => exact stop_alone h
  | tick now =>
    rw [Use.turn]
    split
    · next hdue =>
      change (r.task.map (·.due)).any (· ≤ now) = true at hdue
      cases ht : r.task with
      | none =>
        rw [ht] at hdue
        cases hdue
      | some task =>
        rw [ht] at hdue
        exact tick_alone h ht (by simpa using hdue)
    · exact does_nothing h

/-- Whatever one caller does to a module, some run of steps does, and produces the same. -/
theorem uses_alone (us : List Use) (h : Stands c r) :
    ∃ schedule, Stands (run schedule c) (uses us r).1 ∧
      (run schedule c).produced = c.produced ++ (uses us r).2 := by
  induction us generalizing c r with
  | nil => exact does_nothing h
  | cons u us ih =>
    obtain ⟨first, hfirst, hemitted⟩ := use_alone h u
    obtain ⟨rest, hrest, hproduced⟩ := ih hfirst
    refine ⟨first ++ rest, ?_, ?_⟩
    · rw [run, Schedule.run_append]
      exact hrest
    · rw [run, Schedule.run_append]
      refine hproduced.trans ?_
      rw [hemitted, List.append_assoc]
      rfl

theorem uses_opened (us : List Use) (h : r.task = none) :
    ∃ schedule, Stands (run schedule { unit := r }) (uses us r).1 ∧
      (run schedule { unit := r }).produced = (uses us r).2 :=
  uses_alone us (stands_opened h)

end QueryWatch.Periodic.RequestRate.Counting
