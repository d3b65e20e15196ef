import QueryWatch.Proofs.Calls
import QueryWatch.Proofs.RequestRate.Counting

namespace QueryWatch.Periodic.RequestRate

def Call.isInside : Call → Bool
  | .storing _ => true
  | .cancelling _ => true
  | _ => false

def Clock.isCancelled (k : Clock) : Bool :=
  k.loop.task.cancelled

namespace Counting

def cancelled (c : Counting) : List Bool :=
  c.clocks.map Clock.isCancelled

/-- What there is to hold on to: a timer that the module knows, or one that is just being made or cancelled. -/
def holds (c : Counting) : Bool :=
  c.unit.task.isSome || c.locked

structure Held (c : Counting) : Prop where
  inside : c.calls.countP Call.isInside = if c.locked then 1 else 0
  unknown : c.locked = true → c.unit.task = none
  last : ∀ i, .cancelling i ∈ c.calls → i + 1 = c.clocks.length
  timers : ∃ n, c.cancelled = List.replicate n true ++ if c.holds then [false] else []

variable {c : Counting}

theorem Held.of_same (h : Held c) {d : Counting} (hcalls : d.calls = c.calls)
    (hlocked : d.locked = c.locked) (htask : d.unit.task = c.unit.task)
    (hcancelled : d.cancelled = c.cancelled) : Held d where
  inside := by rw [hcalls, hlocked, h.inside]
  unknown := by rw [hlocked, htask]; exact h.unknown
  last := by
    have hlength := congrArg List.length hcancelled
    rw [cancelled, cancelled, List.length_map, List.length_map] at hlength
    rw [hcalls, hlength]
    exact h.last
  timers := by rw [hcancelled, holds, htask, hlocked]; exact h.timers

theorem notMem_of_outside {calls : List Call} (h : calls.countP Call.isInside = 0) (i : Nat) :
    .cancelling i ∉ calls := by
  intro hmem
  exact absurd rfl (List.countP_eq_zero.1 h _ hmem)

theorem inside_set {calls : List Call} {k : Nat} {call : Call} (hk : calls[k]? = some call)
    (new : Call) : (calls.set k new).countP Call.isInside + (if call.isInside then 1 else 0) =
      calls.countP Call.isInside + if new.isInside then 1 else 0 := by
  obtain ⟨hlt, rfl⟩ := List.getElem?_eq_some_iff.1 hk
  have hpos : (if calls[k].isInside then 1 else 0) ≤ calls.countP Call.isInside := by
    split
    · next hin => exact List.countP_pos_iff.2 ⟨_, List.getElem_mem hlt, hin⟩
    · exact Nat.zero_le _
  rw [List.countP_set hlt]
  omega

theorem Held.locked_of_inside (h : Held c) {call : Call} (hmem : call ∈ c.calls)
    (hin : call.isInside = true) : c.locked = true := by
  have hpos : 0 < c.calls.countP Call.isInside := List.countP_pos_iff.2 ⟨call, hmem, hin⟩
  rw [h.inside] at hpos
  cases hl : c.locked with
  | true => rfl
  | false => simp [hl] at hpos

theorem Held.free (h : Held c) (hunlocked : ¬c.locked = true) :
    c.calls.countP Call.isInside = 0 := by
  rw [h.inside, if_neg hunlocked]

theorem Held.come (h : Held c) {call : Call} (hout : call.isInside = false) :
    Held { c with calls := c.calls ++ [call] } where
  inside := by
    change (c.calls ++ [call]).countP Call.isInside = _
    rw [List.countP_append, h.inside, List.countP_singleton, hout]
    rfl
  unknown := h.unknown
  last := by
    intro i hmem
    rcases List.mem_append.1 hmem with hmem | hmem
    · exact h.last i hmem
    · rw [← List.mem_singleton.1 hmem] at hout
      cases hout
  timers := h.timers

theorem Held.put (h : Held c) {k : Nat} {call new : Call} (hk : c.calls[k]? = some call)
    (hout : call.isInside = false) (hnew : new.isInside = false) : Held (c.put k new) where
  inside := by
    have hset := inside_set hk new
    rw [hout, hnew] at hset
    exact hset.trans h.inside
  unknown := h.unknown
  last := by
    intro i hmem
    rcases mem_set_cases hmem with hmem | hmem
    · rw [← hmem] at hnew
      cases hnew
    · exact h.last i hmem
  timers := h.timers

theorem Held.outside_set (h : Held c) {k : Nat} {call : Call} (hk : c.calls[k]? = some call)
    (hin : call.isInside = true) : (c.calls.set k .returned).countP Call.isInside = 0 := by
  have hset := inside_set hk .returned
  have hlocked := h.locked_of_inside (List.mem_of_getElem? hk) hin
  rw [h.inside, if_pos hlocked, if_pos hin] at hset
  exact Nat.add_right_cancel hset

theorem Held.spawn (h : Held c) {k : Nat} (hk : c.calls[k]? = some .starting) (now : Nat) :
    Held (c.spawn k now) := by
  unfold Counting.spawn
  split
  · exact h
  · next hunlocked =>
    split
    · exact h.put hk rfl rfl
    · next htask =>
      have hfree := h.free hunlocked
      have hnone : c.holds = false := by
        rw [holds, htask, Bool.eq_false_iff.2 hunlocked]
        rfl
      obtain ⟨n, hn⟩ := h.timers
      rw [hnone, if_neg Bool.false_ne_true, List.append_nil] at hn
      refine ⟨?_, fun _ => htask, ?_, n, ?_⟩
      · have hset := inside_set hk (.storing now)
        rw [hfree] at hset
        exact hset
      · intro i hmem
        rcases mem_set_cases hmem with hmem | hmem
        · cases hmem
        · exact absurd hmem (notMem_of_outside hfree i)
      · rw [holds, Bool.or_true, if_pos rfl, ← hn, cancelled, List.map_append]
        refine congrArg (c.clocks.map Clock.isCancelled ++ ·) ?_
        rw [List.map_singleton, Clock.isCancelled, PeriodicTask.not_cancelled_start]

theorem Held.store (h : Held c) {k begun : Nat} (hk : c.calls[k]? = some (.storing begun)) :
    Held (c.store k begun) := by
  have hlocked := h.locked_of_inside (List.mem_of_getElem? hk) rfl
  have hnone := h.outside_set hk rfl
  have hstarted : (ModuleUnit.start begun c.unit).unit.task.isSome = true := by
    change (c.unit.start begun).unit.task.isSome = true
    rw [start, h.unknown hlocked]
    rfl
  obtain ⟨n, hn⟩ := h.timers
  rw [holds, hlocked, Bool.or_true] at hn
  refine ⟨hnone, fun hl => absurd hl Bool.false_ne_true,
    fun i hmem => absurd hmem (notMem_of_outside hnone i), n, ?_⟩
  rw [holds]
  change c.cancelled = _ ++ if ((ModuleUnit.start begun c.unit).unit.task.isSome || false) = true
    then [false] else []
  rw [hstarted]
  exact hn

theorem Held.release (h : Held c) {k : Nat} (hk : c.calls[k]? = some .stopping) :
    Held (c.release k) := by
  unfold Counting.release
  split
  · exact h
  · next hunlocked =>
    split
    · exact h.put hk rfl rfl
    · next task htask =>
      have hfree := h.free hunlocked
      obtain ⟨n, hn⟩ := h.timers
      rw [holds, htask] at hn
      have hlength := congrArg List.length hn
      rw [cancelled, List.length_map] at hlength
      refine ⟨?_, fun _ => rfl, ?_, n, ?_⟩
      · have hset := inside_set hk (.cancelling (c.clocks.length - 1))
        rw [hfree] at hset
        exact hset
      · intro i hmem
        rcases mem_set_cases hmem with hmem | hmem
        · cases hmem
          change c.clocks.length - 1 + 1 = c.clocks.length
          simp at hlength
          omega
        · exact absurd hmem (notMem_of_outside hfree i)
      · exact hn

theorem Held.cancel (h : Held c) {k i : Nat} (hk : c.calls[k]? = some (.cancelling i)) :
    Held (c.cancel k i) := by
  have hmem := List.mem_of_getElem? hk
  have hlocked := h.locked_of_inside hmem rfl
  have hnone := h.outside_set hk rfl
  obtain ⟨n, hn⟩ := h.timers
  rw [holds, hlocked, Bool.or_true, if_pos rfl] at hn
  obtain ⟨before, rest, hclocks, hbefore, hrest⟩ := List.map_eq_append_iff.1 hn
  obtain ⟨last, rfl, -⟩ := List.map_eq_singleton_iff.1 hrest
  -- A stop knows its timer by its place, and no start could put another behind it in between.
  have hi : i = before.length := by
    have hlast := h.last i hmem
    rw [hclocks, List.length_append, List.length_singleton] at hlast
    exact Nat.add_right_cancel hlast
  refine ⟨hnone, fun hl => absurd hl Bool.false_ne_true,
    fun j hj => absurd hj (notMem_of_outside hnone j), n + 1, ?_⟩
  rw [holds]
  change (c.clocks.modify i _).map Clock.isCancelled = _ ++
    if (c.unit.task.isSome || false) = true then [false] else []
  rw [h.unknown hlocked, hclocks, hi, modify_concat, List.map_append, hbefore, List.replicate_succ']
  exact (List.append_nil _).symm

theorem Held.advance (h : Held c) (k now : Nat) : Held (c.advance k now) := by
  unfold Counting.advance
  split
  · next hk => exact h.spawn hk now
  · next begun hk => exact h.store hk
  · next hk => exact h.release hk
  · next i hk => exact h.cancel hk
  · exact h

theorem cancelled_mapLoop {f : PeriodicTask.Loop → PeriodicTask.Loop}
    (hf : ∀ l, (f l).task.cancelled = l.task.cancelled) (i : Nat) (c : Counting) :
    (c.mapLoop i f).cancelled = c.cancelled := by
  refine map_modify_eq Clock.isCancelled ?_ c.clocks i
  intro k
  exact hf k.loop

theorem Held.fire (h : Held c) (i now : Nat) : Held (c.fire i now) := by
  unfold Counting.fire
  split
  · exact h
  · next clock hi =>
    split
    · exact h
    · next loop hloop =>
      refine h.of_same rfl rfl rfl ?_
      exact map_set_eq Clock.isCancelled hi (PeriodicTask.Loop.cancelled_fire hloop)

theorem Held.proceed (h : Held c) (k now : Nat) : Held (c.proceed k now) := by
  unfold Counting.proceed
  split
  · exact h
  · next tick hk =>
    split
    · exact h.of_same rfl rfl rfl rfl
    · unfold time
      split
      · exact h
      · next clock hclock =>
        refine h.of_same rfl rfl rfl ?_
        exact map_set_eq Clock.isCancelled hclock rfl
    · exact h.of_same rfl rfl rfl rfl
    · refine h.of_same rfl rfl rfl ?_
      exact cancelled_mapLoop PeriodicTask.Loop.cancelled_resume _ _
    · exact h

theorem Held.next (h : Held c) (choice : Choice) : Held (next choice c) := by
  cases choice with
  | event e => exact h.of_same rfl rfl rfl rfl
  | start => exact h.come rfl
  | stop => exact h.come rfl
  | call k now => exact h.advance k now
  | fire i now => exact h.fire i now
  | tick k now => exact h.proceed k now
  | leave i => exact h.of_same rfl rfl rfl (cancelled_mapLoop PeriodicTask.Loop.cancelled_leave _ _)

theorem held_run {r : RequestRate} (h : r.task = none) (schedule : List Choice) :
    Held (run schedule { unit := r }) := by
  refine Schedule.run_invariant ?_ (fun choice c hc => hc.next choice) schedule
  refine ⟨rfl, fun hl => absurd hl Bool.false_ne_true, fun i hi => absurd hi List.not_mem_nil, 0, ?_⟩
  rw [holds, h]
  rfl

/-- At most one timer is not cancelled. When no start or stop is at work, it is the last one if the module holds
a timer, and there is none if it does not. -/
theorem one_timer {r : RequestRate} (h : r.task = none) (schedule : List Choice) :
    let c := run schedule { unit := r }
    c.cancelled.count false ≤ 1 ∧
      (c.locked = false → c.unit.task = none → ∀ k ∈ c.clocks, k.isCancelled = true) ∧
      (c.locked = false → ∀ task, c.unit.task = some task →
        c.clocks.getLast?.map Clock.isCancelled = some false) := by
  intro c
  obtain ⟨-, -, -, n, hn⟩ := held_run h schedule
  rw [holds] at hn
  change c.cancelled = _ ++ if (c.unit.task.isSome || c.locked) = true then [false] else [] at hn
  refine ⟨?_, ?_, ?_⟩
  · have hnone : (List.replicate n true).count false = 0 := List.count_eq_zero.2 (by simp)
    rw [hn, List.count_append, hnone, Nat.zero_add]
    split <;> decide
  · intro hlocked htask k hk
    rw [hlocked, htask] at hn
    have hmem : k.isCancelled ∈ c.cancelled := List.mem_map_of_mem hk
    rw [hn] at hmem
    exact List.eq_of_mem_replicate (by simpa using hmem)
  · intro hlocked task htask
    rw [htask] at hn
    rw [← List.getLast?_map]
    exact (congrArg List.getLast? hn).trans List.getLast?_concat

end Counting

end QueryWatch.Periodic.RequestRate
