import Mathlib.Algebra.GroupWithZero.Nat
import QueryWatch.Proofs.Calls
import QueryWatch.Proofs.RequestRate.Counting
import QueryWatch.Proofs.Text.Numerals

namespace QueryWatch.Periodic.RequestRate

theorem pending_start (now : Nat) (r : RequestRate) : (r.start now).unit.pending = r.pending := by
  unfold start
  split <;> rfl

theorem pending_of_build {entry : ModuleEntry} {global : GlobalSettings} {r : RequestRate}
    (h : build entry global = .ok r) : r.pending = 0 := by
  unfold build at h
  cases hp : Periodic.period entry.options with
  | error fault =>
    rw [hp] at h
    cases h
  | ok nanos =>
    rw [hp] at h
    cases h
    rfl

def counted (m : Measurement) : Nat :=
  ((m.fields.get? "count").bind fun s => Text.Digits.natural? 10 s.toList).getD 0

theorem counted_of_fields {m : Measurement} {n : Nat}
    (h : m.fields = .ofList [("count", Config.count n)]) : counted m = n := by
  have hcount : m.fields.get? "count" = some (Config.count n) := by
    rw [h]
    exact KeyMap.get?_insert_self _ _ _
  rw [counted, hcount, Option.bind_some, Config.count, String.toList_ofList,
    Text.Digits.natural?_decimal, Option.getD_some]

/-- The account of a stage in which some events have been taken: what is held or told of them is how many they
are, as far as the counter goes. -/
def Stage.Holds (events : List QueryEvent) : Stage → Prop
  | .begun => events = []
  | .taken count => count = .ofNat events.length
  | .timed count _ => count = .ofNat events.length
  | .told m => m.fields = .ofList [("count", Config.count (UInt64.ofNat events.length).toNat)]
  | .finished m => m.fields = .ofList [("count", Config.count (UInt64.ofNat events.length).toNat)]

namespace Tick

/-- The count that a tick has taken and not yet told. -/
def inHand (t : Tick) : Nat :=
  match t.stage with
  | .taken count => count.toNat
  | .timed count _ => count.toNat
  | _ => 0

def measurement? (t : Tick) : Option Measurement :=
  match t.stage with
  | .told m => some m
  | .finished m => some m
  | _ => none

theorem share {t : Tick} (h : t.stage.Holds t.events) (hfew : t.events.length < UInt64.size) :
    (t.measurement?.elim 0 counted) + t.inHand = t.events.length := by
  have hcount : (UInt64.ofNat t.events.length).toNat = t.events.length :=
    UInt64.toNat_ofNat_of_lt' hfew
  unfold measurement? inHand
  cases hs : t.stage with
  | begun =>
    rw [hs] at h
    rw [show t.events = [] from h]
    rfl
  | taken count =>
    rw [hs] at h
    obtain rfl : count = _ := h
    exact (Nat.zero_add _).trans hcount
  | timed count elapsed =>
    rw [hs] at h
    obtain rfl : count = _ := h
    exact (Nat.zero_add _).trans hcount
  | told m =>
    rw [hs] at h
    exact (counted_of_fields h).trans hcount
  | finished m =>
    rw [hs] at h
    exact (counted_of_fields h).trans hcount

theorem entries_of_measurement {t : Tick} (h : t.stage.Holds t.events) {m : Measurement}
    (hm : t.measurement? = some m) : m.fields.entries = [("count", Config.count (counted m))] := by
  have hfields : m.fields = .ofList [("count", Config.count (UInt64.ofNat t.events.length).toNat)] := by
    unfold measurement? at hm
    cases hs : t.stage with
    | begun => simp [hs] at hm
    | taken count => simp [hs] at hm
    | timed count elapsed => simp [hs] at hm
    | told m' =>
      rw [hs] at h hm
      cases hm
      exact h
    | finished m' =>
      rw [hs] at h hm
      cases hm
      exact h
  rw [counted_of_fields hfields, hfields]
  rfl

end Tick

namespace Counting

def produced (c : Counting) : List Measurement :=
  c.ticks.filterMap Tick.measurement?

/-- The account of a request rate when some events have been counted. -/
structure Inv (called : List QueryEvent) (c : Counting) : Prop where
  pending : c.unit.pending = .ofNat c.fresh.length
  sound : ∀ t ∈ c.ticks, t.stage.Holds t.events
  once : (c.ticks.flatMap Tick.events ++ c.fresh).Perm called
  yielded : c.yielded = []

variable {called : List QueryEvent} {c : Counting}

theorem Inv.of_same (h : Inv called c) {d : Counting} (hpending : d.unit.pending = c.unit.pending)
    (hticks : d.ticks = c.ticks) (hfresh : d.fresh = c.fresh) (hyielded : d.yielded = c.yielded) :
    Inv called d :=
  ⟨by rw [hpending, hfresh, h.pending], by rw [hticks]; exact h.sound,
    by rw [hticks, hfresh]; exact h.once, by rw [hyielded, h.yielded]⟩

theorem Inv.count (h : Inv called c) (e : QueryEvent) : Inv (called ++ [e]) (c.count e) where
  pending := by
    change c.unit.pending + 1 = .ofNat (c.fresh ++ [e]).length
    rw [h.pending, List.length_append, List.length_singleton, UInt64.ofNat_add]
    rfl
  sound := h.sound
  once := by
    change (c.ticks.flatMap Tick.events ++ (c.fresh ++ [e])).Perm (called ++ [e])
    rw [← List.append_assoc]
    exact h.once.append_right [e]
  yielded := (List.append_nil _).trans h.yielded

theorem Inv.advance (h : Inv called c) (k now : Nat) : Inv called (c.advance k now) := by
  unfold Counting.advance
  split
  · unfold spawn
    split
    · exact h
    · split <;> exact h.of_same rfl rfl rfl rfl
  · exact h.of_same (pending_start _ _) rfl rfl rfl
  · unfold release
    split
    · exact h
    · split <;> exact h.of_same rfl rfl rfl rfl
  · exact h.of_same rfl rfl rfl rfl
  · exact h

theorem Inv.fire (h : Inv called c) (clock now : Nat) : Inv called (c.fire clock now) := by
  unfold Counting.fire
  split
  · exact h
  · split
    · exact h
    · refine ⟨h.pending, ?_, ?_, h.yielded⟩
      · intro t ht
        rcases List.mem_append.1 ht with ht | ht
        · exact h.sound t ht
        · rw [List.mem_singleton.1 ht]
          rfl
      · change ((c.ticks ++ _).flatMap Tick.events ++ c.fresh).Perm called
        rw [List.flatMap_append]
        simpa using h.once

theorem Inv.setStage (h : Inv called c) {k : Nat} {tick : Tick}
    (hk : c.ticks[k]? = some tick) (stage : Stage) (hsound : stage.Holds tick.events) :
    Inv called (c.setStage k tick stage) where
  pending := h.pending
  sound := by
    intro t ht
    rcases mem_set_cases ht with rfl | ht
    · exact hsound
    · exact h.sound t ht
  once := by
    change ((c.ticks.set k { tick with stage }).flatMap Tick.events ++ c.fresh).Perm called
    have hkept : (c.ticks.set k { tick with stage }).flatMap Tick.events = c.ticks.flatMap Tick.events :=
      flatMap_set_eq Tick.events hk rfl
    rw [hkept]
    exact h.once
  yielded := h.yielded

/-- What a tick takes is what has come in since the last taking. -/
theorem Inv.take (h : Inv called c) {k : Nat} {tick : Tick} (hk : c.ticks[k]? = some tick)
    (hbegun : tick.stage = .begun) : Inv called (c.take k tick) where
  pending := rfl
  sound := by
    intro t ht
    rcases mem_set_cases ht with rfl | ht
    · exact h.pending
    · exact h.sound t ht
  once := by
    -- The tick had nothing before, so the fresh events are put in its place and nothing is put out.
    have hnone : tick.events = [] := by
      have hsound := h.sound tick (List.mem_of_getElem? hk)
      rwa [hbegun] at hsound
    have hmoved := flatMap_set_perm Tick.events
      { tick with stage := .taken c.unit.pending, events := c.fresh } hk
    rw [hnone, List.append_nil] at hmoved
    change ((c.ticks.set k _).flatMap Tick.events ++ []).Perm called
    rw [List.append_nil]
    exact hmoved.trans h.once
  yielded := h.yielded

theorem Inv.proceed (h : Inv called c) (k now : Nat) : Inv called (c.proceed k now) := by
  unfold Counting.proceed
  split
  · exact h
  · next tick hk =>
    have hsound := h.sound tick (List.mem_of_getElem? hk)
    split
    · next hs => exact h.take hk hs
    · next count hs =>
      rw [hs] at hsound
      unfold time
      split
      · exact h
      · next clock _ =>
        have htimed := h.setStage hk (.timed count (now - clock.lastTick)) hsound
        exact htimed.of_same rfl rfl rfl rfl
    · next count elapsed hs =>
      rw [hs] at hsound
      obtain rfl : count = _ := hsound
      exact h.setStage hk _ rfl
    · next m hs =>
      rw [hs] at hsound
      have hover := h.setStage hk (.finished m) hsound
      exact hover.of_same rfl rfl rfl rfl
    · exact h

theorem Inv.quiet (h : Inv called c) : Inv (called ++ []) c := by
  rwa [List.append_nil]

theorem Inv.next (h : Inv called c) (choice : Choice) :
    Inv (called ++ choice.event?.toList) (next choice c) := by
  cases choice with
  | event e => exact h.count e
  | start =>
    have hsame : Inv called (Counting.next .start c) := h.of_same rfl rfl rfl rfl
    exact hsame.quiet
  | stop =>
    have hsame : Inv called (Counting.next .stop c) := h.of_same rfl rfl rfl rfl
    exact hsame.quiet
  | call k now => exact (h.advance k now).quiet
  | fire clock now => exact (h.fire clock now).quiet
  | tick k now => exact (h.proceed k now).quiet
  | leave clock =>
    have hsame : Inv called (Counting.next (.leave clock) c) := h.of_same rfl rfl rfl rfl
    exact hsame.quiet

theorem inv_run {r : RequestRate} (h : r.pending = 0) (schedule : List Choice) :
    Inv (schedule.filterMap Choice.event?) (run schedule { unit := r }) := by
  refine Schedule.run_induction (P := fun cs c => Inv (cs.filterMap Choice.event?) c) ?_ ?_ schedule
  · exact ⟨h, by simp, .nil, rfl⟩
  · intro cs choice hinv
    have hevents : (cs ++ [choice]).filterMap Choice.event? =
        cs.filterMap Choice.event? ++ choice.event?.toList := by
      rw [List.filterMap_append]
      cases h : choice.event? <;> simp [h]
    rw [hevents]
    exact hinv.next choice

theorem sum_shares {ticks : List Tick}
    (h : ∀ t ∈ ticks, t.measurement?.elim 0 counted + t.inHand = t.events.length) :
    ((ticks.filterMap Tick.measurement?).map counted).sum + (ticks.map Tick.inHand).sum =
      (ticks.flatMap Tick.events).length := by
  induction ticks with
  | nil => rfl
  | cons t ticks ih =>
    obtain ⟨hshare, hrest⟩ := List.forall_mem_cons.1 h
    have hsum := ih hrest
    rw [List.flatMap_cons, List.length_append, List.map_cons, List.sum_cons, ← hshare, ← hsum]
    cases hm : t.measurement? with
    | none =>
      rw [List.filterMap_cons_none hm, Option.elim_none]
      omega
    | some m =>
      rw [List.filterMap_cons_some hm, List.map_cons, List.sum_cons, Option.elim_some]
      omega

theorem Inv.few (h : Inv called c) (hfew : called.length < UInt64.size) :
    c.fresh.length < UInt64.size ∧ ∀ t ∈ c.ticks, t.events.length < UInt64.size := by
  have hlength := h.once.length_eq
  rw [List.length_append] at hlength
  refine ⟨by omega, fun t ht => ?_⟩
  have hle : t.events.length ≤ (c.ticks.flatMap Tick.events).length :=
    (List.sublist_flatten_of_mem (List.mem_map_of_mem ht)).length_le
  omega

/-- Under every schedule the counts that were told, the counts that ticks have in hand and the counter are
together the number of events; each event is in one of them, and comes to no measurement by itself. -/
theorem requests_conserved {entry : ModuleEntry} {global : GlobalSettings} {r : RequestRate}
    (hr : build entry global = .ok r) (schedule : List Choice)
    (hfew : (schedule.filterMap Choice.event?).length < UInt64.size) :
    let c := run schedule { unit := r }
    let events := schedule.filterMap Choice.event?
    (c.produced.map counted).sum + (c.ticks.map Tick.inHand).sum + c.unit.pending.toNat =
        events.length ∧
      (c.ticks.flatMap Tick.events ++ c.fresh).Perm events ∧
      (∀ t ∈ c.ticks, t.measurement?.elim 0 counted + t.inHand = t.events.length) ∧
      c.unit.pending.toNat = c.fresh.length ∧
      (∀ m ∈ c.produced, m.fields.entries = [("count", Config.count (counted m))]) ∧
      c.yielded = [] := by
  intro c events
  have hinv : Inv events c := inv_run (pending_of_build hr) schedule
  obtain ⟨hfresh, hticks⟩ := hinv.few hfew
  have hpending : c.unit.pending.toNat = c.fresh.length := by
    rw [hinv.pending]
    exact UInt64.toNat_ofNat_of_lt' hfresh
  have hshares : ∀ t ∈ c.ticks, t.measurement?.elim 0 counted + t.inHand = t.events.length :=
    fun t ht => Tick.share (hinv.sound t ht) (hticks t ht)
  refine ⟨?_, hinv.once, hshares, hpending, ?_, hinv.yielded⟩
  · rw [produced, sum_shares hshares, hpending, ← List.length_append, hinv.once.length_eq]
  · intro m hm
    obtain ⟨t, ht, htold⟩ := List.mem_filterMap.1 hm
    exact Tick.entries_of_measurement (hinv.sound t ht) htold

def quarter : Nat :=
  TimeUnit.minutes.duration 15

def settings : GlobalSettings :=
  ⟨"h", "s", true, 8998⟩

def quarterly : RequestRate :=
  ⟨"request_rate", "request_rate", quarter, settings.baseTags, 0, 0, none⟩

/-- A timer is stopped within a tick, and another is started before the tick takes anything. -/
def restart : List Choice :=
  [.start, .call 0 0, .call 0 0, .event default, .fire 0 quarter,
    .stop, .call 1 quarter, .call 1 quarter, .start, .start, .call 2 quarter, .call 2 quarter,
    .call 3 quarter, .event default, .tick 0 quarter,
    .event default, .fire 1 (2 * quarter), .tick 1 (2 * quarter), .event default,
    .tick 0 (2 * quarter), .tick 0 (2 * quarter)]

def restarted : Counting :=
  run restart { unit := quarterly }

/-- The old timer has told two events, the new one has one in hand, and one is in the counter. -/
theorem requests_conserved_restarted :
    build ⟨"request_rate", none, none, ∅⟩ settings = .ok quarterly ∧
      restarted.produced.map counted = [2] ∧ restarted.ticks.map Tick.inHand = [0, 1] ∧
      restarted.unit.pending = 1 ∧
      (restarted.produced.map counted).sum + (restarted.ticks.map Tick.inHand).sum +
        restarted.unit.pending.toNat = 4 := by
  have hr : build ⟨"request_rate", none, none, ∅⟩ settings = .ok quarterly := rfl
  have hevents : (restart.filterMap Choice.event?).length = 4 := rfl
  have hfew : (restart.filterMap Choice.event?).length < UInt64.size := by
    rw [hevents]
    decide
  have hsum := (requests_conserved hr restart hfew).1
  rw [hevents] at hsum
  exact ⟨hr, by decide +kernel, by decide +kernel, by decide +kernel, hsum⟩

end Counting

end QueryWatch.Periodic.RequestRate
