import QueryWatch.Proofs.Calls
import QueryWatch.Proofs.Periodic.Loop
import QueryWatch.Proofs.Schedule

namespace QueryWatch.PeriodicTask

namespace Loop

/-- A look at both of the things that the loop waits for. If both are there, it goes by the one that it
happens to look at first. -/
def look (now : Nat) (tickFirst : Bool) (l : Loop) : Loop :=
  if l.task.cancelled ∧ ¬tickFirst then l.leave else (l.fire? now).getD l.leave

theorem look_cases {l : Loop} (h : l.phase = .waiting) (now : Nat) (tickFirst : Bool) :
    l.task.due ≤ now ∧ (l.task.cancelled → tickFirst) ∧
        l.look now tickFirst = ⟨l.task.taken now, .ticking⟩ ∨
      l.task.cancelled ∧ l.look now tickFirst = ⟨l.task, .ended⟩ ∨
      l.task.cancelled = false ∧ l.look now tickFirst = l := by
  have hleave (hc : l.task.cancelled) : l.leave = ⟨l.task, .ended⟩ := if_pos ⟨h, hc⟩
  by_cases hfirst : l.task.cancelled ∧ ¬tickFirst
  · right; left
    exact ⟨hfirst.1, (if_pos hfirst).trans (hleave hfirst.1)⟩
  have hlook : l.look now tickFirst = (l.fire? now).getD l.leave := if_neg hfirst
  by_cases hdue : l.task.due ≤ now
  · left
    have hfire : l.fire? now = some ⟨l.task.taken now, .ticking⟩ := if_pos ⟨h, hdue⟩
    refine ⟨hdue, fun hc => Classical.not_not.1 fun hn => hfirst ⟨hc, hn⟩, ?_⟩
    rw [hlook, hfire, Option.getD_some]
  · have hfire : l.fire? now = none := if_neg fun hboth => hdue hboth.2
    rw [hlook, hfire, Option.getD_none]
    cases hc : l.task.cancelled with
    | true => exact .inr (.inl ⟨rfl, hleave hc⟩)
    | false => exact .inr (.inr ⟨rfl, if_neg fun hboth => Bool.noConfusion (hc.symm.trans hboth.2)⟩)

end Loop

inductive Job
  | queued
  | running
  | over (panicked : Bool)
  deriving DecidableEq

def Job.isOpen : Job → Bool
  | .over _ => false
  | _ => true

/-- A periodic task with its ticks, which run in a pool of threads. If a tick outlasted its period the next
one is due by then, and even if the task was cancelled meanwhile, the loop may go by the tick. -/
structure Ticking where
  loop : Loop
  now : Nat
  jobs : List Job := []
  signals : List Signal := []
  /-- How many ticks began after the task was cancelled. -/
  further : Nat := 0
  /-- How many times since then a tick outlasted its period and the loop went by the next one. -/
  overruled : Nat := 0

/-- What happens next: time passes, the loop looks about, a thread of the pool begins or ends a tick, the
loop comes back from one, or the task is cancelled, be it by a call, by the loss of its handle or with its
module. -/
inductive Choice
  | pass (nanos : Nat)
  | look (tickFirst : Bool)
  | begin (k : Nat)
  | finish (k : Nat) (panicked : Bool)
  | back (tickFirst : Bool)
  | cancel
  deriving DecidableEq

namespace Ticking

def opened (name : String) (period now : Nat) : Ticking where
  loop := { task := (start name period now).1 }
  now := now
  signals := (start name period now).2

def look (tickFirst : Bool) (s : Ticking) : Ticking :=
  let loop := s.loop.look s.now tickFirst
  { s with
    loop
    jobs := if s.loop.phase = .waiting ∧ loop.phase = .ticking then s.jobs ++ [.queued] else s.jobs }

def begin (k : Nat) (s : Ticking) : Ticking :=
  match s.jobs[k]? with
  | some .queued =>
    { s with
      jobs := s.jobs.set k .running
      further := if s.loop.task.cancelled then s.further + 1 else s.further }
  | _ => s

def finish (k : Nat) (panicked : Bool) (s : Ticking) : Ticking :=
  match s.jobs[k]? with
  | some .running => { s with jobs := s.jobs.set k (.over panicked) }
  | _ => s

def overrules (tickFirst : Bool) (s : Ticking) : Prop :=
  s.loop.task.cancelled ∧ s.loop.task.due ≤ s.now ∧ tickFirst

instance (tickFirst : Bool) (s : Ticking) : Decidable (s.overrules tickFirst) :=
  inferInstanceAs (Decidable (_ ∧ _ ∧ _))

def resume (panicked tickFirst : Bool) (s : Ticking) : Ticking :=
  { s with
    loop := s.loop.resume
    signals := s.signals ++ if panicked then [.notice (.tickPanicked s.loop.task.name)] else []
    overruled := if s.overrules tickFirst then s.overruled + 1 else s.overruled }

def back (tickFirst : Bool) (s : Ticking) : Ticking :=
  match s.loop.phase, s.jobs.getLast? with
  | .ticking, some (.over panicked) => (s.resume panicked tickFirst).look tickFirst
  | _, _ => s

def next : Choice → Ticking → Ticking
  | .pass nanos, s => { s with now := s.now + nanos }
  | .look tickFirst, s => s.look tickFirst
  | .begin k, s => s.begin k
  | .finish k panicked, s => s.finish k panicked
  | .back tickFirst, s => s.back tickFirst
  | .cancel, s => { s with loop := s.loop.cancel }

abbrev run (schedule : List Choice) (s : Ticking) : Ticking :=
  Schedule.run next schedule s

variable {s : Ticking}

theorem look_due {tickFirst : Bool} (hphase : s.loop.phase = .waiting) (hdue : s.loop.task.due ≤ s.now)
    (hchosen : s.loop.task.cancelled → tickFirst) : s.look tickFirst = { s with
      loop := ⟨s.loop.task.taken s.now, .ticking⟩
      jobs := s.jobs ++ [.queued] } := by
  have hfire : s.loop.fire? s.now = some ⟨s.loop.task.taken s.now, .ticking⟩ := if_pos ⟨hphase, hdue⟩
  have hlook : s.loop.look s.now tickFirst = ⟨s.loop.task.taken s.now, .ticking⟩ := by
    rw [Loop.look, if_neg fun hboth => hboth.2 (hchosen hboth.1), hfire, Option.getD_some]
  rw [look, hlook, if_pos ⟨hphase, rfl⟩]

theorem look_idle (hphase : s.loop.phase = .waiting) (hc : s.loop.task.cancelled = false)
    (hdue : s.now < s.loop.task.due) (tickFirst : Bool) : s.look tickFirst = s := by
  obtain ⟨hready, -⟩ | ⟨hc', -⟩ | ⟨-, hlook⟩ := s.loop.look_cases hphase s.now tickFirst
  · exact absurd hdue (Nat.not_lt.2 hready)
  · exact Bool.noConfusion (hc.symm.trans hc')
  · rw [look, hlook, if_neg fun hboth => Phase.noConfusion (hphase.symm.trans hboth.2)]

theorem set_latest (before : List Job) (old new : Job) :
    (before ++ [old]).set before.length new = before ++ [new] := by
  rw [List.set_append_right _ _ (Nat.le_refl _), Nat.sub_self]
  rfl

theorem begin_latest {before : List Job} (hjobs : s.jobs = before ++ [.queued]) :
    s.begin before.length = { s with
      jobs := before ++ [.running]
      further := if s.loop.task.cancelled then s.further + 1 else s.further } := by
  rw [begin, hjobs, List.getElem?_concat_length]
  dsimp only
  rw [set_latest]

theorem finish_latest {before : List Job} (hjobs : s.jobs = before ++ [.running]) (panicked : Bool) :
    s.finish before.length panicked = { s with jobs := before ++ [.over panicked] } := by
  rw [finish, hjobs, List.getElem?_concat_length]
  dsimp only
  rw [set_latest]

theorem back_latest {before : List Job} {panicked : Bool} (hphase : s.loop.phase = .ticking)
    (hjobs : s.jobs = before ++ [.over panicked]) (tickFirst : Bool) :
    s.back tickFirst = (s.resume panicked tickFirst).look tickFirst := by
  rw [back, hphase, hjobs, List.getLast?_concat]

theorem tick_alone (hphase : s.loop.phase = .waiting) (hc : s.loop.task.cancelled = false)
    (hperiod : 0 < s.loop.task.period) (hdue : s.loop.task.due ≤ s.now) (panicked first second : Bool) :
    s.run [.look first, .begin s.jobs.length, .finish s.jobs.length panicked, .back second] = { s with
      loop := ⟨s.loop.task.taken s.now, .waiting⟩
      jobs := s.jobs ++ [.over panicked]
      signals := s.signals ++ if panicked then [.notice (.tickPanicked s.loop.task.name)] else [] } := by
  let t : Ticking := { s with loop := ⟨s.loop.task.taken s.now, .ticking⟩ }
  have hlive : ¬t.loop.task.cancelled = true := fun hc' => Bool.noConfusion (hc.symm.trans hc')
  have hlook : s.look first = { t with jobs := s.jobs ++ [.queued] } :=
    look_due hphase hdue fun hc' => absurd hc' hlive
  have hbegin : (s.look first).begin s.jobs.length = { t with jobs := s.jobs ++ [.running] } := by
    rw [hlook, begin_latest rfl]
    dsimp only
    rw [if_neg hlive]
  have hfinish : ((s.look first).begin s.jobs.length).finish s.jobs.length panicked =
      { t with jobs := s.jobs ++ [.over panicked] } := by
    rw [hbegin, finish_latest rfl]
  have hkept : ¬overrules second { t with jobs := s.jobs ++ [.over panicked] } :=
    fun ho => hlive ho.1
  calc s.run [.look first, .begin s.jobs.length, .finish s.jobs.length panicked, .back second]
      = back second (((s.look first).begin s.jobs.length).finish s.jobs.length panicked) := rfl
    _ = (resume panicked second { t with jobs := s.jobs ++ [.over panicked] }).look second := by
      rw [hfinish, back_latest rfl rfl]
    _ = resume panicked second { t with jobs := s.jobs ++ [.over panicked] } := by
      apply look_idle
      case hphase => rfl
      case hc => exact hc
      case hdue => exact Nat.lt_add_of_pos_right hperiod
    _ = _ := by
      rw [resume, if_neg hkept]
      rfl

/-- The ticks that may begin without another return to the loop. -/
def ahead (s : Ticking) : Nat :=
  if s.loop.phase = .waiting ∨ .queued ∈ s.jobs then 1 else 0

structure Sound (s : Ticking) : Prop where
  alone : ∀ k job, s.jobs[k]? = some job → job.isOpen = true →
    s.loop.phase = .ticking ∧ k + 1 = s.jobs.length
  fresh : s.loop.task.cancelled = false → s.further = 0 ∧ s.overruled = 0
  few : s.loop.task.cancelled = true → s.further + s.ahead ≤ 1 + s.overruled

theorem Sound.of_over (hover : ∀ job ∈ s.jobs, job.isOpen = false)
    (hfresh : s.loop.task.cancelled = false → s.further = 0 ∧ s.overruled = 0)
    (hfew : s.loop.task.cancelled = true → s.further + s.ahead ≤ 1 + s.overruled) : Sound s where
  alone := by
    intro k job hk hopen
    rw [hover job (List.mem_of_getElem? hk)] at hopen
    cases hopen
  fresh := hfresh
  few := hfew

theorem sound_opened (name : String) (period now : Nat) : Sound (opened name period now) := by
  have hfresh := not_cancelled_start name period now
  apply Sound.of_over
  · exact fun _ hmem => absurd hmem List.not_mem_nil
  · exact fun _ => ⟨rfl, rfl⟩
  · exact fun hc => Bool.noConfusion (hfresh.symm.trans hc)

theorem Sound.over (h : Sound s) (hphase : s.loop.phase ≠ .ticking) :
    ∀ job ∈ s.jobs, job.isOpen = false := by
  intro job hmem
  obtain ⟨k, hk⟩ := List.getElem?_of_mem hmem
  apply Bool.eq_false_iff.2
  intro hopen
  exact hphase (h.alone k job hk hopen).1

theorem ahead_le_one (s : Ticking) : s.ahead ≤ 1 := by
  unfold ahead
  split <;> omega

theorem ahead_of_over (hphase : s.loop.phase ≠ .waiting)
    (hover : ∀ job ∈ s.jobs, job.isOpen = false) : s.ahead = 0 := by
  apply if_neg
  rintro (hwaiting | hqueued)
  · exact hphase hwaiting
  · exact Bool.noConfusion (hover _ hqueued)

theorem look_of_busy (h : s.loop.phase ≠ .waiting) (tickFirst : Bool) : s.look tickFirst = s := by
  have hfire : s.loop.fire? s.now = none := if_neg fun hboth => h hboth.1
  have hleave : s.loop.leave = s.loop := if_neg fun hboth => h hboth.1
  have hlook : s.loop.look s.now tickFirst = s.loop := by
    rw [Loop.look, hfire, hleave]
    exact ite_self _
  rw [look, hlook, if_neg fun hboth => h hboth.1]

theorem sound_look_idle {tickFirst : Bool} (hphase : s.loop.phase = .waiting)
    (hover : ∀ job ∈ s.jobs, job.isOpen = false)
    (hfresh : s.loop.task.cancelled = false → s.further = 0 ∧ s.overruled = 0)
    (hfew : s.loop.task.cancelled = true → s.further ≤ 1 + s.overruled)
    (hdue : s.overrules tickFirst → s.further ≤ s.overruled) : Sound (s.look tickFirst) := by
  rw [look]
  obtain ⟨hready, hchosen, hlook⟩ | ⟨-, hlook⟩ | ⟨hc, hlook⟩ :=
    s.loop.look_cases hphase s.now tickFirst
  · rw [hlook]
    dsimp only
    rw [if_pos ⟨hphase, rfl⟩]
    constructor
    case alone =>
      intro k job hk hopen
      rcases getElem?_concat_cases hk with hk | ⟨hk, -⟩
      · rw [hover job (List.mem_of_getElem? hk)] at hopen
        cases hopen
      · exact ⟨rfl, by rw [hk, List.length_append, List.length_singleton]⟩
    case fresh => exact hfresh
    case few =>
      intro hc
      have hle : s.further ≤ s.overruled := hdue ⟨hc, hready, hchosen hc⟩
      rw [Nat.add_comm 1]
      exact Nat.add_le_add hle (ahead_le_one _)
  · rw [hlook]
    dsimp only
    rw [if_neg fun hboth => Phase.noConfusion hboth.2]
    apply Sound.of_over
    · exact hover
    · exact hfresh
    · intro hc
      have hahead := ahead_of_over (s := { s with loop := ⟨s.loop.task, .ended⟩ }) nofun hover
      rw [hahead]
      exact hfew hc
  · rw [hlook, if_neg fun hboth => Phase.noConfusion (hphase.symm.trans hboth.2)]
    apply Sound.of_over
    · exact hover
    · exact hfresh
    · exact fun hc' => Bool.noConfusion (hc.symm.trans hc')

theorem sound_look (h : Sound s) (tickFirst : Bool) : Sound (s.look tickFirst) := by
  by_cases hphase : s.loop.phase = .waiting
  · have hbound (hc : s.loop.task.cancelled = true) : s.further ≤ s.overruled := by
      have hfew := h.few hc
      rw [ahead, if_pos (.inl hphase)] at hfew
      omega
    apply sound_look_idle hphase
    · exact h.over fun hticking => Phase.noConfusion (hphase.symm.trans hticking)
    · exact h.fresh
    · exact fun hc => Nat.le_add_left_of_le (hbound hc)
    · exact fun hover => hbound hover.1
  · rw [look_of_busy hphase]
    exact h

theorem Sound.over_of_last (h : Sound s) {panicked : Bool}
    (hlast : s.jobs.getLast? = some (.over panicked)) : ∀ job ∈ s.jobs, job.isOpen = false := by
  intro job hmem
  obtain ⟨k, hk⟩ := List.getElem?_of_mem hmem
  apply Bool.eq_false_iff.2
  intro hopen
  obtain ⟨-, hlength⟩ := h.alone k job hk hopen
  rw [List.getLast?_eq_getElem?, ← hlength, Nat.add_sub_cancel, hk] at hlast
  rw [Option.some.inj hlast] at hopen
  cases hopen

theorem sound_back (h : Sound s) (tickFirst : Bool) : Sound (s.back tickFirst) := by
  rw [back]
  split
  case h_1 panicked hphase hlast =>
    have hover := h.over_of_last hlast
    have hticking : s.loop.phase ≠ .waiting :=
      fun hwaiting => Phase.noConfusion (hphase.symm.trans hwaiting)
    have hbound (hc : s.loop.task.cancelled = true) : s.further ≤ 1 + s.overruled := by
      have hfew := h.few hc
      rwa [ahead_of_over hticking hover] at hfew
    have hresume : s.loop.resume = ⟨s.loop.task, .waiting⟩ := by
      rw [Loop.resume, hphase]
    have hoverrules : (s.resume panicked tickFirst).overrules tickFirst ↔ s.overrules tickFirst := by
      unfold overrules resume
      rw [hresume]
    apply sound_look_idle
    · rw [resume, hresume]
    · exact hover
    · rw [resume, hresume]
      intro hc
      have hkept : ¬s.overrules tickFirst := fun ho => Bool.noConfusion (hc.symm.trans ho.1)
      dsimp only
      rw [if_neg hkept]
      exact h.fresh hc
    · rw [resume, hresume]
      intro hc
      have hle := hbound hc
      dsimp only
      split <;> omega
    · intro ho
      have ho' := hoverrules.1 ho
      have hle := hbound ho'.1
      rw [resume, if_pos ho']
      exact Nat.add_comm 1 _ ▸ hle
  case h_2 => exact h

theorem alone_set (h : Sound s) {k : Nat} {old : Job} (hk : s.jobs[k]? = some old)
    (hopen : old.isOpen = true) (new : Job) :
    ∀ i job, (s.jobs.set k new)[i]? = some job → job.isOpen = true →
      s.loop.phase = .ticking ∧ i + 1 = (s.jobs.set k new).length := by
  intro i job hi hjob
  rw [List.length_set]
  by_cases hik : k = i
  · subst hik
    exact h.alone k old hk hopen
  · rw [List.getElem?_set_ne hik] at hi
    exact h.alone i job hi hjob

theorem none_queued_set (h : Sound s) {k : Nat} {old : Job} (hk : s.jobs[k]? = some old)
    (hopen : old.isOpen = true) {new : Job} (hnew : new ≠ .queued) :
    ¬(s.loop.phase = .waiting ∨ .queued ∈ s.jobs.set k new) := by
  obtain ⟨hticking, hlast⟩ := h.alone k old hk hopen
  rintro (hwaiting | hqueued)
  · exact Phase.noConfusion (hticking.symm.trans hwaiting)
  · obtain ⟨i, hi⟩ := List.getElem?_of_mem hqueued
    obtain ⟨-, hlength⟩ := alone_set h hk hopen new i _ hi rfl
    rw [List.length_set] at hlength
    obtain rfl : i = k := by omega
    rw [List.getElem?_set_self (by omega)] at hi
    exact hnew (Option.some.inj hi)

theorem sound_begin (h : Sound s) (k : Nat) : Sound (s.begin k) := by
  rw [begin]
  split
  case h_1 hk =>
    constructor
    case alone => exact alone_set h hk rfl .running
    case fresh =>
      intro hc
      dsimp only at hc ⊢
      rw [hc]
      exact h.fresh hc
    case few =>
      intro hc
      have hfew := h.few hc
      have hqueued : s.ahead = 1 := if_pos (.inr (List.mem_of_getElem? hk))
      have hnone := none_queued_set h hk rfl (by decide : Job.running ≠ .queued)
      dsimp only [ahead] at hc ⊢
      rw [if_neg hnone, if_pos hc, Nat.add_zero]
      rwa [hqueued] at hfew
  case h_2 => exact h

theorem sound_finish (h : Sound s) (k : Nat) (panicked : Bool) : Sound (s.finish k panicked) := by
  rw [finish]
  split
  case h_1 hk =>
    constructor
    case alone => exact alone_set h hk rfl (.over panicked)
    case fresh => exact h.fresh
    case few =>
      intro hc
      have hnone := none_queued_set h hk rfl (Job.noConfusion : Job.over panicked ≠ .queued)
      dsimp only [ahead]
      rw [if_neg hnone]
      exact Nat.le_trans (Nat.le_add_right _ _) (h.few hc)
  case h_2 => exact h

theorem sound_cancel (h : Sound s) : Sound { s with loop := s.loop.cancel } where
  alone := h.alone
  fresh hc := by cases hc
  few _ := by
    cases hc : s.loop.task.cancelled with
    | true => exact h.few hc
    | false =>
      obtain ⟨hfurther, hoverruled⟩ := h.fresh hc
      dsimp only
      rw [hfurther, hoverruled, Nat.zero_add]
      exact ahead_le_one _

theorem sound_next (c : Choice) (s : Ticking) (h : Sound s) : Sound (next c s) := by
  cases c with
  | pass nanos => exact ⟨h.alone, h.fresh, h.few⟩
  | look tickFirst => exact sound_look h tickFirst
  | begin k => exact sound_begin h k
  | finish k panicked => exact sound_finish h k panicked
  | back tickFirst => exact sound_back h tickFirst
  | cancel => exact sound_cancel h

theorem sound_run (name : String) (period now : Nat) (schedule : List Choice) :
    Sound ((opened name period now).run schedule) :=
  Schedule.run_invariant (sound_opened name period now) sound_next schedule

theorem overruled_look (tickFirst : Bool) (s : Ticking) : (s.look tickFirst).overruled = s.overruled :=
  rfl

theorem overruled_begin (k : Nat) (s : Ticking) : (s.begin k).overruled = s.overruled := by
  rw [begin]
  split <;> rfl

theorem overruled_finish (k : Nat) (panicked : Bool) (s : Ticking) :
    (s.finish k panicked).overruled = s.overruled := by
  rw [finish]
  split <;> rfl

theorem overruled_back_le (tickFirst : Bool) (s : Ticking) :
    (s.back tickFirst).overruled ≤ s.overruled + [Choice.back tickFirst].count (.back true) := by
  rw [back]
  split
  · rw [overruled_look, resume]
    dsimp only
    split
    case isTrue ho =>
      obtain ⟨-, -, rfl⟩ := ho
      exact Nat.le_refl _
    case isFalse => exact Nat.le_add_right _ _
  · exact Nat.le_add_right _ _

theorem overruled_next_le (c : Choice) (s : Ticking) :
    (next c s).overruled ≤ s.overruled + [c].count (.back true) := by
  cases c with
  | pass nanos => exact Nat.le_add_right _ _
  | look tickFirst => exact Nat.le_add_right _ _
  | begin k =>
    rw [next, overruled_begin]
    exact Nat.le_add_right _ _
  | finish k panicked =>
    rw [next, overruled_finish]
    exact Nat.le_add_right _ _
  | back tickFirst => exact overruled_back_le tickFirst s
  | cancel => exact Nat.le_add_right _ _

theorem overruled_run_le (schedule : List Choice) (s : Ticking) :
    (s.run schedule).overruled ≤ s.overruled + schedule.count (.back true) := by
  induction schedule generalizing s with
  | nil => exact Nat.le_refl _
  | cons c cs ih =>
    calc ((next c s).run cs).overruled
        ≤ (next c s).overruled + cs.count (.back true) := ih _
      _ ≤ s.overruled + [c].count (.back true) + cs.count (.back true) :=
        Nat.add_le_add_right (overruled_next_le c s) _
      _ = s.overruled + ([c] ++ cs).count (.back true) := by rw [List.count_append, Nat.add_assoc]

/-- Two ticks of a task never run at one time. After it was cancelled, at most one further tick begins,
and one more for each time that a tick outlasted its period and the loop, back from it, looked at the time
first. -/
theorem further_ticks_bounded (name : String) (period now : Nat) (schedule : List Choice) :
    let s : Ticking := (opened name period now).run schedule
    (∀ i j : Nat, s.jobs[i]? = some .running → s.jobs[j]? = some .running → i = j) ∧
      s.further ≤ 1 + s.overruled ∧ s.overruled ≤ schedule.count (.back true) := by
  intro s
  have hsound : Sound s := sound_run name period now schedule
  have hcount : s.overruled ≤ 0 + schedule.count (.back true) := overruled_run_le schedule _
  rw [Nat.zero_add] at hcount
  refine ⟨?_, ?_, hcount⟩
  · intro i j hi hj
    obtain ⟨-, hilast⟩ := hsound.alone i _ hi rfl
    obtain ⟨-, hjlast⟩ := hsound.alone j _ hj rfl
    omega
  · cases hc : s.loop.task.cancelled with
    | false =>
      rw [(hsound.fresh hc).1]
      exact Nat.zero_le _
    | true => exact Nat.le_trans (Nat.le_add_right _ _) (hsound.few hc)

/-- A task of one millisecond, cancelled within a tick of two, and what begins after that. -/
theorem cancelled_task_goes_on :
    let schedule : List Choice := [.pass 1000000, .look true, .begin 0, .cancel,
      .pass 2000000, .finish 0 false, .back true, .begin 1,
      .pass 2000000, .finish 1 false, .back true, .begin 2]
    ((opened "heartbeat" 1000000 0).run schedule).further = 2 ∧
      ¬(∀ (name : String) (period now : Nat) (schedule : List Choice),
        ((opened name period now).run schedule).further ≤ 1) := by
  intro schedule
  have htwo : ((opened "heartbeat" 1000000 0).run schedule).further = 2 := by decide
  refine ⟨htwo, fun h => ?_⟩
  have hle := h "heartbeat" 1000000 0 schedule
  rw [htwo] at hle
  exact absurd hle (by decide)

/-- A cancelled task in the last of `n + 1` further ticks, each of which but the last outlasted its
period. -/
structure Insisting (n : Nat) (s : Ticking) : Prop where
  cancelled : s.loop.task.cancelled = true
  ticking : s.loop.phase = .ticking
  due : s.loop.task.due = s.now + s.loop.task.period
  jobs : s.jobs = List.replicate n (.over false) ++ [.running]
  further : s.further = n + 1
  overruled : s.overruled = n

def overlong (period k : Nat) : List Choice :=
  [.pass period, .finish k false, .back true, .begin (k + 1)]

theorem due_start (name : String) (period now : Nat) :
    (start name period now).1.due = now + (start name period now).1.period := by
  rw [start]
  split <;> rfl

theorem insisting_of_look {n : Nat} (hphase : s.loop.phase = .waiting)
    (hdue : s.loop.task.due ≤ s.now) (hc : s.loop.task.cancelled = true)
    (hjobs : s.jobs = List.replicate n (.over false)) (hfurther : s.further = n)
    (hoverruled : s.overruled = n) : Insisting n ((s.look true).begin n) := by
  have hlength : s.jobs.length = n := by
    rw [hjobs, List.length_replicate]
  have hbegin : (s.look true).begin s.jobs.length = { s with
      loop := ⟨s.loop.task.taken s.now, .ticking⟩
      jobs := s.jobs ++ [.running]
      further := s.further + 1 } := by
    rw [look_due hphase hdue fun _ => rfl, begin_latest rfl]
    dsimp only
    rw [taken, if_pos hc]
  rw [hlength] at hbegin
  rw [hbegin]
  constructor
  case cancelled => exact hc
  case jobs => exact congrArg (· ++ [Job.running]) hjobs
  case further => exact congrArg (· + 1) hfurther
  case overruled => exact hoverruled
  all_goals rfl

theorem insisting_first (name : String) (period now : Nat) :
    Insisting 0 ((opened name period now).run
      [.cancel, .pass (start name period now).1.period, .look true, .begin 0]) := by
  apply insisting_of_look
  case hdue => exact Nat.le_of_eq (due_start name period now)
  all_goals rfl

theorem Insisting.again {n : Nat} (h : Insisting n s) :
    Insisting (n + 1) (s.run (overlong s.loop.task.period n)) := by
  let t : Ticking :=
    { s with now := s.now + s.loop.task.period, jobs := List.replicate n (.over false) ++ [.over false] }
  have hfinish : finish n false { s with now := s.now + s.loop.task.period } = t := by
    have hlatest := finish_latest (s := { s with now := s.now + s.loop.task.period }) h.jobs false
    rwa [List.length_replicate] at hlatest
  have hticking : t.loop.phase = .ticking := h.ticking
  have hback : t.back true = (t.resume false true).look true := back_latest hticking rfl true
  have hdue : t.loop.task.due ≤ t.now := Nat.le_of_eq h.due
  have hresume : t.loop.resume = ⟨s.loop.task, .waiting⟩ := by
    rw [Loop.resume, h.ticking]
  have hrun : s.run (overlong s.loop.task.period n) =
      ((t.resume false true).look true).begin (n + 1) := by
    rw [← hback, ← hfinish]
    rfl
  rw [hrun]
  apply insisting_of_look
  case hphase => rw [resume, hresume]
  case hdue =>
    rw [resume, hresume]
    exact hdue
  case hc =>
    rw [resume, hresume]
    exact h.cancelled
  case hjobs => exact List.replicate_succ'.symm
  case hfurther => exact h.further
  case hoverruled =>
    have hover : t.overrules true := ⟨h.cancelled, hdue, rfl⟩
    rw [resume, if_pos hover]
    exact congrArg (· + 1) h.overruled

/-- There is no number that the further ticks of every task stay below. -/
theorem further_ticks_unbounded (name : String) (period now n : Nat) :
    ∃ schedule, ((opened name period now).run schedule).further = n + 1 ∧
      ((opened name period now).run schedule).overruled = n := by
  have hinsisting : ∃ schedule, Insisting n ((opened name period now).run schedule) := by
    induction n with
    | zero => exact ⟨_, insisting_first name period now⟩
    | succ n ih =>
      obtain ⟨schedule, h⟩ := ih
      refine ⟨schedule ++ overlong ((opened name period now).run schedule).loop.task.period n, ?_⟩
      rw [run, Schedule.run_append]
      exact h.again
  obtain ⟨schedule, h⟩ := hinsisting
  exact ⟨schedule, h.further, h.overruled⟩

end Ticking

end QueryWatch.PeriodicTask
