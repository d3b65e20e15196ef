import QueryWatch.PeriodicTask

namespace QueryWatch.PeriodicTask

theorem not_cancelled_start (name : String) (period now : Nat) :
    (start name period now).1.cancelled = false := by
  unfold start
  split <;> rfl

inductive Phase
  | waiting
  | ticking
  | ended
  deriving DecidableEq

/-- The loop behind a periodic task. It waits until the task is cancelled or a tick is due; when both are
so, it may go either way. While a tick runs the loop waits for it and looks at nothing else. -/
structure Loop where
  task : PeriodicTask
  phase : Phase := .waiting
  deriving DecidableEq

namespace Loop

def fire? (now : Nat) (l : Loop) : Option Loop :=
  if l.phase = .waiting ∧ l.task.due ≤ now then some ⟨l.task.taken now, .ticking⟩ else none

def resume (l : Loop) : Loop :=
  match l.phase with
  | .ticking => { l with phase := .waiting }
  | _ => l

def leave (l : Loop) : Loop :=
  if l.phase = .waiting ∧ l.task.cancelled then { l with phase := .ended } else l

def cancel (l : Loop) : Loop :=
  { l with task := l.task.cancel }

theorem cancelled_fire {now : Nat} {l l' : Loop} (h : l.fire? now = some l') :
    l'.task.cancelled = l.task.cancelled := by
  unfold fire? at h
  split at h
  · cases h
    rfl
  · cases h

theorem cancelled_resume (l : Loop) : l.resume.task.cancelled = l.task.cancelled := by
  unfold resume
  split <;> rfl

theorem cancelled_leave (l : Loop) : l.leave.task.cancelled = l.task.cancelled := by
  unfold leave
  split <;> rfl

end Loop

end QueryWatch.PeriodicTask
