namespace QueryWatch.Schedule

variable {σ χ : Type}

/-- The state after the choices of a schedule, one after the other. -/
def run (next : χ → σ → σ) (schedule : List χ) (s : σ) : σ :=
  schedule.foldl (fun s c => next c s) s

@[simp] theorem run_nil (next : χ → σ → σ) (s : σ) : run next [] s = s :=
  rfl

@[simp] theorem run_cons (next : χ → σ → σ) (c : χ) (cs : List χ) (s : σ) :
    run next (c :: cs) s = run next cs (next c s) :=
  rfl

theorem run_append (next : χ → σ → σ) (first second : List χ) (s : σ) :
    run next (first ++ second) s = run next second (run next first s) :=
  List.foldl_append

theorem run_concat (next : χ → σ → σ) (cs : List χ) (c : χ) (s : σ) :
    run next (cs ++ [c]) s = next c (run next cs s) :=
  run_append next cs [c] s

/-- What holds at the start and outlasts each choice holds under every schedule. It may speak of the
schedule so far. -/
theorem run_induction {next : χ → σ → σ} {s : σ} {P : List χ → σ → Prop} (start : P [] s)
    (step : ∀ cs c, P cs (run next cs s) → P (cs ++ [c]) (next c (run next cs s)))
    (schedule : List χ) : P schedule (run next schedule s) := by
  have key (n : Nat) : ∀ cs : List χ, cs.length = n → P cs (run next cs s) := by
    induction n with
    | zero =>
      intro cs hcs
      rw [List.eq_nil_of_length_eq_zero hcs]
      exact start
    | succ n ih =>
      intro cs hcs
      have hne : cs ≠ [] := List.ne_nil_of_length_eq_add_one hcs
      rw [← List.dropLast_concat_getLast hne, run_concat]
      exact step _ _ (ih _ (by rw [List.length_dropLast, hcs, Nat.add_sub_cancel]))
  exact key _ schedule rfl

theorem run_invariant {next : χ → σ → σ} {s : σ} {P : σ → Prop} (start : P s)
    (step : ∀ c s, P s → P (next c s)) (schedule : List χ) : P (run next schedule s) :=
  run_induction start (fun _ c h => step c _ h) schedule

end QueryWatch.Schedule
