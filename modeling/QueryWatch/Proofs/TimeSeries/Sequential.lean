import QueryWatch.Proofs.TimeSeries.Invariant

namespace QueryWatch.Sink.TimeSeriesSink

variable {f : Flusher}

theorem report_passed {s : TimeSeriesSink} {m : Measurement}
    (hpass : (s.stopped || !s.alive || !Encoding.Line.hasFields m) = true) :
    s.report m = { unit := s } := by
  unfold report
  split
  · next hf => exact absurd (hpass.symm.trans hf) (by simp)
  · rfl

theorem report_offered {s : TimeSeriesSink} {m : Measurement}
    (hpass : (s.stopped || !s.alive || !Encoding.Line.hasFields m) = false)
    (hf : s.flusher = some f) :
    s.report m =
      if f.queue.length < f.capacity then
        { unit := { s with
            flusher := some { f with queue := f.queue ++ [Encoding.Line.encode m] }.takeAll }
          signals := [.counted (.reports s.kind)] }
      else
        { unit := { s with dropped := s.dropped + 1 }
          signals := [.counted (.dropped s.kind), .notice (.queueFull s.kind)] } := by
  unfold report Flusher.offer?
  by_cases hq : f.queue.length < f.capacity
  · simp only [hf, hpass, if_pos hq]
  · simp only [hf, hpass, if_neg hq]

namespace Traffic

variable {places size : Nat} {t : Traffic} {k : Nat} {m : Measurement}

/-- Some run of steps does to the sink what an operation of it does. -/
def Does (t : Traffic) (turn : Turn TimeSeriesSink) : Prop :=
  ∃ schedule, (run schedule t).sink = turn.unit ∧
    (run schedule t).shown = t.shown ++ turn.signals

theorem run_receives (n : Nat) (hf : t.sink.flusher = some f) :
    (run (List.replicate n .receive) t).sink = { t.sink with flusher := some (f.takeUpTo n) } ∧
      (run (List.replicate n .receive) t).shown = t.shown := by
  induction n generalizing t f with
  | zero =>
    simp only [List.replicate_zero, Schedule.run_nil, Flusher.takeUpTo, ← hf, and_self]
  | succ n ih =>
    have hw : next .receive t = _ := work_eq hf Flusher.take
    simp only [List.replicate_succ, Schedule.run_cons, hw, Flusher.takeUpTo]
    exact ih rfl

theorem next_entered (hk : t.calls[k]? = some (.reporting m))
    (hpass : (t.sink.stopped || !t.sink.alive || !Encoding.Line.hasFields m) = false) :
    next (.call k) t = t.put k (.offering m) := by
  simp only [next, advance, hk, enter, hpass, Bool.false_eq_true, if_false]

theorem next_passed (hk : t.calls[k]? = some (.reporting m))
    (hpass : (t.sink.stopped || !t.sink.alive || !Encoding.Line.hasFields m) = true) :
    next (.call k) t = t.put k (.passedOver m) := by
  simp only [next, advance, hk, enter, hpass, if_true]

theorem report_alone (h : Inv places size t f) (m : Measurement) : Does t (t.sink.report m) := by
  obtain rfl : f.capacity = places := h.capacity
  let k := t.calls.length
  let t₁ : Traffic := { t with calls := t.calls ++ [.reporting m] }
  have hk : t₁.calls[k]? = some (.reporting m) := List.getElem?_concat_length
  cases hpass : t₁.sink.stopped || !t₁.sink.alive || !Encoding.Line.hasFields m with
  | true =>
    refine ⟨[.report m, .call k], ?_⟩
    change (next (.call k) t₁).sink = _ ∧ (next (.call k) t₁).shown = _
    rw [next_passed hk hpass, report_passed hpass, List.append_nil]
    exact ⟨rfl, rfl⟩
  | false =>
    have h₁ : Inv f.capacity size t₁ f :=
      h.come rfl rfl (fun he => by cases he) (fun _ he => by cases he)
    have h₂ : Inv f.capacity size (t₁.put k (.offering m)) f :=
      h₁.put hk rfl rfl (fun he => by cases he) (fun _ he => by cases he)
    have hk₂ : (t₁.put k (.offering m)).calls[k]? = some (.offering m) := by
      simp [put, t₁, k]
    have hp : f.phase = .running := by
      refine h.running ?_
      cases hs : t.sink.stopped with
      | false => rfl
      | true => simp [t₁, hs] at hpass
    have hoffer : next (.call k) (next (.call k) t₁) =
        if f.queue.length < f.capacity then
          (t₁.put k (.offering m)).accept k m
            { f with queue := f.queue ++ [Encoding.Line.encode m] }
        else (t₁.put k (.offering m)).drop k m := by
      rw [next_entered hk hpass]
      simp only [next, advance, hk₂, h₂.offer_running hp]
    rw [report_offered hpass h.flusher]
    by_cases hq : f.queue.length < f.capacity
    · rw [if_pos hq] at hoffer ⊢
      let n := (f.queue ++ [Encoding.Line.encode m]).length
      refine ⟨[.report m, .call k, .call k] ++ List.replicate n .receive, ?_⟩
      rw [run, Schedule.run_append]
      change (run (List.replicate n .receive) (next (.call k) (next (.call k) t₁))).sink = _ ∧
        (run (List.replicate n .receive) (next (.call k) (next (.call k) t₁))).shown = _
      rw [hoffer]
      exact run_receives n rfl
    · rw [if_neg hq] at hoffer ⊢
      refine ⟨[.report m, .call k, .call k], ?_⟩
      change (next (.call k) (next (.call k) t₁)).sink = _ ∧
        (next (.call k) (next (.call k) t₁)).shown = _
      rw [hoffer]
      exact ⟨rfl, rfl⟩

theorem stop_alone (h : Inv places size t f) (hw : f.writing = none) : Does t t.sink.stop := by
  let k := t.calls.length
  let t₁ : Traffic := { t with calls := t.calls ++ [.stopping] }
  have hk : t₁.calls[k]? = some .stopping := List.getElem?_concat_length
  cases hs : t.sink.stopped with
  | true =>
    refine ⟨[.stop, .call k], ?_⟩
    change (next (.call k) t₁).sink = _ ∧ (next (.call k) t₁).shown = _
    have hmark : next (.call k) t₁ = t₁.put k .stopped := by
      simp only [next, advance, hk, mark, t₁, hs, if_true]
    have hstop : t.sink.stop = { unit := t.sink } := by
      simp only [TimeSeriesSink.stop, hs, if_true]
    rw [hmark, hstop, List.append_nil]
    exact ⟨rfl, rfl⟩
  | false =>
    refine ⟨[.stop, .call k, .call k, .close], ?_⟩
    let t₂ : Traffic := { t₁.put k .cancelling with sink := { t.sink with stopped := true } }
    have hmark : next (.call k) t₁ = t₂ := by
      simp only [next, advance, hk, mark, t₁, t₂, hs, Bool.false_eq_true, if_false]
    have hk₂ : t₂.calls[k]? = some .cancelling := by
      simp [t₂, put, t₁, k]
    have hcancel : next (.call k) t₂ = t₂.cancel k := by
      simp only [next, advance, hk₂]
    change (next .close (next (.call k) (next (.call k) t₁))).sink = _ ∧
      (next .close (next (.call k) (next (.call k) t₁))).shown = _
    rw [hmark, hcancel]
    simp [next, work, cancel, put, t₂, t₁, TimeSeriesSink.stop, hs, h.flusher, hw]

def emptying (f : Flusher) : List Choice :=
  List.replicate f.queue.length .receive ++ [.finish]

theorem run_emptying (hf : t.sink.flusher = some f) :
    (run (emptying f) t).sink = { t.sink with flusher := some f.takeAll.finish } ∧
      (run (emptying f) t).shown = t.shown := by
  obtain ⟨hsink, hshown⟩ := run_receives f.queue.length hf
  have hflusher : (run (List.replicate f.queue.length .receive) t).sink.flusher =
      some f.takeAll := by
    rw [hsink]
    rfl
  rw [emptying, run, Schedule.run_concat]
  simp only [next, work, hflusher]
  exact ⟨by rw [hsink], hshown⟩

theorem settle_rounds (fuel : Nat) (hf : t.sink.flusher = some f) :
    Does t
      { unit := { t.sink with
          flusher := some (f.settle fuel).2
          transfers := t.sink.transfers + (f.settle fuel).1.length }
        signals := afterWriting t.sink.kind t.sink.outcome t.sink.transfers (f.settle fuel).1 } := by
  induction fuel generalizing t f with
  | zero =>
    refine ⟨[], ?_⟩
    simp [Flusher.settle, afterWriting, ← hf]
  | succ fuel ih =>
    obtain ⟨hsink, hshown⟩ := run_emptying hf
    generalize ht₁ : run (emptying f) t = t₁ at hsink hshown
    have hf₁ : t₁.sink.flusher = some f.takeAll.finish := by rw [hsink]
    cases hw : f.takeAll.finish.writing with
    | none =>
      have hsettle : f.settle (fuel + 1) = ([], f.takeAll.finish) := by
        simp only [Flusher.settle, hw]
      refine ⟨emptying f, ?_⟩
      rw [ht₁, hsink, hshown, hsettle, afterWriting, List.append_nil]
      exact ⟨rfl, rfl⟩
    | some batch =>
      let g := f.takeAll.finish.written
      have hsettle : f.settle (fuel + 1) =
          (batch.length :: (g.settle fuel).1, (g.settle fuel).2) := by
        simp only [Flusher.settle, hw, g]
      have hwritten : next .written t₁ =
          { t₁ with
            sink := { t₁.sink with flusher := some g, transfers := t₁.sink.transfers + 1 }
            shown := t₁.shown ++
              afterWriting t₁.sink.kind t₁.sink.outcome t₁.sink.transfers [batch.length] } := by
        simp only [next, endWriting, hf₁, hw, g]
      obtain ⟨rest, hrest⟩ := ih (t := next .written t₁) (f := g) (by rw [hwritten])
      refine ⟨emptying f ++ .written :: rest, ?_⟩
      rw [run, Schedule.run_append, Schedule.run_cons]
      change (run rest (next .written (run (emptying f) t))).sink = _ ∧
        (run rest (next .written (run (emptying f) t))).shown = _
      rw [ht₁, hrest.1, hrest.2, hwritten, hsettle, hsink, hshown]
      refine ⟨?_, ?_⟩
      · simp only [List.length_cons, Nat.add_assoc, Nat.add_comm 1]
      · simp only [afterWriting, List.append_nil, List.append_assoc]

theorem settle_alone (h : Inv places size t f) : Does t t.sink.settle := by
  have hsettle := settle_rounds f.rounds h.flusher
  simpa only [TimeSeriesSink.settle, h.flusher, h.alive] using hsettle

theorem wait_alone (h : Inv places size t f) (hs : t.sink.stopped = false) (millis : Nat) :
    Does t (t.sink.wait millis) := by
  obtain ⟨first, hsink, hshown⟩ := settle_alone h
  have hfirst : t.sink.settle.unit =
      { t.sink with
        flusher := some (f.settle f.rounds).2
        transfers := t.sink.transfers + (f.settle f.rounds).1.length } := by
    simp only [TimeSeriesSink.settle, h.flusher, h.alive]
  let g := (f.settle f.rounds).2
  have hg : (run first t).sink.flusher = some g := by rw [hsink, hfirst]
  have hrunning : g.phase = .running := Flusher.phase_settle _ (h.running hs)
  by_cases hperiod : t.sink.settle.unit.flushMillis ≤ millis
  · let s : TimeSeriesSink :=
      { t.sink.settle.unit with flusher := t.sink.settle.unit.flusher.map Flusher.flush }
    have htick : (next .tick (run first t)).sink = s ∧
        (next .tick (run first t)).shown = (run first t).shown := by
      simp only [next, work, hg, if_pos hrunning]
      refine ⟨?_, trivial⟩
      simp only [hsink, hfirst, s, Option.map_some, g]
    have hs' : s.flusher = some g.flush := by
      simp only [s, hfirst, Option.map_some, g]
    obtain ⟨second, hsink₂, hshown₂⟩ :=
      settle_rounds (t := next .tick (run first t)) g.flush.rounds (by rw [htick.1, hs'])
    have hsettle : s.settle =
        { unit := { s with
            flusher := some (g.flush.settle g.flush.rounds).2
            transfers := s.transfers + (g.flush.settle g.flush.rounds).1.length }
          signals :=
            afterWriting s.kind s.outcome s.transfers (g.flush.settle g.flush.rounds).1 } := by
      have ha : s.alive = true := by simp only [s, hfirst, h.alive]
      simp only [TimeSeriesSink.settle, hs', ha]
    refine ⟨first ++ .tick :: second, ?_⟩
    rw [run, Schedule.run_append, Schedule.run_cons]
    change (run second (next .tick (run first t))).sink = _ ∧
      (run second (next .tick (run first t))).shown = _
    rw [hsink₂, hshown₂, htick.1, htick.2, hshown]
    have hwait : t.sink.wait millis =
        { s.settle with signals := t.sink.settle.signals ++ s.settle.signals } := by
      simp only [TimeSeriesSink.wait, if_pos hperiod, s]
    rw [hwait, hsettle, List.append_assoc]
    exact ⟨rfl, rfl⟩
  · refine ⟨first, ?_⟩
    have hwait : t.sink.wait millis = t.sink.settle := by
      simp only [TimeSeriesSink.wait, if_neg hperiod]
    rw [hwait]
    exact ⟨hsink, hshown⟩

end Traffic

end QueryWatch.Sink.TimeSeriesSink
