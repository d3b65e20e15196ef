import QueryWatch.Proofs.TimeSeries.Traffic

namespace QueryWatch.Sink.Flusher

open TimeSeriesSink (begun)

/-- A batch is written as soon as it is full, and while one is written no other grows. -/
structure Sound (f : Flusher) : Prop where
  batch_lt : f.batch.length < f.batchSize
  batch_nil : f.writing ≠ none → f.batch = []
  ended : f.phase = .ended → f.queue = [] ∧ f.batch = [] ∧ f.writing = none

def underWay (f : Flusher) : Nat :=
  f.writing.toList.length

/-- A flusher went on and lost no point. -/
structure Moves (f f' : Flusher) : Prop where
  conserves : (begun f f').flatten ++ (f'.batch ++ f'.queue) = f.batch ++ f.queue
  fits : ∀ b ∈ begun f f', 1 ≤ b.length ∧ b.length ≤ f.batchSize
  counts : (begun f f').length + f.underWay = f'.underWay
  busy : ∀ b, f.writing = some b → f'.writing = some b
  capacity : f'.capacity = f.capacity
  batchSize : f'.batchSize = f.batchSize
  queue_le : f'.queue.length ≤ f.queue.length
  sound : f'.Sound

variable {f : Flusher}

theorem begun_same {f f' : Flusher} (h : f'.writing = f.writing) : begun f f' = [] := by
  cases hw : f.writing with
  | none => simp [begun, hw, h]
  | some b => simp [begun, hw]

theorem Sound.moves_same {f' : Flusher} (hw : f'.writing = f.writing)
    (hc : f'.batch ++ f'.queue = f.batch ++ f.queue) (hcap : f'.capacity = f.capacity)
    (hsize : f'.batchSize = f.batchSize) (hq : f'.queue.length ≤ f.queue.length) (hs : f'.Sound) :
    Moves f f' where
  conserves := by rw [begun_same hw, List.flatten_nil, List.nil_append, hc]
  fits := by simp [begun_same hw]
  counts := by simp [begun_same hw, underWay, hw]
  busy := fun b hb => hw.trans hb
  capacity := hcap
  batchSize := hsize
  queue_le := hq
  sound := hs

theorem Moves.refl (h : f.Sound) : Moves f f :=
  Sound.moves_same rfl rfl rfl rfl (Nat.le_refl _) h

theorem flush_idle (hw : f.writing = none) (hb : f.batch ≠ []) :
    f.flush = { f with writing := some f.batch, batch := [] } := by
  unfold flush
  split
  · rfl
  · next h =>
    cases hf : f.batch with
    | nil => exact absurd hf hb
    | cons p ps => exact absurd hf (h p ps hw)

theorem flush_busy (h : f.writing ≠ none ∨ f.batch = []) : f.flush = f := by
  unfold flush
  split
  · next hw hb => simp [hw, hb] at h
  · rfl

theorem take_busy (h : f.writing ≠ none ∨ f.queue = []) : f.take = f := by
  unfold take
  split
  · next hw hq => simp [hw, hq] at h
  · rfl

theorem take_idle {point : String} {rest : List String} (hw : f.writing = none)
    (hq : f.queue = point :: rest) :
    f.take =
      if f.batchSize ≤ f.batch.length + 1 then
        { f with queue := rest, writing := some (f.batch ++ [point]), batch := [] }
      else { f with queue := rest, batch := f.batch ++ [point] } := by
  unfold take
  rw [hw, hq]
  simp only [List.length_append, List.length_singleton]
  split
  · rw [flush_idle rfl (by simp)]
  · rfl

theorem Sound.flush (h : f.Sound) (hp : f.phase ≠ .ended) : Moves f f.flush := by
  by_cases hi : f.writing = none ∧ f.batch ≠ []
  · obtain ⟨hw, hb⟩ := hi
    have hpos : 0 < f.batch.length := List.length_pos_iff.2 hb
    rw [flush_idle hw hb]
    refine ⟨by simp [begun, hw], ?_, by simp [begun, underWay, hw], by simp [hw], rfl, rfl,
      Nat.le_refl _, Nat.lt_of_le_of_lt (Nat.zero_le _) h.batch_lt, fun _ => rfl,
      fun he => absurd he hp⟩
    intro b hm
    simp only [begun, hw, Option.toList_some, List.mem_singleton] at hm
    subst b
    exact ⟨hpos, Nat.le_of_lt h.batch_lt⟩
  · have hb : f.writing ≠ none ∨ f.batch = [] := by
      by_cases hw : f.writing = none
      · exact .inr (Classical.byContradiction fun hb => hi ⟨hw, hb⟩)
      · exact .inl hw
    rw [flush_busy hb]
    exact .refl h

theorem Sound.take (h : f.Sound) : Moves f f.take := by
  cases hw : f.writing with
  | some b =>
    rw [take_busy (.inl (by simp [hw]))]
    exact .refl h
  | none =>
    cases hq : f.queue with
    | nil =>
      rw [take_busy (.inr hq)]
      exact .refl h
    | cons point rest =>
      have hp : f.phase ≠ .ended := by
        intro he
        have hnil := (h.ended he).1
        simp [hq] at hnil
      rw [take_idle hw hq]
      split
      · next hfull =>
        refine ⟨by simp [begun, hw, hq], ?_, by simp [begun, underWay, hw], by simp [hw], rfl, rfl,
          by simp [hq], Nat.lt_of_le_of_lt (Nat.zero_le _) h.batch_lt, fun _ => rfl,
          fun he => absurd he hp⟩
        intro b hm
        simp only [begun, hw, Option.toList_some, List.mem_singleton] at hm
        subst b
        have hlt := h.batch_lt
        simp only [List.length_append, List.length_singleton]
        omega
      · next hroom =>
        refine moves_same rfl (by simp [hq]) rfl rfl (by simp [hq]) ⟨?_, ?_, fun he => absurd he hp⟩
        · simp only [List.length_append, List.length_singleton]
          omega
        · exact fun hn => absurd hw hn

theorem Sound.stop (h : f.Sound) : Moves f f.stop := by
  unfold Flusher.stop
  split
  · exact moves_same rfl rfl rfl rfl (Nat.le_refl _)
      ⟨h.batch_lt, h.batch_nil, fun he => by cases he⟩
  · exact .refl h

theorem Sound.finish (h : f.Sound) : Moves f f.finish := by
  unfold Flusher.finish
  split
  · next hp hw hq hb =>
    exact moves_same rfl rfl rfl rfl (Nat.le_refl _) ⟨h.batch_lt, h.batch_nil, fun _ => ⟨hq, hb, hw⟩⟩
  · next hp hw hq hb => exact h.flush (by simp [hp])
  · exact .refl h

theorem Sound.written (h : f.Sound) : f.written.Sound where
  batch_lt := h.batch_lt
  batch_nil := fun hn => absurd rfl hn
  ended := fun he => ⟨(h.ended he).1, (h.ended he).2.1, rfl⟩

@[simp] theorem phase_flush (f : Flusher) : f.flush.phase = f.phase := by
  unfold flush
  split <;> rfl

@[simp] theorem phase_take (f : Flusher) : f.take.phase = f.phase := by
  unfold take
  split
  · simp only
    split
    · rw [phase_flush]
    · rfl
  · rfl

theorem phase_finish (h : f.finish.phase ≠ .running) : f.phase ≠ .running := by
  unfold finish at h
  split at h
  · next hp _ _ _ => simp [hp]
  · next hp _ _ _ => simp [hp]
  · exact h

theorem finish_running (h : f.phase = .running) : f.finish = f := by
  unfold finish
  split
  · next hp _ _ _ => simp [hp] at h
  · next hp _ _ _ => simp [hp] at h
  · rfl

@[simp] theorem phase_takeUpTo (n : Nat) (f : Flusher) : (f.takeUpTo n).phase = f.phase := by
  induction n generalizing f with
  | zero => rfl
  | succ n ih => rw [takeUpTo, ih, phase_take]

theorem phase_settle (fuel : Nat) (h : f.phase = .running) :
    (f.settle fuel).2.phase = .running := by
  induction fuel generalizing f with
  | zero => exact h
  | succ fuel ih =>
    have htake : f.takeAll.phase = .running := by rw [takeAll, phase_takeUpTo, h]
    simp only [settle, finish_running htake]
    split
    · exact htake
    · exact ih htake

end QueryWatch.Sink.Flusher
