import QueryWatch.Proofs.Calls
import QueryWatch.Proofs.TimeSeries.Moves

namespace QueryWatch.Sink.TimeSeriesSink.Traffic

def failed (outcome : Nat → Option Fault) (n : Nat) : Nat :=
  (List.range n).countP fun i => (outcome i).isSome

theorem failed_succ (outcome : Nat → Option Fault) (n : Nat) :
    failed outcome (n + 1) = failed outcome n + if (outcome n).isSome then 1 else 0 := by
  simp [failed, List.range_succ, List.countP_append, List.countP_cons]

theorem tally_reports_afterWriting (kind : String) (outcome : Nat → Option Fault) (n : Nat)
    (sizes : List Nat) (k : String) :
    tally (.reports k) (afterWriting kind outcome n sizes) = 0 := by
  induction sizes generalizing n with
  | nil => rfl
  | cons size sizes ih =>
    unfold afterWriting
    cases outcome n <;> simp [ih]

theorem tally_dropped_afterWriting (kind : String) (outcome : Nat → Option Fault) (n : Nat)
    (sizes : List Nat) (k : String) :
    tally (.dropped k) (afterWriting kind outcome n sizes) = 0 := by
  induction sizes generalizing n with
  | nil => rfl
  | cons size sizes ih =>
    unfold afterWriting
    cases outcome n <;> simp [ih]

theorem tally_failures_afterWriting (kind : String) (outcome : Nat → Option Fault) (n size : Nat) :
    tally (.reportFailures kind) (afterWriting kind outcome n [size]) =
      if (outcome n).isSome then 1 else 0 := by
  simp only [afterWriting]
  cases outcome n <;> simp

/-- The state of a sink whose flusher is `f`: where its points are, and what was counted of them. -/
structure Inv (places size : Nat) (t : Traffic) (f : Flusher) : Prop where
  flusher : t.sink.flusher = some f
  alive : t.sink.alive = true
  capacity : f.capacity = places
  batchSize : f.batchSize = size
  sound : f.Sound
  conserved : t.handed.flatten ++ (f.batch ++ f.queue) = t.accepted
  fits : ∀ b ∈ t.handed, 1 ≤ b.length ∧ b.length ≤ size
  queue_le : f.queue.length ≤ places
  transfers : t.handed.length = t.sink.transfers + f.underWay
  current : ∀ b, f.writing = some b → t.handed[t.sink.transfers]? = some b
  points : t.accepted.Perm (t.calls.flatMap Call.points)
  reports : tally (.reports t.sink.kind) t.shown = t.accepted.length
  drops : tally (.dropped t.sink.kind) t.shown = t.sink.dropped
  dropped : t.calls.countP Call.isDropped = t.sink.dropped
  failures : tally (.reportFailures t.sink.kind) t.shown = failed t.sink.outcome t.sink.transfers
  closed : f.phase ≠ .running → t.cancelled = true
  cancelled : t.cancelled = true → t.sink.stopped = true
  cancelling : .cancelling ∈ t.calls → t.sink.stopped = true
  passedOver : ∀ m, .passedOver m ∈ t.calls → Encoding.Line.hasFields m = true →
    t.sink.stopped = true

variable {places size : Nat} {t : Traffic} {f : Flusher}

theorem inv_opened (kind : String) (flushMillis : Nat) (outcome : Nat → Option Fault)
    (h : 1 ≤ size) :
    Inv places size (opened kind places size flushMillis outcome)
      { capacity := places, batchSize := size } where
  flusher := rfl
  alive := rfl
  capacity := rfl
  batchSize := rfl
  sound := ⟨h, fun _ => rfl, fun he => by cases he⟩
  conserved := rfl
  fits := by simp [opened]
  queue_le := Nat.zero_le _
  transfers := rfl
  current := fun b hb => by cases hb
  points := .refl _
  reports := rfl
  drops := rfl
  dropped := rfl
  failures := rfl
  closed := fun hp => absurd rfl hp
  cancelled := fun hc => by cases hc
  cancelling := by simp [opened]
  passedOver := by simp [opened]

theorem Inv.running (h : Inv places size t f) (hs : t.sink.stopped = false) :
    f.phase = .running := by
  by_cases hp : f.phase = .running
  · exact hp
  · have hst := h.cancelled (h.closed hp)
    rw [hs] at hst
    cases hst

theorem Inv.come (h : Inv places size t f) {c : Call} (hp : c.points = [])
    (hd : c.isDropped = false) (hc : c ≠ .cancelling) (ho : ∀ m, c ≠ .passedOver m) :
    Inv places size { t with calls := t.calls ++ [c] } f := by
  refine { h with points := ?_, dropped := ?_, cancelling := ?_, passedOver := ?_ }
  · simpa [hp] using h.points
  · simpa [hd] using h.dropped
  · intro hm
    rcases List.mem_append.1 hm with hm | hm
    · exact h.cancelling hm
    · exact absurd (List.mem_singleton.1 hm).symm hc
  · intro m hm
    rcases List.mem_append.1 hm with hm | hm
    · exact h.passedOver m hm
    · exact absurd (List.mem_singleton.1 hm).symm (ho m)

theorem Inv.cancelling_set (h : Inv places size t f) {k : Nat} {c : Call}
    (hc : c = .cancelling → t.sink.stopped = true) (hm : .cancelling ∈ t.calls.set k c) :
    t.sink.stopped = true := by
  rcases mem_set_cases hm with he | hm
  · exact hc he.symm
  · exact h.cancelling hm

theorem Inv.passedOver_set (h : Inv places size t f) {k : Nat} {c : Call}
    (hc : ∀ m, c = .passedOver m → Encoding.Line.hasFields m = true → t.sink.stopped = true)
    {m : Measurement} (hm : .passedOver m ∈ t.calls.set k c)
    (hf : Encoding.Line.hasFields m = true) : t.sink.stopped = true := by
  rcases mem_set_cases hm with he | hm
  · exact hc m he.symm hf
  · exact h.passedOver m hm hf

theorem Inv.dropped_set (h : Inv places size t f) {k : Nat} {c c' : Call}
    (hk : t.calls[k]? = some c) (hd : c'.isDropped = c.isDropped) :
    (t.calls.set k c').countP Call.isDropped = t.sink.dropped := by
  obtain ⟨hlt, hget⟩ := List.getElem?_eq_some_iff.1 hk
  rw [← h.dropped, List.countP_set hlt, hget, hd]
  have hle := List.boole_getElem_le_countP (p := Call.isDropped) hlt
  rw [hget] at hle
  omega

theorem Inv.put (h : Inv places size t f) {k : Nat} {c c' : Call} (hk : t.calls[k]? = some c)
    (hp : c'.points = c.points) (hd : c'.isDropped = c.isDropped)
    (hc : c' = .cancelling → t.sink.stopped = true)
    (ho : ∀ m, c' = .passedOver m → Encoding.Line.hasFields m = true → t.sink.stopped = true) :
    Inv places size (t.put k c') f := by
  refine { h with points := ?_, dropped := ?_, cancelling := ?_, passedOver := ?_ }
  · simp only [Traffic.put, flatMap_set_eq Call.points hk hp]
    exact h.points
  · exact h.dropped_set hk hd
  · exact h.cancelling_set hc
  · exact fun m => h.passedOver_set ho

theorem Inv.accept (h : Inv places size t f) {k : Nat} {m : Measurement}
    (hk : t.calls[k]? = some (.offering m)) (hp : f.phase = .running)
    (hq : f.queue.length < places) :
    Inv places size (t.accept k m { f with queue := f.queue ++ [Encoding.Line.encode m] })
      { f with queue := f.queue ++ [Encoding.Line.encode m] } := by
  refine
    { h with
      flusher := rfl
      sound := ⟨h.sound.batch_lt, h.sound.batch_nil, fun he => by simp [hp] at he⟩
      conserved := ?_
      queue_le := ?_
      points := ?_
      reports := ?_
      drops := ?_
      dropped := h.dropped_set hk rfl
      failures := ?_
      cancelling := h.cancelling_set (fun he => by cases he)
      passedOver := fun m' => h.passedOver_set (fun _ he => by cases he) }
  · simp only [Traffic.accept, ← h.conserved, List.append_assoc]
  · simp only [List.length_append, List.length_singleton]
    exact hq
  · have hperm := flatMap_set_perm Call.points (.accepted m) hk
    simp only [Call.points, List.append_nil] at hperm
    exact (h.points.append_right _).trans hperm.symm
  · simp [Traffic.accept, h.reports]
  · simp [Traffic.accept, h.drops]
  · simp [Traffic.accept, h.failures]

theorem Inv.drop (h : Inv places size t f) {k : Nat} {m : Measurement}
    (hk : t.calls[k]? = some (.offering m)) : Inv places size (t.drop k m) f := by
  refine
    { h with
      points := ?_
      reports := ?_
      drops := ?_
      dropped := ?_
      failures := ?_
      cancelling := h.cancelling_set (fun he => by cases he)
      passedOver := fun m' => h.passedOver_set (fun _ he => by cases he) }
  · have he := flatMap_set_eq Call.points (b := .dropped m) hk rfl
    simp only [Traffic.drop, he]
    exact h.points
  · simp [Traffic.drop, h.reports]
  · simp [Traffic.drop, h.drops]
  · obtain ⟨hlt, hget⟩ := List.getElem?_eq_some_iff.1 hk
    simp only [Traffic.drop, List.countP_set hlt, hget, Call.isDropped]
    simp [h.dropped]
  · simp [Traffic.drop, h.failures]

theorem Inv.offer_running (h : Inv places size t f) (hp : f.phase = .running) (k : Nat)
    (m : Measurement) :
    t.offer k m =
      if f.queue.length < places then
        t.accept k m { f with queue := f.queue ++ [Encoding.Line.encode m] }
      else t.drop k m := by
  unfold offer Flusher.offer?
  simp only [h.flusher, if_pos hp, h.capacity]
  by_cases hq : f.queue.length < places
  · simp only [if_pos hq]
  · simp only [if_neg hq]

theorem Inv.offer (h : Inv places size t f) {k : Nat} {m : Measurement}
    (hk : t.calls[k]? = some (.offering m)) : ∃ f', Inv places size (t.offer k m) f' := by
  by_cases hp : f.phase = .running
  · rw [h.offer_running hp]
    split
    · next hq => exact ⟨_, h.accept hk hp hq⟩
    · exact ⟨f, h.drop hk⟩
  · refine ⟨f, ?_⟩
    have hst := h.cancelled (h.closed hp)
    simp only [Traffic.offer, h.flusher, if_neg hp]
    exact h.put hk rfl rfl (fun he => by cases he) (fun _ _ _ => hst)

theorem Inv.enter (h : Inv places size t f) {k : Nat} {m : Measurement}
    (hk : t.calls[k]? = some (.reporting m)) : Inv places size (t.enter k m) f := by
  unfold Traffic.enter
  split
  · next hpass =>
    refine h.put hk rfl rfl (fun he => by cases he) ?_
    intro m' he hf
    cases he
    simpa [h.alive, hf] using hpass
  · exact h.put hk rfl rfl (fun he => by cases he) (fun _ he => by cases he)

theorem Inv.mark (h : Inv places size t f) {k : Nat} (hk : t.calls[k]? = some .stopping) :
    Inv places size (t.mark k) f := by
  unfold Traffic.mark
  split
  · exact h.put hk rfl rfl (fun he => by cases he) (fun _ he => by cases he)
  · refine
      { h with
        points := ?_
        dropped := h.dropped_set hk rfl
        cancelled := fun _ => rfl
        cancelling := fun _ => rfl
        passedOver := fun _ _ _ => rfl }
    simp only [Traffic.put, flatMap_set_eq Call.points (b := .cancelling) hk rfl]
    exact h.points

theorem Inv.cancel (h : Inv places size t f) {k : Nat} (hk : t.calls[k]? = some .cancelling) :
    Inv places size (t.cancel k) f := by
  have hst : t.sink.stopped = true := h.cancelling (List.mem_of_getElem? hk)
  have hput : Inv places size (t.put k .stopped) f :=
    h.put hk rfl rfl (fun he => by cases he) (fun _ he => by cases he)
  exact { hput with closed := fun _ => rfl, cancelled := fun _ => hst }

theorem Inv.advance (h : Inv places size t f) (k : Nat) :
    ∃ f', Inv places size (t.advance k) f' := by
  unfold Traffic.advance
  split
  · next hk => exact ⟨f, h.enter hk⟩
  · next hk => exact h.offer hk
  · next hk => exact ⟨f, h.mark hk⟩
  · next hk => exact ⟨f, h.cancel hk⟩
  · exact ⟨f, h⟩

theorem Inv.work (h : Inv places size t f) {g : Flusher → Flusher} (hg : f.Moves (g f))
    (hc : (g f).phase ≠ .running → t.cancelled = true) : Inv places size (t.work g) (g f) := by
  rw [work_eq h.flusher]
  refine
    { h with
      flusher := rfl
      capacity := hg.capacity.trans h.capacity
      batchSize := hg.batchSize.trans h.batchSize
      sound := hg.sound
      conserved := ?_
      fits := ?_
      queue_le := Nat.le_trans hg.queue_le h.queue_le
      transfers := ?_
      current := ?_
      closed := hc }
  · calc (t.handed ++ begun f (g f)).flatten ++ ((g f).batch ++ (g f).queue)
      _ = t.handed.flatten ++ ((begun f (g f)).flatten ++ ((g f).batch ++ (g f).queue)) := by
        rw [List.flatten_append, List.append_assoc]
      _ = t.handed.flatten ++ (f.batch ++ f.queue) := by rw [hg.conserves]
      _ = t.accepted := h.conserved
  · intro b hb
    rcases List.mem_append.1 hb with hb | hb
    · exact h.fits b hb
    · rw [← h.batchSize]
      exact hg.fits b hb
  · have ht := h.transfers
    have hn := hg.counts
    simp only [List.length_append]
    omega
  · intro b hb
    cases hw : f.writing with
    | none =>
      have ht : t.handed.length = t.sink.transfers := by
        simpa [Flusher.underWay, hw] using h.transfers
      simp [begun, hw, hb, ← ht]
    | some b' =>
      rw [hg.busy b' hw] at hb
      simpa [begun, hw] using h.current b (hw.trans hb)

/-- What the end of a writing changes: nothing but the count of writings and what is said of it. -/
theorem Inv.endWriting_eq (h : Inv places size t f) {b : List String} (hw : f.writing = some b) :
    t.endWriting =
      { t with
        sink := { t.sink with flusher := some f.written, transfers := t.sink.transfers + 1 }
        shown := t.shown ++
          afterWriting t.sink.kind t.sink.outcome t.sink.transfers [b.length] } := by
  simp only [Traffic.endWriting, h.flusher, hw]

theorem Inv.endWriting (h : Inv places size t f) : ∃ f', Inv places size t.endWriting f' := by
  cases hw : f.writing with
  | none =>
    refine ⟨f, ?_⟩
    simp only [Traffic.endWriting, h.flusher, hw]
    exact h
  | some b =>
    refine ⟨f.written, ?_⟩
    rw [h.endWriting_eq hw]
    refine
      { h with
        flusher := rfl
        sound := h.sound.written
        transfers := ?_
        current := fun b' hb => by cases hb
        reports := ?_
        drops := ?_
        failures := ?_ }
    · have ht := h.transfers
      simpa [Flusher.underWay, Flusher.written, hw] using ht
    · simp [tally_reports_afterWriting, h.reports]
    · simp [tally_dropped_afterWriting, h.drops]
    · simp [tally_failures_afterWriting, failed_succ, h.failures]

theorem inv_next (c : Choice) (h : Inv places size t f) :
    ∃ f', Inv places size (next c t) f' := by
  cases c with
  | report m => exact ⟨f, h.come rfl rfl (fun he => by cases he) (fun _ he => by cases he)⟩
  | stop => exact ⟨f, h.come rfl rfl (fun he => by cases he) (fun _ he => by cases he)⟩
  | call k => exact h.advance k
  | receive => exact ⟨_, h.work h.sound.take (by simpa using h.closed)⟩
  | tick =>
    by_cases hp : f.phase = .running
    · refine ⟨_, h.work ?_ ?_⟩
      · simp only [if_pos hp]
        exact h.sound.flush (by simp [hp])
      · simp [hp]
    · refine ⟨_, h.work ?_ ?_⟩
      · simp only [if_neg hp]
        exact .refl h.sound
      · simpa [hp] using h.closed hp
  | close =>
    by_cases hc : t.cancelled = true ∧ f.writing = none
    · refine ⟨_, h.work ?_ fun _ => hc.1⟩
      simp only [if_pos hc]
      exact h.sound.stop
    · refine ⟨_, h.work ?_ ?_⟩
      · simp only [if_neg hc]
        exact .refl h.sound
      · simpa [hc] using h.closed
  | finish => exact ⟨_, h.work h.sound.finish fun hp => h.closed (Flusher.phase_finish hp)⟩
  | written => exact h.endWriting

theorem inv_run (kind : String) (places flushMillis : Nat) (outcome : Nat → Option Fault)
    (h : 1 ≤ size) (schedule : List Choice) :
    ∃ f, Inv places size (run schedule (opened kind places size flushMillis outcome)) f := by
  refine Schedule.run_invariant (P := fun t => ∃ f, Inv places size t f) ?_ ?_ schedule
  · exact ⟨_, inv_opened kind flushMillis outcome h⟩
  · rintro c t ⟨f, hf⟩
    exact inv_next c hf

end QueryWatch.Sink.TimeSeriesSink.Traffic
