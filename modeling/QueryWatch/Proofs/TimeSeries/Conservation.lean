import QueryWatch.Proofs.TimeSeries.Invariant

namespace QueryWatch.Sink.TimeSeriesSink.Traffic

def hand (f : Flusher) (b : List String) (t : Traffic) : Traffic :=
  { t with
    sink := { t.sink with flusher := some { f with writing := some b, batch := [] } }
    handed := t.handed ++ [b] }

/-- The account of a sink whose queue has `places` and whose batches take `size` points. -/
structure Accounted (places size : Nat) (t : Traffic) (f : Flusher) : Prop where
  flusher : t.sink.flusher = some f
  order : t.handed.flatten ++ f.batch ++ f.queue = t.accepted
  fits : ∀ b ∈ t.handed, 1 ≤ b.length ∧ b.length ≤ size
  room : f.queue.length ≤ places
  points : t.accepted.Perm (t.calls.flatMap Call.points)
  reports : tally (.reports t.sink.kind) t.shown = t.accepted.length
  dropped : t.calls.countP Call.isDropped = t.sink.dropped
  drops : tally (.dropped t.sink.kind) t.shown = t.sink.dropped
  /-- Before a stop no report with fields is passed over. -/
  heard : t.sink.stopped = false → ∀ m, .passedOver m ∈ t.calls → Encoding.Line.hasFields m = false
  entered : t.sink.stopped = false → ∀ k m, t.calls[k]? = some (.reporting m) →
    Encoding.Line.hasFields m = true → next (.call k) t = t.put k (.offering m)
  full : t.sink.stopped = false → ∀ k m, t.calls[k]? = some (.offering m) →
    f.queue.length = places → next (.call k) t = t.drop k m
  vacant : t.sink.stopped = false → ∀ k m, t.calls[k]? = some (.offering m) →
    f.queue.length ≠ places →
      next (.call k) t =
        t.accept k m { f with queue := f.queue ++ [Encoding.Line.encode m] }
  taken : f.writing = none → ∀ point rest, f.queue = point :: rest →
    next .receive t =
      if size ≤ f.batch.length + 1 then t.hand { f with queue := rest } (f.batch ++ [point])
      else
        { t with
          sink := { t.sink with
            flusher := some { f with queue := rest, batch := f.batch ++ [point] } } }
  ticked : f.phase = .running → f.writing = none → f.batch ≠ [] →
    next .tick t = t.hand f f.batch
  /-- What is being written is the batch that was handed last; none that was handed before is. -/
  writing : t.handed.drop t.sink.transfers = f.writing.toList
  /-- The end of a writing counts one failure if it failed, and changes nothing but that. -/
  written : ∀ b, f.writing = some b →
    next .written t =
      { t with
        sink := { t.sink with flusher := some f.written, transfers := t.sink.transfers + 1 }
        shown := t.shown ++
          match t.sink.outcome t.sink.transfers with
          | some fault =>
            [.counted (.reportFailures t.sink.kind), .notice (.batchLost t.sink.kind b.length fault)]
          | none => [] }
  failures : tally (.reportFailures t.sink.kind) t.shown =
    (List.range t.sink.transfers).countP fun i => (t.sink.outcome i).isSome
  ended : f.phase = .ended → t.handed.flatten = t.accepted

variable {places size : Nat} {t : Traffic} {f : Flusher}

theorem Inv.enter_fields (h : Inv places size t f) (hs : t.sink.stopped = false) {k : Nat}
    {m : Measurement} (hk : t.calls[k]? = some (.reporting m))
    (hf : Encoding.Line.hasFields m = true) : next (.call k) t = t.put k (.offering m) := by
  simp [next, Traffic.advance, hk, Traffic.enter, hs, h.alive, hf]

theorem Inv.offer_full (h : Inv places size t f) (hp : f.phase = .running) {k : Nat}
    {m : Measurement} (hk : t.calls[k]? = some (.offering m)) (hq : f.queue.length = places) :
    next (.call k) t = t.drop k m := by
  simp only [next, Traffic.advance, hk, h.offer_running hp]
  rw [if_neg (by omega)]

theorem Inv.offer_vacant (h : Inv places size t f) (hp : f.phase = .running) {k : Nat}
    {m : Measurement} (hk : t.calls[k]? = some (.offering m)) (hq : f.queue.length ≠ places) :
    next (.call k) t = t.accept k m { f with queue := f.queue ++ [Encoding.Line.encode m] } := by
  have hle := h.queue_le
  simp only [next, Traffic.advance, hk, h.offer_running hp]
  rw [if_pos (by omega)]

theorem Inv.take_idle (h : Inv places size t f) (hw : f.writing = none) {point : String}
    {rest : List String} (hq : f.queue = point :: rest) :
    next .receive t =
      if size ≤ f.batch.length + 1 then t.hand { f with queue := rest } (f.batch ++ [point])
      else
        { t with
          sink := { t.sink with
            flusher := some { f with queue := rest, batch := f.batch ++ [point] } } } := by
  refine (work_eq h.flusher Flusher.take).trans ?_
  rw [Flusher.take_idle hw hq, h.batchSize]
  split
  · simp [hand, begun, hw]
  · simp [begun, hw]

theorem Inv.tick_idle (h : Inv places size t f) (hp : f.phase = .running) (hw : f.writing = none)
    (hb : f.batch ≠ []) : next .tick t = t.hand f f.batch := by
  refine (work_eq h.flusher _).trans ?_
  rw [if_pos hp, Flusher.flush_idle hw hb]
  simp [hand, begun, hw]

theorem Inv.drop_transfers (h : Inv places size t f) :
    t.handed.drop t.sink.transfers = f.writing.toList := by
  have ht := h.transfers
  cases hw : f.writing with
  | none =>
    simp only [Flusher.underWay, hw, Option.toList_none, List.length_nil, Nat.add_zero] at ht
    rw [← ht, List.drop_length, Option.toList_none]
  | some b =>
    obtain ⟨hlt, hget⟩ := List.getElem?_eq_some_iff.1 (h.current b hw)
    simp only [Flusher.underWay, hw, Option.toList_some, List.length_singleton] at ht
    rw [List.drop_eq_getElem_cons hlt, hget, List.drop_eq_nil_of_le (by omega),
      Option.toList_some]

theorem Inv.accounted (h : Inv places size t f) : Accounted places size t f where
  flusher := h.flusher
  order := by rw [List.append_assoc, h.conserved]
  fits := h.fits
  room := h.queue_le
  points := h.points
  reports := h.reports
  dropped := h.dropped
  drops := h.drops
  heard := by
    intro hs m hm
    cases hf : Encoding.Line.hasFields m with
    | false => rfl
    | true =>
      have hst := h.passedOver m hm hf
      rw [hs] at hst
      cases hst
  entered := fun hs _ _ hk hf => h.enter_fields hs hk hf
  full := fun hs _ _ hk hq => h.offer_full (h.running hs) hk hq
  vacant := fun hs _ _ hk hq => h.offer_vacant (h.running hs) hk hq
  taken := fun hw _ _ hq => h.take_idle hw hq
  ticked := h.tick_idle
  writing := h.drop_transfers
  written := by
    intro b hw
    have hnext : next .written t = _ := h.endWriting_eq hw
    rw [afterWriting, afterWriting, List.append_nil] at hnext
    exact hnext
  failures := h.failures
  ended := by
    intro he
    obtain ⟨hq, hb, -⟩ := h.sound.ended he
    rw [← h.conserved, hq, hb, List.append_nil, List.append_nil]

/-- Every schedule of reports, stops, writings and periods leaves a sink accounted for. -/
theorem points_conserved (kind : String) (places size flushMillis : Nat)
    (outcome : Nat → Option Fault) (h : 1 ≤ size) (schedule : List Choice) :
    ∃ f, Accounted places size (run schedule (opened kind places size flushMillis outcome)) f := by
  obtain ⟨f, hf⟩ := inv_run kind places flushMillis outcome h schedule
  exact ⟨f, hf.accounted⟩

/-- Two reports meet at a queue of one place, and the later one is dropped. The batch of two points that is
full next cannot be written; what is in the batch when the period is over can. -/
theorem points_conserved_full :
    let report : Choice := .report (.complex "load" 0 .seconds ∅ (.ofList [("cpu", "2")]))
    let t := run
      ([report, report, .call 1, .call 0, .call 0, .call 1, .receive] ++
        [report, .call 2, .call 2, .receive, .written] ++
        [report, .call 3, .call 3, .receive, .tick, .written])
      (opened "influx" 1 2 1000 fun i => if i = 0 then some .request else none)
    t.sink.dropped = 1 ∧ t.accepted.length = 3 ∧ t.handed.map List.length = [2, 1] ∧
      t.sink.transfers = 2 ∧ tally (.reportFailures "influx") t.shown = 1 ∧
      ∃ f, Accounted 1 2 t f :=
  ⟨by decide, by decide, by decide, by decide, by decide,
    points_conserved "influx" 1 2 1000 _ (by decide) _⟩

end QueryWatch.Sink.TimeSeriesSink.Traffic
