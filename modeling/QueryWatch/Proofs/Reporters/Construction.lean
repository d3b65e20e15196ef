import QueryWatch.Proofs.Config.Documents
import QueryWatch.Proofs.Config.Given
import QueryWatch.Reporters

namespace QueryWatch

open Config

theorem Construction.ofExcept_not_panicked {α : Type} (x : Except BuildError α) :
    (Construction.ofExcept x).outcome ≠ .panicked := by
  cases x <;> exact nofun

namespace Sink

variable {entry : ReporterEntry} {site : Site}

theorem GaugeSink.build_not_panicked : (GaugeSink.build entry site).outcome ≠ .panicked := by
  unfold GaugeSink.build
  split
  · exact nofun
  · dsimp only
    split <;> exact nofun

theorem BusSink.build_not_panicked : (BusSink.build entry site).outcome ≠ .panicked := by
  unfold BusSink.build
  split
  · exact nofun
  · split <;> exact nofun

theorem MonitorSink.build_not_panicked : (MonitorSink.build entry site).outcome ≠ .panicked := by
  unfold MonitorSink.build
  split
  · exact nofun
  · split
    · exact nofun
    · dsimp only
      split <;> exact nofun

namespace TimeSeriesSink

theorem Options.readsPart_capacity :
    Options.record.ReadsPart "queueCapacity" readSize Options.queueCapacity where
  own := ⟨fun n o => { o with queueCapacity := n }, rfl, fun _ _ => rfl⟩
  others := by
    intro f hf other hne hanswers j o o' hread
    simp only [record, List.mem_cons, List.not_mem_nil, or_false] at hf
    rcases hf with rfl | rfl | rfl | rfl | rfl | rfl | rfl | rfl
    case inr.inr.inr.inr.inr.inr.inr =>
      have hother : "queueCapacity" = other := by
        rw [RecordField.answersTo, Bool.or_eq_true] at hanswers
        rcases hanswers with hname | hlisted
        · exact of_decide_eq_true hname
        · cases hlisted
      exact absurd hother.symm hne
    all_goals
      obtain ⟨a, -, rfl⟩ := RecordField.exists_of_read hread
      rfl

/-- Options that name a database to write to and leave nothing to be said against them. -/
structure Usable (options : KeyMap Json) (o : Options) : Prop where
  read : Options.record.options options = .ok o
  url : ∃ url, o.url = some url ∧ url ≠ "" ∧ Url.check (writeAddress url) = .ok ()
  sizes : zeroSize? o = none

theorem Usable.capacity {options : KeyMap Json} {o : Options} (h : Usable options o) :
    ((options.get? "queueCapacity").map readSize).getD (.ok 10000) = .ok o.queueCapacity := by
  have hread := h.read
  rw [Record.options] at hread
  cases hoptions : Options.record.readOptions options with
  | error e =>
    rw [hoptions] at hread
    cases hread
  | ok o' =>
    rw [hoptions] at hread
    cases hread
    exact Options.readsPart_capacity.given hoptions

theorem Usable.build_eq {o : Options} (h : Usable entry.options o) :
    (build entry site).outcome = if greatestCapacity < o.queueCapacity.toNat then .panicked
      else .built
        { kind := entry.kind
          flusher := some { capacity := o.queueCapacity.toNat, batchSize := o.batchSize.toNat }
          alive := o.batchSize.toNat ≤ greatestBatch
          flushMillis := o.flushPeriodMillis.toNat
          outcome := site.network.batch } := by
  obtain ⟨url, hurl, hne, hcheck⟩ := h.url
  have hfilter : o.url.filter (· ≠ "") = some url := by
    rw [hurl]
    exact Option.filter_some_pos (by simpa using hne)
  rw [build, h.read]
  dsimp only
  rw [hfilter, h.sizes]
  dsimp only
  rw [hcheck]
  dsimp only
  split <;> rfl

theorem usable_of_panicked (h : (build entry site).outcome = .panicked) :
    ∃ o, Usable entry.options o := by
  unfold build at h
  split at h
  · cases h
  · next o hread =>
    dsimp only at h
    split at h
    · cases h
    · next url hurl =>
      split at h
      · cases h
      · cases h
      · next hsizes hcheck =>
        obtain ⟨hsome, hne⟩ := Option.filter_eq_some_iff.1 hurl
        exact ⟨o, hread, ⟨url, hsome, by simpa using hne, hcheck⟩, hsizes⟩

theorem build_panicked_iff : (build entry site).outcome = .panicked ↔
    ∃ o, Usable entry.options o ∧ greatestCapacity < o.queueCapacity.toNat := by
  constructor
  · intro h
    obtain ⟨o, ho⟩ := usable_of_panicked h
    refine ⟨o, ho, ?_⟩
    apply Classical.byContradiction
    intro hle
    rw [ho.build_eq, if_neg hle] at h
    cases h
  · rintro ⟨o, ho, hlt⟩
    rw [ho.build_eq, if_pos hlt]

theorem Usable.capacity_cases {options : KeyMap Json} {o : Options} (h : Usable options o) :
    options.get? "queueCapacity" = none ∧ o.queueCapacity = 10000 ∨
      options.get? "queueCapacity" = some (.int o.queueCapacity.toNat) := by
  have hcapacity := h.capacity
  cases hget : options.get? "queueCapacity" with
  | none =>
    rw [hget] at hcapacity
    exact .inl ⟨rfl, (Except.ok.inj hcapacity).symm⟩
  | some j =>
    rw [hget] at hcapacity
    exact .inr (congrArg some (eq_int_of_readSize hcapacity))

def queueOf (places : UInt64) : KeyMap Json where
  entries := [("queueCapacity", .int places.toNat), ("url", .string "http://[::1]:1")]
  sorted := List.pairwise_pair.2 (by decide : "queueCapacity" < "url")

theorem usable_queueOf {places : UInt64} (h : places ≠ 0) :
    Usable (queueOf places) { url := some "http://[::1]:1", queueCapacity := places } where
  read := by
    have hread : Options.record.read .json (.object (queueOf places).entries) =
        .ok { url := some "http://[::1]:1", queueCapacity := places } := by
      apply Options.record.read_of_takes .json
        [("queueCapacity", fun o => { o with queueCapacity := places }),
          ("url", fun o => { o with url := some "http://[::1]:1" })]
      · apply List.Forall₂.cons (Record.takes_field rfl (reads_size places) rfl)
        exact .cons (Record.takes_field rfl rfl rfl) .nil
      · exact (by decide : ["queueCapacity", "url"].Nodup)
      · simp [Options.record, RecordField.of]
    exact congrArg (Except.mapError BuildError.malformed) hread
  url := ⟨_, rfl, by decide, rfl⟩
  sizes := by
    simp [zeroSize?, h]

end TimeSeriesSink

end Sink

namespace BuiltinReporter

open Sink (TimeSeriesSink)

theorem build_timeSeries (entry : ReporterEntry) (site : Site) :
    registry.build "influxdb" entry site = (TimeSeriesSink.build entry site).map timeSeries :=
  rfl

/-- An attempt to build a reporter gives one or an error, unless it is for a time series, with options
that are right in all else but give a queue more places than the greatest number of them. -/
theorem construction_panics_iff (kind : String) (entry : ReporterEntry) (site : Site) :
    (registry.build kind entry site).outcome = .panicked ↔
      kind = "influxdb" ∧ ∃ (o : TimeSeriesSink.Options) (places : Nat),
        TimeSeriesSink.Usable entry.options o ∧
        entry.options.get? "queueCapacity" = some (.int places) ∧ 2305843009213693951 < places := by
  have hgreatest : TimeSeriesSink.greatestCapacity = 2305843009213693951 := by decide
  constructor
  · intro h
    -- the kinds are asked from the last one that was registered to the first
    rcases Registry.outcome_of_register h with ⟨-, h⟩ | ⟨-, h⟩
    · exact absurd (Construction.map_panicked_iff.1 h) Sink.MonitorSink.build_not_panicked
    rcases Registry.outcome_of_register h with ⟨-, h⟩ | ⟨-, h⟩
    · exact absurd (Construction.map_panicked_iff.1 h) Sink.BusSink.build_not_panicked
    rcases Registry.outcome_of_register h with ⟨-, h⟩ | ⟨-, h⟩
    · exact absurd (Construction.map_panicked_iff.1 h) Sink.GaugeSink.build_not_panicked
    rcases Registry.outcome_of_register h with ⟨rfl, h⟩ | ⟨-, h⟩
    · obtain ⟨o, ho, hlt⟩ := TimeSeriesSink.build_panicked_iff.1 (Construction.map_panicked_iff.1 h)
      rcases ho.capacity_cases with ⟨-, hdefault⟩ | hgiven
      · rw [hdefault] at hlt
        exact absurd hlt (by decide)
      · exact ⟨rfl, o, _, ho, hgiven, hgreatest ▸ hlt⟩
    rcases Registry.outcome_of_register h with ⟨-, h⟩ | ⟨-, h⟩
    · exact absurd h (Construction.ofExcept_not_panicked _)
    · cases h
  · rintro ⟨rfl, o, places, ho, hgiven, hlt⟩
    have hplaces : places = o.queueCapacity.toNat := by
      rcases ho.capacity_cases with ⟨hnone, -⟩ | hsome
      · rw [hnone] at hgiven
        cases hgiven
      · rw [hsome] at hgiven
        injection hgiven with hgiven
        injection hgiven with hgiven
        exact (Int.ofNat_inj.1 hgiven).symm
    rw [build_timeSeries, Construction.map_panicked_iff, TimeSeriesSink.build_panicked_iff]
    exact ⟨o, ho, by rwa [hgreatest, ← hplaces]⟩

/-- A queue of one place more than the greatest number of them. -/
theorem overlong_queue_panics :
    let entry : ReporterEntry := ⟨"influxdb", TimeSeriesSink.queueOf 2305843009213693952⟩
    let site : Site := ⟨⟨"here", "system", true, 8998⟩, .isolated⟩
    (registry.build "influxdb" entry site).outcome = .panicked ∧
      ¬(∀ (kind : String) (entry : ReporterEntry) (site : Site),
        (registry.build kind entry site).outcome ≠ .panicked) := by
  intro entry site
  have husable := TimeSeriesSink.usable_queueOf (by decide : (2305843009213693952 : UInt64) ≠ 0)
  have hlong : TimeSeriesSink.greatestCapacity < (2305843009213693952 : UInt64).toNat := by decide
  have hpanicked : (registry.build "influxdb" entry site).outcome = .panicked := by
    rw [build_timeSeries]
    apply Construction.map_panicked_iff.2
    apply TimeSeriesSink.build_panicked_iff.2
    exact ⟨_, husable, hlong⟩
  exact ⟨hpanicked, fun h => h _ _ _ hpanicked⟩

end BuiltinReporter

end QueryWatch
