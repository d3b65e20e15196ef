import QueryWatch.Reporters

namespace QueryWatch

namespace Sink

namespace TimeSeriesSink

variable {s : TimeSeriesSink}

theorem stopped_settle (s : TimeSeriesSink) : s.settle.unit.stopped = s.stopped := by
  unfold settle
  split <;> rfl

theorem stopped_wait (millis : Nat) (s : TimeSeriesSink) :
    (s.wait millis).unit.stopped = s.stopped := by
  unfold wait
  dsimp only
  split
  · exact (stopped_settle _).trans (stopped_settle s)
  · exact stopped_settle s

theorem stopped_stop (s : TimeSeriesSink) : s.stop.unit.stopped = true := by
  unfold stop
  dsimp only
  split
  · assumption
  · rfl

theorem stop_of_stopped (h : s.stopped = true) : s.stop = { unit := s } := by
  rw [stop, if_pos h]

theorem report_of_stopped (h : s.stopped = true) (m : Measurement) :
    s.report m = { unit := s } := by
  unfold report
  split
  · next hon =>
    rw [h, Bool.true_or, Bool.true_or] at hon
    cases hon
  · rfl

end TimeSeriesSink

namespace BusSink

variable {s : BusSink}

theorem stopped_stop (s : BusSink) : s.stop.unit.stopped = true := by
  unfold stop
  split
  · rfl
  · split <;> rfl

theorem stop_of_stopped (h : s.stopped = true) : s.stop = { unit := s } := by
  rw [stop, if_pos (.inl h)]
  cases s
  cases h
  rfl

theorem report_of_stopped (h : s.stopped = true) (m : Measurement) :
    s.report m = { unit := s } := by
  rw [report, if_neg fun hs => hs.2 h]

end BusSink

theorem GaugeSink.report_of_stopped {s : GaugeSink} (h : s.stopped = true) (m : Measurement) :
    s.report m = { unit := s } := by
  unfold report
  split
  · next hon _ =>
    rw [h] at hon
    cases hon
  · rfl

theorem MonitorSink.report_of_stopped {s : MonitorSink} (h : s.stopped = true) (m : Measurement) :
    s.report m = { unit := s } := by
  unfold report
  split
  · next hon =>
    rw [h] at hon
    cases hon
  · rfl

end Sink

namespace BuiltinReporter

inductive Step
  | report (m : Measurement)
  | stop
  | elapse (millis : Nat)

def step : Step → BuiltinReporter → Turn BuiltinReporter
  | .report m, r => ReporterUnit.report m r
  | .stop, r => ReporterUnit.stop r
  | .elapse millis, timeSeries s => (s.wait millis).map timeSeries
  | .elapse _, r => { unit := r }

def after (r : BuiltinReporter) (steps : List Step) : BuiltinReporter :=
  steps.foldl (fun r s => (step s r).unit) r

/-- Reports are taken for nothing: none changes the reporter or shows a thing. -/
def Silent (r : BuiltinReporter) : Prop :=
  ∀ m, ReporterUnit.report m r = { unit := r }

def AtRest (r : BuiltinReporter) : Prop :=
  ReporterUnit.stop r = { unit := r }

/-- A reporter that can be stopped, and has been. -/
def Stopped : BuiltinReporter → Prop
  | log _ => False
  | timeSeries s => s.stopped = true
  | gauge s => s.stopped = true
  | bus s => s.stopped = true
  | monitor s => s.stopped = true ∧ s.endpoint.map Sink.Endpoint.close = s.endpoint

variable {r : BuiltinReporter}

theorem Stopped.silent (h : r.Stopped) : r.Silent := by
  intro m
  cases r with
  | log s => cases h
  | timeSeries s => exact congrArg (Turn.map timeSeries) (Sink.TimeSeriesSink.report_of_stopped h m)
  | gauge s => exact congrArg (Turn.map gauge) (Sink.GaugeSink.report_of_stopped h m)
  | bus s => exact congrArg (Turn.map bus) (Sink.BusSink.report_of_stopped h m)
  | monitor s => exact congrArg (Turn.map monitor) (Sink.MonitorSink.report_of_stopped h.1 m)

theorem Stopped.atRest (h : r.Stopped) : r.AtRest := by
  cases r with
  | log s => cases h
  | timeSeries s => exact congrArg (Turn.map timeSeries) (Sink.TimeSeriesSink.stop_of_stopped h)
  | gauge s =>
    cases s
    cases h
    rfl
  | bus s => exact congrArg (Turn.map bus) (Sink.BusSink.stop_of_stopped h)
  | monitor s =>
    obtain ⟨hstopped, hclosed⟩ := h
    have hstop : s.stop = { unit := s } := by
      rw [Sink.MonitorSink.stop, hclosed, ← hstopped]
    exact congrArg (Turn.map monitor) hstop

theorem Stopped.step (h : r.Stopped) (s : Step) : (step s r).unit.Stopped := by
  cases s with
  | report m =>
    rw [BuiltinReporter.step, h.silent m]
    exact h
  | stop =>
    have hrest : ReporterUnit.stop r = { unit := r } := h.atRest
    rw [BuiltinReporter.step, hrest]
    exact h
  | elapse millis =>
    cases r with
    | timeSeries s => exact (Sink.TimeSeriesSink.stopped_wait millis s).trans h
    | _ => exact h

theorem Stopped.after (h : r.Stopped) (steps : List Step) : (r.after steps).Stopped := by
  induction steps generalizing r with
  | nil => exact h
  | cons s steps ih => exact ih (h.step s)

theorem after_append (r : BuiltinReporter) (steps more : List Step) :
    r.after (steps ++ more) = (r.after steps).after more :=
  List.foldl_append

/-- Whether the reporter has a stop of its own. -/
def Heeding : BuiltinReporter → Prop
  | log _ => False
  | _ => True

theorem Heeding.step (h : r.Heeding) (s : Step) : (step s r).unit.Heeding := by
  cases r with
  | log _ => cases h
  | _ => cases s <;> exact trivial

theorem Heeding.after (h : r.Heeding) (steps : List Step) : (r.after steps).Heeding := by
  induction steps generalizing r with
  | nil => exact h
  | cons s steps ih => exact ih (h.step s)

theorem Heeding.stopped_stop (h : r.Heeding) : (ReporterUnit.stop r).unit.Stopped := by
  cases r with
  | log s => cases h
  | timeSeries s => exact Sink.TimeSeriesSink.stopped_stop s
  | gauge s => exact rfl
  | bus s => exact Sink.BusSink.stopped_stop s
  | monitor s =>
    refine ⟨rfl, ?_⟩
    change (s.endpoint.map Sink.Endpoint.close).map Sink.Endpoint.close = _
    rw [Option.map_map]
    rfl

theorem after_log (s : Sink.LogSink) (steps : List Step) : (log s).after steps = log s := by
  induction steps with
  | nil => rfl
  | cons step steps ih => cases step <;> exact ih

theorem report_log (s : Sink.LogSink) (m : Measurement) : ReporterUnit.report m (log s) =
    ⟨log s, [.logged s.level (Encoding.LogLine.format m), .counted (.reports s.kind)], false⟩ :=
  rfl

theorem not_silent_log (s : Sink.LogSink) : ¬(log s).Silent := by
  intro h
  have hsignals := congrArg Turn.signals (h (.complex "" 0 .seconds ∅ ∅))
  cases hsignals

variable {kind : String} {entry : ReporterEntry} {site : Site}

theorem heeding_of_map {σ : Type} {f : σ → BuiltinReporter} {c : Construction σ}
    (h : (c.map f).outcome = .built r) (hf : ∀ a, (f a).Heeding) : r.Heeding := by
  obtain ⟨a, -, rfl⟩ := Construction.exists_of_map_built h
  exact hf a

theorem built_log_or (h : (registry.build kind entry site).outcome = .built r) :
    kind = "log" ∧ (∃ s, r = log s) ∨ kind ≠ "log" ∧ r.Heeding := by
  -- the kinds are asked from the last one that was registered to the first
  rcases Registry.outcome_of_register h with ⟨rfl, h⟩ | ⟨-, h⟩
  · exact .inr ⟨by decide, heeding_of_map h fun _ => trivial⟩
  rcases Registry.outcome_of_register h with ⟨rfl, h⟩ | ⟨-, h⟩
  · exact .inr ⟨by decide, heeding_of_map h fun _ => trivial⟩
  rcases Registry.outcome_of_register h with ⟨rfl, h⟩ | ⟨-, h⟩
  · exact .inr ⟨by decide, heeding_of_map h fun _ => trivial⟩
  rcases Registry.outcome_of_register h with ⟨rfl, h⟩ | ⟨-, h⟩
  · exact .inr ⟨by decide, heeding_of_map h fun _ => trivial⟩
  rcases Registry.outcome_of_register h with ⟨rfl, h⟩ | ⟨-, h⟩
  · have hlog : (Sink.LogSink.build entry).map log = .ok r := Construction.ofExcept_built h
    cases hs : Sink.LogSink.build entry with
    | error e =>
      rw [hs] at hlog
      cases hlog
    | ok s =>
      rw [hs] at hlog
      cases hlog
      exact .inl ⟨rfl, s, rfl⟩
  · cases h

/-- A reporter that was built and then stopped is at rest, whatever was called before and has been called
since. It is silent if and only if it is no log: a log goes on as if it had not been stopped. -/
theorem stopped_silent_iff (h : (registry.build kind entry site).outcome = .built r)
    (earlier later : List Step) :
    let r' := r.after (earlier ++ .stop :: later)
    r'.AtRest ∧ (r'.Silent ↔ kind ≠ "log") ∧
      (kind = "log" → r' = r ∧ ∃ s, r = log s ∧ ∀ m, ReporterUnit.report m r' =
        ⟨r, [.logged s.level (Encoding.LogLine.format m), .counted (.reports s.kind)], false⟩) := by
  intro r'
  rcases built_log_or h with ⟨hkind, s, rfl⟩ | ⟨hkind, hr⟩
  · have hsame : r' = log s := after_log s _
    rw [hsame]
    have hsilent : (log s).Silent ↔ kind ≠ "log" :=
      iff_of_false (not_silent_log s) (not_not_intro hkind)
    exact ⟨rfl, hsilent, fun _ => ⟨rfl, s, rfl, report_log s⟩⟩
  · have hr' : r' = (ReporterUnit.stop (r.after earlier)).unit.after later := after_append ..
    have hstopped : r'.Stopped := by
      rw [hr']
      exact (hr.after earlier).stopped_stop.after later
    exact ⟨hstopped.atRest, iff_of_true hstopped.silent hkind, fun hlog => absurd hlog hkind⟩

/-- A network on which everything arrives, with a peer that acknowledges every message. -/
def obliging : Sink.Network where
  resolves _ := true
  datagram _ := none
  batch _ := none
  reaction _ := { reads := [.bytes [0, 0, 0, 2, 16, 1]] }
  broker := true

def beat : Measurement :=
  .complex "beat" 0 .milliseconds ∅ ∅

def acknowledged : Sink.MonitorSink where
  kind := "riemann"
  hostname := "here"
  ttl := .ofRatio false 30 1
  state := "ok"
  endpoint := some { host := "peer", resolved := true }
  peer := obliging.reaction

/-- A reporter that held a connection has none after its stop, and the peer sees no attempt more. -/
theorem stopped_silent_iff_acknowledged :
    let site : Site := ⟨⟨"here", "system", true, 8998⟩, obliging⟩
    let entry : ReporterEntry := ⟨"riemann", .ofList [("host", .string "peer")]⟩
    let r' := (monitor acknowledged).after
      ([.report beat, .report beat] ++ .stop :: [.report beat, .stop, .elapse 1000, .report beat])
    (registry.build "riemann" entry site).outcome = .built (monitor acknowledged) ∧
      r'.AtRest ∧ r'.Silent ∧
      (∃ s, (monitor acknowledged).after [.report beat, .report beat] = monitor s ∧
        s.endpoint.map (fun e => (e.connection.isSome, e.attempts)) = some (true, 2)) ∧
      ∃ s, r' = monitor s ∧
        s.endpoint.map (fun e => (e.connection.isSome, e.attempts)) = some (false, 2) := by
  intro site entry r'
  have hbuilt : (registry.build "riemann" entry site).outcome = .built (monitor acknowledged) := rfl
  obtain ⟨hrest, hsilent, -⟩ := stopped_silent_iff hbuilt [.report beat, .report beat]
    [.report beat, .stop, .elapse 1000, .report beat]
  exact ⟨hbuilt, hrest, hsilent.2 (by decide), ⟨_, rfl, by decide +kernel⟩, _, rfl,
    by decide +kernel⟩

/-- A log that has been stopped, and what it shows of the next report. -/
theorem stopped_log_speaks :
    let site : Site := ⟨⟨"here", "system", true, 8998⟩, .isolated⟩
    let r' := (log ⟨"log", .info⟩).after [.report beat, .stop]
    (registry.build "log" ⟨"log", ∅⟩ site).outcome = .built (log ⟨"log", .info⟩) ∧
      (ReporterUnit.report beat r').signals =
        [.logged .info "beat [time=0, tags=\x7b\x7d, fields=\x7b\x7d]", .counted (.reports "log")] ∧
      ¬r'.Silent := by
  intro site r'
  have hlog : Sink.LogSink.build ⟨"log", ∅⟩ = .ok ⟨"log", .info⟩ :=
    Sink.LogSink.build_of_level rfl (by decide +kernel : Level.ofText? "info" = some .info)
  have hbuilt : (registry.build "log" ⟨"log", ∅⟩ site).outcome =
      (Construction.ofExcept ((Sink.LogSink.build ⟨"log", ∅⟩).map log)).outcome := rfl
  have htext : Encoding.LogLine.format beat = "beat [time=0, tags=\x7b\x7d, fields=\x7b\x7d]" := by
    decide +kernel
  refine ⟨?_, ?_, not_silent_log _⟩
  · rw [hbuilt, hlog]
    rfl
  · rw [← htext]
    rfl

end BuiltinReporter

end QueryWatch
