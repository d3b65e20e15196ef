import QueryWatch.Modules
import QueryWatch.Proofs.Config.OptionSet
import QueryWatch.Reporters

namespace QueryWatch

open Config

variable {α β : Type}

namespace SlowQuery

def Options.set : OptionSet where
  names := ["slowQueryThresholdInMilliseconds", "tablesForLogging"]
  record := record

theorem Watcher.governed (entry : ModuleEntry) (global : GlobalSettings) :
    Options.record.Governs fun options => .ofExcept (build { entry with options } global) where
  alike h := by
    simp only [build, h]
    rfl
  refused h := by
    simp only [build, h]
    rfl
  unset := ⟨_, rfl⟩

end SlowQuery

namespace Periodic

def Options.set : OptionSet where
  names := ["period", "timeUnit", "timeunit"]
  record := record

theorem Options.options_renamed {options : KeyMap Json} (h : options.contains "timeUnit" = false)
    (h' : options.contains "timeunit" = false) (unit : Json) :
    record.options (options.insert "timeUnit" unit) =
      record.options (options.insert "timeunit" unit) := by
  have hread := Record.readOptions_renamed ["period"] [] set.keys set.sorted rfl
    (KeyMap.get?_eq_none_iff.2 h) (KeyMap.get?_eq_none_iff.2 h') unit
  exact congrArg (Except.mapError BuildError.malformed) hread

theorem Options.options_both {options : KeyMap Json} (h : options.contains "timeUnit" = true)
    (h' : options.contains "timeunit" = true) :
    ∃ fault, record.options options = .error (.malformed fault) := by
  cases hread : record.readOptions options with
  | ok o =>
    have hnames : "timeUnit" = "timeunit" := Record.eq_of_same_field hread h h' rfl rfl
    exact absurd hnames (by decide)
  | error fault =>
    rw [Record.options, hread]
    exact ⟨fault, rfl⟩

theorem governed_period (finish : Nat → α) :
    Options.record.Governs fun options =>
      .ofExcept (period options >>= fun nanos => pure (finish nanos)) where
  alike h := by
    simp only [period, h]
  refused h := by
    simp only [period, h]
    rfl
  unset := ⟨_, rfl⟩

theorem Heartbeat.governed (entry : ModuleEntry) (global : GlobalSettings) :
    Options.record.Governs fun options => .ofExcept (build { entry with options } global) :=
  governed_period fun nanos : Nat =>
    ({ name := entry.kind, title := entry.namespaceOr "heartbeat", period := nanos
       baseTags := global.baseTags } : Heartbeat)

theorem RequestRate.governed (entry : ModuleEntry) (global : GlobalSettings) :
    Options.record.Governs fun options => .ofExcept (build { entry with options } global) :=
  governed_period fun nanos : Nat =>
    ({ name := entry.kind, title := entry.namespaceOr "request_rate", period := nanos
       baseTags := global.baseTags } : RequestRate)

end Periodic

namespace Sink

def LogSink.optionSet : OptionSet where
  names := ["level"]
  record := options

theorem LogSink.governed (entry : ReporterEntry) :
    options.Governs fun options => .ofExcept (build { entry with options }) where
  alike h := by
    simp only [build, h]
  refused h := by
    simp only [build, h]
    rfl
  unset := by
    have hinfo : Level.ofText? "info" = some .info := by decide +kernel
    rw [build_of_level rfl hinfo]
    exact ⟨_, rfl⟩

def TimeSeriesSink.Options.set : OptionSet where
  names := ["batchSize", "database", "flushPeriodMillis", "password", "queueCapacity",
    "retentionPolicy", "url", "username"]
  record := record

theorem TimeSeriesSink.governed (entry : ReporterEntry) (site : Site) :
    Options.record.Governs fun options => build { entry with options } site where
  alike h := by
    simp only [build, h]
  refused h := by
    simp only [build, h]
  unset := ⟨_, rfl⟩

def GaugeSink.Options.set : OptionSet where
  names := ["host", "port", "prefix"]
  record := record

theorem GaugeSink.governed (entry : ReporterEntry) (site : Site) :
    Options.record.Governs fun options => build { entry with options } site where
  alike h := by
    simp only [build, h]
  refused h := by
    simp only [build, h]
  unset := ⟨_, rfl⟩

def BusSink.Options.set : OptionSet where
  names := ["bootstrapServers", "format", "messageTimeoutMs", "queueBufferingMaxMessages", "topic"]
  record := record

theorem BusSink.governed (entry : ReporterEntry) (site : Site) :
    Options.record.Governs fun options => build { entry with options } site where
  alike h := by
    simp only [build, h]
  refused h := by
    simp only [build, h]
  unset := ⟨_, rfl⟩

def MonitorSink.Options.set : OptionSet where
  names := ["ackTimeoutMillis", "host", "port", "state", "ttl"]
  record := record

theorem MonitorSink.governed (entry : ReporterEntry) (site : Site) :
    Options.record.Governs fun options => build { entry with options } site where
  alike h := by
    simp only [build, h]
  refused h := by
    simp only [build, h]
  unset := ⟨_, rfl⟩

end Sink

theorem Construction.ofExcept_map (f : α → β) (x : Except BuildError α) :
    ofExcept (x.map f) = (ofExcept x).map f := by
  cases x <;> rfl

namespace BuiltinModule

def optionSet : String → OptionSet
  | "slow_query" => SlowQuery.Options.set
  | "heartbeat" | "request_rate" => Periodic.Options.set
  | _ => .empty

theorem governed_factory {σ : Type} {r : Record σ} {wrap : α → BuiltinModule}
    {build : ModuleEntry → GlobalSettings → Except BuildError α} {entry : ModuleEntry} {site : Site}
    (h : r.Governs fun options => .ofExcept (build { entry with options } site.global)) :
    r.Governs fun options => factory wrap build { entry with options } site := by
  simp only [factory, Construction.ofExcept_map]
  exact h.map wrap

theorem governed_periodic {kind : String} (h : kind ∈ ["heartbeat", "request_rate"])
    (entry : ModuleEntry) (site : Site) :
    Periodic.Options.record.Governs fun options => registry.build kind { entry with options } site := by
  rcases List.mem_pair.1 h with rfl | rfl
  · exact governed_factory (Periodic.Heartbeat.governed entry site.global)
  · exact governed_factory (Periodic.RequestRate.governed entry site.global)

theorem confined (kind : String) (entry : ModuleEntry) (site : Site) :
    Confined (optionSet kind).names fun options => registry.build kind { entry with options } site := by
  unfold optionSet
  split
  · exact (governed_factory (SlowQuery.Watcher.governed entry site.global)).confined
  · exact (governed_periodic (by decide) entry site).confined
  · exact (governed_periodic (by decide) entry site).confined
  · next hslow hbeat hrate =>
    have hunknown : kind ∉ ["slow_query", "heartbeat", "request_rate"] := by
      simp only [List.mem_cons, List.not_mem_nil, or_false, not_or]
      exact ⟨hslow, hbeat, hrate⟩
    exact Registry.confined_of_notMem hunknown _ site

end BuiltinModule

namespace BuiltinReporter

def optionSet : String → OptionSet
  | "log" => Sink.LogSink.optionSet
  | "influxdb" => Sink.TimeSeriesSink.Options.set
  | "datadog" => Sink.GaugeSink.Options.set
  | "kafka" => Sink.BusSink.Options.set
  | "riemann" => Sink.MonitorSink.Options.set
  | _ => .empty

theorem governed_log (entry : ReporterEntry) (site : Site) :
    Sink.LogSink.options.Governs fun options => registry.build "log" { entry with options } site := by
  change Record.Governs _ fun options =>
    Construction.ofExcept ((Sink.LogSink.build { entry with options }).map log)
  simp only [Construction.ofExcept_map]
  exact (Sink.LogSink.governed entry).map log

theorem confined (kind : String) (entry : ReporterEntry) (site : Site) :
    Confined (optionSet kind).names fun options => registry.build kind { entry with options } site := by
  unfold optionSet
  split
  · exact (governed_log entry site).confined
  · exact ((Sink.TimeSeriesSink.governed entry site).map timeSeries).confined
  · exact ((Sink.GaugeSink.governed entry site).map gauge).confined
  · exact ((Sink.BusSink.governed entry site).map bus).confined
  · exact ((Sink.MonitorSink.governed entry site).map monitor).confined
  · next hlog hseries hgauge hbus hmonitor =>
    have hunknown : kind ∉ ["log", "influxdb", "datadog", "kafka", "riemann"] := by
      simp only [List.mem_cons, List.not_mem_nil, or_false, not_or]
      exact ⟨hlog, hseries, hgauge, hbus, hmonitor⟩
    exact Registry.confined_of_notMem hunknown _ site

end BuiltinReporter

/-- The settings of every kind of units, and what is built with them or refused, are confined to the options
of that kind. The unit of a period is given under either of its names, and never under both. -/
theorem options_confined :
    (∀ kind : String,
      Confined (BuiltinModule.optionSet kind).names (BuiltinModule.optionSet kind).record.options ∧
      ∀ (entry : ModuleEntry) (site : Site),
        Confined (BuiltinModule.optionSet kind).names fun options =>
          BuiltinModule.registry.build kind { entry with options } site) ∧
    (∀ kind : String,
      Confined (BuiltinReporter.optionSet kind).names (BuiltinReporter.optionSet kind).record.options ∧
      ∀ (entry : ReporterEntry) (site : Site),
        Confined (BuiltinReporter.optionSet kind).names fun options =>
          BuiltinReporter.registry.build kind { entry with options } site) ∧
    ∀ kind ∈ ["heartbeat", "request_rate"], ∀ (entry : ModuleEntry) (site : Site),
      (∀ (options : KeyMap Json) (unit : Json),
        options.contains "timeUnit" = false → options.contains "timeunit" = false →
        BuiltinModule.registry.build kind
            { entry with options := options.insert "timeUnit" unit } site =
          BuiltinModule.registry.build kind
            { entry with options := options.insert "timeunit" unit } site) ∧
      ∀ options : KeyMap Json,
        options.contains "timeUnit" = true → options.contains "timeunit" = true →
        ∃ fault, (BuiltinModule.registry.build kind { entry with options } site).outcome =
          .refused (.malformed fault) := by
  refine ⟨fun kind => ⟨OptionSet.confined _, BuiltinModule.confined kind⟩,
    fun kind => ⟨OptionSet.confined _, BuiltinReporter.confined kind⟩, ?_⟩
  intro kind hkind entry site
  have hgoverned := BuiltinModule.governed_periodic hkind entry site
  constructor
  · intro options unit h h'
    exact hgoverned.alike (Periodic.Options.options_renamed h h' unit)
  · intro options h h'
    obtain ⟨fault, hfault⟩ := Periodic.Options.options_both h h'
    exact ⟨fault, hgoverned.refused hfault⟩

/-- Further options before, between and behind those of a heartbeat and of a time series, good and bad. -/
theorem options_confined_surrounded :
    let site : Site := ⟨⟨"here", "system", true, 8998⟩, .isolated⟩
    let beat (options : KeyMap Json) :=
      BuiltinModule.registry.build "heartbeat" ⟨"heartbeat", none, none, options⟩ site
    let series (options : KeyMap Json) :=
      BuiltinReporter.registry.build "influxdb" ⟨"influxdb", options⟩ site
    let extra : KeyMap Json := .ofList [("Period", .int 0), ("periods", .null), ("timeZone", .bool true),
      ("unit", .string "DAYS"), ("zone", .array [])]
    let period : KeyMap Json := .ofList [("period", .int 5)]
    let slow : KeyMap Json := period.insert "timeUnit" (.string "HOURS")
    let both : KeyMap Json := slow.insert "timeunit" (.string "HOURS")
    let faulty : KeyMap Json := .ofList [("port", .int 1), ("url", .int 2), ("username", .int 3)]
    (∀ name ∈ (BuiltinModule.optionSet "heartbeat").names, extra.contains name = false) ∧
      (slow.merge extra).entries.map Prod.fst =
        ["Period", "period", "periods", "timeUnit", "timeZone", "unit", "zone"] ∧
      (∃ unit, (beat slow).outcome = .built unit) ∧ beat (slow.merge extra) = beat slow ∧
      (∀ name ∈ (BuiltinReporter.optionSet "influxdb").names, extra.contains name = false) ∧
      (series faulty).outcome = .refused (.malformed (.type (.integer 2) .string)) ∧
      series (faulty.merge extra) = series faulty ∧
      "url" ∈ (BuiltinReporter.optionSet "influxdb").names ∧
      (∃ options value, series (options.insert "url" value) ≠ series options) ∧
      period.contains "timeUnit" = false ∧ period.contains "timeunit" = false ∧
      beat slow = beat (period.insert "timeunit" (.string "HOURS")) ∧
      both.contains "timeUnit" = true ∧ both.contains "timeunit" = true ∧
      ∃ fault, (beat both).outcome = .refused (.malformed fault) := by
  intro site beat series extra period slow both faulty
  obtain ⟨hmodules, hreporters, hunits⟩ := options_confined
  have hbeat := (hmodules "heartbeat").2 ⟨"heartbeat", none, none, ∅⟩ site
  have hseries := (hreporters "influxdb").2 ⟨"influxdb", ∅⟩ site
  obtain ⟨heither, hboth⟩ := hunits "heartbeat" (by decide) ⟨"heartbeat", none, none, ∅⟩ site
  have hextra : ∀ name ∈ (BuiltinModule.optionSet "heartbeat").names, extra.contains name = false :=
    by decide
  have hextra' : ∀ name ∈ (BuiltinReporter.optionSet "influxdb").names,
      extra.contains name = false := by decide
  exact ⟨hextra, by decide, ⟨_, rfl⟩, hbeat.further slow extra hextra, hextra', rfl,
    hseries.further faulty extra hextra', by decide, hseries.heeded "url" (by decide), rfl, rfl,
    heither period (.string "HOURS") rfl rfl, rfl, rfl, hboth both rfl rfl⟩

end QueryWatch
