import QueryWatch.BuildError
import QueryWatch.Level
import QueryWatch.Measurement
import QueryWatch.Sink.Fault

namespace QueryWatch

inductive Notice
  | reporterDisabled (reporter option : String)
  | hostUnresolved (reporter host : String)
  | gaugeNotSent (reporter : String) (fault : Sink.Fault)
  | notPublished (reporter : String) (fault : Sink.Fault)
  | notFlushed (reporter : String) (fault : Sink.Fault)
  | eventDropped (reporter measurement : String) (fault : Sink.Fault)
  | queueFull (reporter : String)
  | batchLost (reporter : String) (points : Nat) (fault : Sink.Fault)
  | reporterNotBuilt (reporter : String) (error : BuildError)
  | reporterBuildPanicked (reporter : String)
  | noReporters
  | deliveryPanicked (reporter measurement : String)
  | reporterStopPanicked (reporter : String)
  | moduleNotBuilt (module : String) (error : BuildError)
  | moduleBuildPanicked (module : String)
  | transformPanicked (module : String)
  | startPanicked (module : String)
  | stopPanicked (module : String)
  | reloadIgnored
  | periodRaised (task : String)
  | tickPanicked (task : String)

namespace Notice

def level : Notice → Level
  | reporterNotBuilt .. => .error
  | reporterBuildPanicked .. => .error
  | deliveryPanicked .. => .error
  | reporterStopPanicked .. => .error
  | moduleNotBuilt .. => .error
  | moduleBuildPanicked .. => .error
  | transformPanicked .. => .error
  | startPanicked .. => .error
  | stopPanicked .. => .error
  | _ => .warn

def message : Notice → String
  | reporterDisabled .. => "required option missing, reporter disabled"
  | hostUnresolved .. => "cannot resolve sink host, will retry"
  | gaugeNotSent .. => "failed to send gauge"
  | notPublished .. => "failed to publish measurement"
  | notFlushed .. => "pending messages not flushed"
  | eventDropped .. => "event dropped after retry"
  | queueFull .. => "write queue full, measurement dropped"
  | batchLost .. => "batch write failed, points dropped"
  | reporterNotBuilt .. => "failed to initialize reporter"
  | reporterBuildPanicked .. => "reporter constructor panicked"
  | noReporters => "no reporters configured, measurements will be discarded"
  | deliveryPanicked .. => "reporter panicked, measurement dropped for this reporter"
  | reporterStopPanicked .. => "reporter panicked while stopping"
  | moduleNotBuilt .. => "failed to initialize module"
  | moduleBuildPanicked .. => "module constructor panicked"
  | transformPanicked .. => "module panicked while transforming event"
  | startPanicked .. => "module panicked while starting"
  | stopPanicked .. => "module panicked while stopping"
  | reloadIgnored => "reload ignored, dispatcher is shut down"
  | periodRaised .. => "Period is less than minimum allowed. Using minimum period."
  | tickPanicked .. => "periodic tick failed"

def fields : Notice → Labels
  | reporterDisabled reporter option => .ofList [("reporter", reporter), ("option", option)]
  | hostUnresolved reporter host => .ofList [("reporter", reporter), ("host", host)]
  | gaugeNotSent reporter fault => .ofList [("reporter", reporter), ("error", fault.message)]
  | notPublished reporter fault => .ofList [("reporter", reporter), ("error", fault.message)]
  | notFlushed reporter fault => .ofList [("reporter", reporter), ("error", fault.message)]
  | eventDropped reporter measurement fault =>
    .ofList [("reporter", reporter), ("measurement", measurement), ("error", fault.message)]
  | queueFull reporter => .ofList [("reporter", reporter)]
  | batchLost reporter points fault =>
    .ofList [("reporter", reporter), ("points", Config.count points), ("error", fault.message)]
  | reporterNotBuilt reporter error =>
    .ofList [("reporter", reporter), ("error", error.message)]
  | reporterBuildPanicked reporter => .ofList [("reporter", reporter)]
  | noReporters => ∅
  | deliveryPanicked reporter measurement =>
    .ofList [("reporter", reporter), ("measurement", measurement)]
  | reporterStopPanicked reporter => .ofList [("reporter", reporter)]
  | moduleNotBuilt module error => .ofList [("module", module), ("error", error.message)]
  | moduleBuildPanicked module => .ofList [("module", module)]
  | transformPanicked module => .ofList [("module", module)]
  | startPanicked module => .ofList [("module", module)]
  | stopPanicked module => .ofList [("module", module)]
  | reloadIgnored => ∅
  | periodRaised task => .ofList [("task", task), ("min_period", "1ms")]
  | tickPanicked task => .ofList [("task", task)]

end Notice

inductive Counter
  | measurements (module : String)
  | reports (reporter : String)
  | reportFailures (reporter : String)
  | dropped (reporter : String)
  | moduleInitFailures (kind : String)
  | reporterInitFailures (kind : String)
  | reloads
  deriving DecidableEq

def Counter.name : Counter → String
  | measurements _ => "diagnostics_measurements_total"
  | reports _ => "diagnostics_reports_total"
  | reportFailures _ => "diagnostics_report_failures_total"
  | dropped _ => "diagnostics_dropped_total"
  | moduleInitFailures _ => "diagnostics_module_init_failures_total"
  | reporterInitFailures _ => "diagnostics_reporter_init_failures_total"
  | reloads => "diagnostics_reloads_total"

def Counter.label? : Counter → Option (String × String)
  | measurements module => some ("module", module)
  | reports reporter => some ("reporter", reporter)
  | reportFailures reporter => some ("reporter", reporter)
  | dropped reporter => some ("reporter", reporter)
  | moduleInitFailures kind => some ("kind", kind)
  | reporterInitFailures kind => some ("kind", kind)
  | reloads => none

def Counter.key (c : Counter) : String :=
  match c.label? with
  | some (label, value) => c.name ++ "\x7b" ++ label ++ "=" ++ value ++ "\x7d"
  | none => c.name

/-- What a unit under observation has seen; each carries the mark it was given. -/
inductive Sighting
  | reporterBuilt (kind : String) (mark : Json)
  | reported (kind : String) (mark : Json) (measurement : Measurement)
  | reporterStopped (kind : String) (mark : Json)
  | moduleBuilt (kind : String) (mark : Json) (host : String)
  | moduleCalled (kind : String) (mark : Json) (place : String)

/-- Everything a call shows is one list of signals in the order they came. -/
inductive Signal
  | notice (n : Notice)
  | logged (level : Level) (text : String)
  | counted (c : Counter)
  | sighted (s : Sighting)

def Signal.counts (c : Counter) : Signal → Bool
  | .counted c' => c' = c
  | _ => false

/-- How much a counter has grown by what was shown. -/
def tally (c : Counter) (shown : List Signal) : Nat :=
  shown.countP (Signal.counts c)

section

variable (c : Counter)

@[simp] theorem tally_nil : tally c [] = 0 :=
  rfl

@[simp] theorem tally_append (a b : List Signal) : tally c (a ++ b) = tally c a + tally c b :=
  List.countP_append

@[simp] theorem tally_counted (c' : Counter) (shown : List Signal) :
    tally c (.counted c' :: shown) = tally c shown + if c' = c then 1 else 0 := by
  simp [tally, List.countP_cons, Signal.counts]

@[simp] theorem tally_notice (n : Notice) (shown : List Signal) :
    tally c (.notice n :: shown) = tally c shown := by
  simp [tally, Signal.counts]

@[simp] theorem tally_sighted (s : Sighting) (shown : List Signal) :
    tally c (.sighted s :: shown) = tally c shown := by
  simp [tally, Signal.counts]

end

end QueryWatch
