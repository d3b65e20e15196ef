import QueryWatch.Building
import QueryWatch.Encoding.Gauge
import QueryWatch.Turn

namespace QueryWatch.Sink

open Config

structure GaugeTarget where
  host : String
  resolved : Bool
  transfers : Nat := 0

structure GaugeSink where
  kind : String
  lead : Option String
  target : Option GaugeTarget
  stopped : Bool := false
  /-- Why a datagram cannot be sent, if it cannot. -/
  outcome : Nat → Option Fault

namespace GaugeSink

structure Options where
  host : Option String := none
  port : UInt16 := 8125
  lead : Option String := none

def Options.record : Record Options where
  name := "DatadogOptions"
  start := {}
  fields :=
    [.of "host" (readOption readString) fun s o => { o with host := s },
      .of "port" readUInt16 fun n o => { o with port := n },
      .of "prefix" (readOption readString) fun s o => { o with lead := s }]

def nonEmpty (s : Option String) : Option String :=
  s.filter (· ≠ "")

/-- Looks up a host when a sink is built; a host without an address is told of. -/
def lookUp (kind host : String) (network : Network) : Bool × List Signal :=
  if network.resolves host then (true, []) else (false, [.notice (.hostUnresolved kind host)])

def build (entry : ReporterEntry) (site : Site) : Construction GaugeSink :=
  match Options.record.options entry.options with
  | .error e => ⟨.refused e, []⟩
  | .ok o =>
    let sink : GaugeSink :=
      { kind := entry.kind, lead := nonEmpty o.lead, target := none
        outcome := site.network.datagram }
    match nonEmpty o.host with
    | none => ⟨.built sink, [.notice (.reporterDisabled entry.kind "host")]⟩
    | some host =>
      let (resolved, signals) := lookUp entry.kind host site.network
      ⟨.built { sink with target := some { host, resolved } }, signals⟩

def isEnabled (s : GaugeSink) : Bool :=
  s.target.isSome

def send (s : GaugeSink) (target : GaugeTarget) : GaugeSink × Option Fault :=
  if target.resolved then
    ({ s with target := some { target with transfers := target.transfers + 1 } },
      s.outcome target.transfers)
  else (s, some (.unresolved target.host))

def report (m : Measurement) (s : GaugeSink) : Turn GaugeSink :=
  match s.target, s.stopped, Encoding.Gauge.encode s.lead m with
  | some target, false, some _ =>
    match s.send target with
    | (s, none) => { unit := s, signals := [.counted (.reports s.kind)] }
    | (s, some fault) =>
      { unit := s
        signals := [.counted (.reportFailures s.kind), .notice (.gaugeNotSent s.kind fault)] }
  | _, _, _ => { unit := s }

@[simp] theorem kind_send (s : GaugeSink) (target : GaugeTarget) :
    (s.send target).1.kind = s.kind := by
  unfold send
  split <;> rfl

@[simp] theorem kind_unit_report (m : Measurement) (s : GaugeSink) :
    (s.report m).unit.kind = s.kind := by
  unfold report
  split
  · grind [kind_send]
  · rfl

instance : ReporterUnit GaugeSink where
  kind := kind
  report := report
  stop s := { unit := { s with stopped := true } }
  kind_report := kind_unit_report

end GaugeSink

end QueryWatch.Sink
