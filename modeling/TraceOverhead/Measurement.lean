import TraceOverhead.Benchmark
import TraceOverhead.Timing
/-!
The overhead of tracing as one repetition of a benchmark shows it: a plain run, an instrumented run
without a session and one inside a session are compared, each by the summed times of its records.
-/

namespace TraceOverhead

/-- Summed times over all records of one run. -/
structure Totals where
  start : Float
  run : Option Float

/-- Sums are taken in record order. The loop's timestamps are not looked at without a loop. -/
def Totals.ofRecords (withRun : Bool) (records : List TimingRecord) : Except Error Totals := do
  let (start, run) ← records.foldlM
    (fun (start, run) record => do
      let start := start + (← record.startup)
      if withRun then return (start, run + (← record.run)) else return (start, run))
    ((0.0 : Float), (0.0 : Float))
  return ⟨start, if withRun then some run else none⟩

/-- Nanoseconds for each of `count` events in the time past the baseline. -/
def nanosecondsPerEvent (run base : Float) (count : Nat) : Float :=
  (run - base) * 1e9 / Number.ofNat count

/-- A share of nothing has no percentage. -/
def percentage (delta base : Float) : Option Float :=
  if base == 0.0 then none else some (delta * 100.0 / base)

structure BaselineResult where
  arguments : List String
  startTime : Float
  runTime : Option Float

structure TracingResult where
  arguments : List String
  startTime : Float
  runTime : Option Float
  perEvent : Option Float
  startOverhead : Float
  startOverheadPercent : Option Float
  eventCount : Option UInt64

def TracingResult.ofTotals (arguments : List String) (totals base : Totals) (events : Option Nat)
    (eventCount : Option UInt64) : TracingResult :=
  let startOverhead := totals.start - base.start
  { arguments
    startTime := totals.start
    runTime := totals.run
    perEvent := match totals.run, base.run, events with
      | some run, some baseRun, some count =>
        if 0 < count then some (nanosecondsPerEvent run baseRun count) else none
      | _, _, _ => none
    startOverhead
    startOverheadPercent := percentage startOverhead base.start
    eventCount }

structure UserMeasurement where
  baseline : BaselineResult
  tracingDisabled : TracingResult
  tracingEnabled : TracingResult

/-- The lists are summed one after the other, so the first that lacks a timestamp is reported. The
event count was read from the trace of the last run. -/
def UserMeasurement.ofRecords (benchmark : Benchmark) (base disabled enabled : List TimingRecord)
    (eventCount : Option UInt64) : Except Error UserMeasurement := do
  let withRun := benchmark.loops.isSome
  let base ← Totals.ofRecords withRun base
  let disabled ← Totals.ofRecords withRun disabled
  let enabled ← Totals.ofRecords withRun enabled
  let arguments := benchmark.instrumentedArguments
  return {
    baseline := ⟨benchmark.baselineArguments, base.start, base.run⟩
    tracingDisabled := .ofTotals arguments disabled base benchmark.eventCount none
    tracingEnabled := .ofTotals arguments enabled base benchmark.eventCount eventCount }

/-- A loop in the kernel, untraced and traced. -/
structure KernelMeasurement where
  baseRun : Float
  tracedRun : Float
  perEvent : Float

def KernelMeasurement.ofTimes (baseRun tracedRun : Float) (loops : UInt64) : KernelMeasurement :=
  ⟨baseRun, tracedRun, nanosecondsPerEvent tracedRun baseRun (max loops.toNat 1)⟩

def BaselineResult.toJson (result : BaselineResult) : Json :=
  .object
    [("args", Json.strings result.arguments),
     ("start_time", Json.float result.startTime),
     ("run_time", Json.optional Json.float result.runTime)]

def TracingResult.toJson (result : TracingResult) : Json :=
  .object
    ([("args", Json.strings result.arguments),
      ("start_time", Json.float result.startTime),
      ("run_time", Json.optional Json.float result.runTime),
      ("ns_per_event", Json.optional Json.float result.perEvent),
      ("start_overhead_s", Json.float result.startOverhead),
      ("start_overhead_pct", Json.optional Json.float result.startOverheadPercent)] ++
      (result.eventCount.map fun count => ("event_count", Json.natural count.toNat)).toList)

def UserMeasurement.toJson (measurement : UserMeasurement) : Json :=
  .object
    [("baseline", measurement.baseline.toJson),
     ("tracing_disabled", measurement.tracingDisabled.toJson),
     ("tracing_enabled", measurement.tracingEnabled.toJson)]

def KernelMeasurement.toJson (measurement : KernelMeasurement) : Json :=
  .object
    [("baseline", .object [("run_time", Json.float measurement.baseRun)]),
     ("tracing_enabled", .object
       [("run_time", Json.float measurement.tracedRun),
        ("ns_per_event", Json.float measurement.perEvent)])]

end TraceOverhead
