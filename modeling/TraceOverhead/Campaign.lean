import TraceOverhead.Cpu.Hotplug
import TraceOverhead.Kernel
import TraceOverhead.Report
import TraceOverhead.Runner
import TraceOverhead.Session.Workspace
import TraceOverhead.Suite
/-!
A measuring campaign: every benchmark of a suite is repeated, then the one in the kernel, and all of
this at every number of CPUs. An interrupt is heeded between passes; a kernel benchmark that fails
is left out; and however the campaign goes, its session, its kernel modules, the daemon and the
scratch space are cleared away in the end.
-/

namespace TraceOverhead

/-- What a campaign is to measure, and with what. -/
structure Campaign where
  runner : String
  workspace : Workspace
  suite : Suite
  config : Config
  hasReader : Bool
  kernel : Option KernelBench

/-- What a campaign remembers from one pass to the next. -/
structure CampaignState where
  /-- The number of the next session's trace. -/
  nextTrace : Nat
  inserted : Inserted
  deriving DecidableEq, Repr

def CampaignState.initial : CampaignState := ⟨0, []⟩

/-- What a campaign does may change what it remembers, also if it ends in an error. -/
abbrev Measuring (α : Type) := ExceptT Error (StateT CampaignState (Dialogue instruments)) α

namespace Campaign

open Instruments

def onHost (dialogue : Dialogue host α) : Measuring α :=
  ExceptT.lift (StateT.lift (Instruments.onHost dialogue))

def attempt (attempt : Attempt host α) : Measuring α :=
  ExceptT.mk (StateT.lift (Instruments.onHost attempt.outcome))

/-- How something ends, as the result of something that cannot fail. -/
def caught (measuring : Measuring α) : Measuring (Except Error α) := ExceptT.lift measuring.run

/-- Something that uses and changes which kernel modules were inserted. -/
def withInserted (dialogue : Inserted → Dialogue host (Inserted × Except Error α)) :
    Measuring α := ExceptT.mk fun state => do
  let (inserted, outcome) ← Instruments.onHost (dialogue state.inserted)
  pure (outcome, { state with inserted })

/-- The configuration of the next session, which no other session shares its trace with. -/
def nextSession (campaign : Campaign) (domain : Domain) (events : List String)
    (snapshot : Bool) : Measuring SessionConfig := ExceptT.mk fun state =>
  pure (.ok (campaign.workspace.sessionConfig state.nextTrace domain events snapshot),
    { state with nextTrace := state.nextTrace + 1 })

def checkInterrupted : Measuring Unit := do
  if ← onHost (Host.ask .interrupted) then throw .interrupted

/-- Runs the plain program, the instrumented one without a session, and that one again inside a
session. The session records to disk only if its events are to be counted. -/
def userPass (campaign : Campaign) (entry : SuiteEntry) : Measuring Pass := do
  let benchmark := entry.benchmark
  let base ← attempt (Runner.run campaign.runner benchmark.baselineArguments)
  let disabled ← attempt (Runner.run campaign.runner benchmark.instrumentedArguments)
  let config ← campaign.nextSession .user ["*"] (!campaign.hasReader)
  let traced ← Runner.runTraced campaign.runner benchmark.instrumentedArguments config
    campaign.hasReader
  let measurement ← (UserMeasurement.ofRecords benchmark base disabled traced.records
    traced.eventCount : Except Error UserMeasurement)
  return ⟨entry.name, .user measurement⟩

/-- Times the loop in the kernel, first untraced and then inside a session. -/
def kernelPass (campaign : Campaign) (bench : KernelBench) (loops : UInt64) : Measuring Pass := do
  let base ← withInserted (bench.benchmark loops)
  let events ← attempt bench.events
  let config ← campaign.nextSession .kernel events true
  let traced ← Session.during config (withInserted (bench.benchmark loops))
  return ⟨"kernel", .kernel (KernelMeasurement.ofTimes base traced loops)⟩

def announcement (entry : SuiteEntry) (number count : Nat) : String :=
  let group := match entry.group with
    | .full => "Full"
    | .fast => "Fast"
  entry.name ++ " (" ++ group ++ " pass " ++ Number.decimal number ++ "/" ++
    Number.decimal count ++ ")"

/-- The last `remaining` of `count` repetitions of an entry, until one fails or an interrupt has
arrived. -/
def repeatEntry (campaign : Campaign) (entry : SuiteEntry) (count : Nat) :
    (remaining : Nat) → Measuring (List Pass)
  | 0 => pure []
  | remaining + 1 => do
    checkInterrupted
    onHost (Host.info (announcement entry (count - remaining) count))
    let pass ← campaign.userPass entry
    let passes ← campaign.repeatEntry entry count remaining
    return pass :: passes

def repeatEntries (campaign : Campaign) : List SuiteEntry → Measuring (List Pass)
  | [] => pure []
  | entry :: entries => do
    let count := campaign.config.passes entry.group
    let first ← campaign.repeatEntry entry count count
    let others ← campaign.repeatEntries entries
    return first ++ others

def entries (campaign : Campaign) (group : Group) : List SuiteEntry :=
  campaign.suite.filter fun entry => entry.group = group

/-- The suite in the order in which it is run, the looping benchmarks first. -/
def schedule (campaign : Campaign) : List SuiteEntry :=
  campaign.entries .full ++ campaign.entries .fast

/-- Repeats the kernel benchmark until it fails, which most often means that the user may not load
modules. An interrupt that shows before a repetition ends the campaign. -/
def kernelTurns (campaign : Campaign) (bench : KernelBench) (loops : UInt64) :
    Nat → Measuring (List Pass)
  | 0 => pure []
  | count + 1 => do
    checkInterrupted
    match ← caught (campaign.kernelPass bench loops) with
    | .ok pass => do
      let passes ← campaign.kernelTurns bench loops count
      return pass :: passes
    | .error .interrupted => throw .interrupted
    | .error failure => do
      onHost (Host.warn ("failed to run kernel benchmark, skipping: " ++ failure.message))
      return []

/-- All passes at one number of CPUs. -/
def runSuite (campaign : Campaign) : Measuring (List Pass) := do
  let passes ← campaign.repeatEntries campaign.schedule
  match campaign.config.kernelLoops, campaign.kernel with
  | some loops, some bench => do
    let kernelPasses ← campaign.kernelTurns bench loops campaign.config.fullPasses
    return passes ++ kernelPasses
  | _, _ => return passes

/-- Measures at `count` CPUs, then at one less, down to one, or until a number cannot be set. -/
def sweepDown (campaign : Campaign) (cpuRoot : String) :
    (count : Nat) → Results → Measuring Results
  | 0, results => pure results
  | count + 1, results => do
    match ← caught (attempt (Hotplug.setCount cpuRoot (count + 1))) with
    | .error failure => do
      onHost (Host.warn ("failed to set CPU count to " ++ Number.decimal (count + 1) ++
        ", skipping: " ++ failure.message))
      return results
    | .ok () => do
      let passes ← campaign.runSuite
      campaign.sweepDown cpuRoot count (results.record (cpuKey (count + 1)) passes)

/-- The number of CPUs online or, if it cannot be read, of threads that can run at once. -/
def currentCount (cpuRoot : String) : Measuring Nat := do
  match ← caught (attempt (Hotplug.onlineCount cpuRoot)) with
  | .ok count => return count
  | .error failure => do
    onHost (Host.warn ("cannot read online CPUs (" ++ failure.message ++
      "), using available parallelism"))
    onHost (Host.ask .parallelism)

/-- Measures at every number of CPUs from the current one down to one, or at the current one alone.
The CPUs that were online are brought back whatever happened. -/
def sweep (campaign : Campaign) (cpuRoot : String) : Measuring Results := do
  if campaign.config.cpuSweep then
    let saved ← attempt (Hotplug.online cpuRoot)
    let outcome ← caught (campaign.sweepDown cpuRoot saved.size Results.empty)
    onHost (Hotplug.restore cpuRoot saved)
    (outcome : Except Error Results)
  else
    let count ← currentCount cpuRoot
    let passes ← campaign.runSuite
    return Results.empty.record (cpuKey count) passes

/-- Clears away what the campaign may have left: its session, the kernel modules, whatever the
controller holds, the modules once more, and last the scratch space, which holds the pidfile. -/
def close (campaign : Campaign) (state : CampaignState) : Dialogue instruments Unit := do
  discard (callController (.destroy campaign.workspace.sessionName))
  let inserted ← Instruments.onHost (KernelBench.release state.inserted)
  ask .releaseController
  discard (Instruments.onHost (KernelBench.release inserted))
  Instruments.onHost (Host.ask (.removeTree campaign.workspace.directory))

end Campaign
end TraceOverhead
