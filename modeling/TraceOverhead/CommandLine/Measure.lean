import TraceOverhead.Campaign
import TraceOverhead.CommandLine.Grammar
import TraceOverhead.Report.Files
import TraceOverhead.Session.Client
/-!
The command that measures: it reads the suite, runs the campaign with the tracing client and the
trace printer, clears up, and writes the report in its three forms. After an interrupt nothing is
written, and the exit status says so.
-/

namespace TraceOverhead.CommandLine.Measure

structure Settings where
  profile : Profile
  fullPasses : Option Nat
  fastPasses : Option Nat
  runner : String
  suite : Option String
  plotDirectory : String
  jsonFile : String
  propertiesFile : Option String
  cpuSweep : Bool
  kernel : Bool
  moduleDirectory : String
  kernelLoops : UInt64
  countEvents : Bool
  printer : String
  client : String
  daemon : String
  seed : UInt64
  deriving DecidableEq, Repr

def standard : Settings :=
  { profile := .quick
    fullPasses := none
    fastPasses := none
    runner := "./lttng-ust-benchmarks"
    suite := none
    plotDirectory := "./jenkins_plot_data"
    jsonFile := "./benchmarks.json"
    propertiesFile := none
    cpuSweep := true
    kernel := true
    moduleDirectory := "kernel-benchmark"
    kernelLoops := 1000000
    countEvents := false
    printer := Trace.standardPrinter
    client := "lttng"
    daemon := "lttng-sessiond"
    seed := 0 }

def valued (name : String) (read? : String → Option α) (set : Settings → α → Settings) :
    Flag Settings :=
  ⟨name, none, .valued fun settings value => (read? value).map (set settings)⟩

def switch (name : String) (set : Settings → Settings) : Flag Settings := ⟨name, none, .switch set⟩

def grammar : Grammar Settings :=
  { flags :=
      [valued "profile" Profile.ofName? fun settings profile => { settings with profile },
       valued "full-passes" natural? fun settings count =>
         { settings with fullPasses := some count },
       valued "fast-passes" natural? fun settings count =>
         { settings with fastPasses := some count },
       valued "runner" path? fun settings runner => { settings with runner },
       valued "suite" path? fun settings path => { settings with suite := some path },
       valued "props-dir" path? fun settings plotDirectory => { settings with plotDirectory },
       valued "json-out" path? fun settings jsonFile => { settings with jsonFile },
       valued "properties-file" path? fun settings path =>
         { settings with propertiesFile := some path },
       switch "no-cpu-sweep" fun settings => { settings with cpuSweep := false },
       switch "no-kernel" fun settings => { settings with kernel := false },
       valued "kernel-module-dir" path? fun settings moduleDirectory =>
         { settings with moduleDirectory },
       valued "kernel-loops" word? fun settings kernelLoops => { settings with kernelLoops },
       switch "count-events" fun settings => { settings with countEvents := true },
       valued "babeltrace" path? fun settings printer => { settings with printer },
       valued "lttng" path? fun settings client => { settings with client },
       valued "sessiond" path? fun settings daemon => { settings with daemon },
       valued "seed" word? fun settings seed => { settings with seed },
       Flag.help]
    operands := [] }

def config (settings : Settings) : Config :=
  let preset := Config.ofProfile settings.profile
  { preset with
    fullPasses := settings.fullPasses.getD preset.fullPasses
    fastPasses := settings.fastPasses.getD preset.fastPasses
    kernelLoops := if settings.kernel then some settings.kernelLoops else none
    cpuSweep := settings.cpuSweep
    countEvents := settings.countEvents
    seed := settings.seed }

def loadSuite (settings : Settings) : Attempt host Suite :=
  match settings.suite with
  | some path => Suite.load path
  | none => pure Suite.standard

def campaign (settings : Settings) (workspace : Workspace) (suite : Suite) : Campaign :=
  { runner := settings.runner
    workspace
    suite
    config := config settings
    hasReader := settings.countEvents
    kernel := if settings.kernel then some (KernelBench.inDirectory settings.moduleDirectory)
      else none }

def client (settings : Settings) (workspace : Workspace) : Client :=
  { program := settings.client
    daemon := ⟨settings.client, settings.daemon, workspace.pidfile⟩ }

/-- Runs a campaign to its end. All is cleared away before the outcome is passed on. -/
def sweep (settings : Settings) (workspace : Workspace) (suite : Suite) : Attempt host Results :=
  ExceptT.mk do
    let campaign := campaign settings workspace suite
    let client := client settings workspace
    let ((outcome, state), launched) ← client.run settings.printer
      ((campaign.sweep Hotplug.systemRoot).run.run CampaignState.initial) false
    discard (client.run settings.printer (campaign.close state) launched)
    pure outcome

def benchVersion : String := "0.3.0"

def schemaVersion : Nat := 1

def shaLength : Nat := 12

/-- The commit that is measured, as the environment names it. -/
def commit : Dialogue host (Option String) := do
  let first ← Host.ask (.environment "GIT_SHA")
  let second ← Host.ask (.environment "GITHUB_SHA")
  pure ((first <|> second).map fun sha => String.ofList (sha.toList.take shaLength))

def runInfo (settings : Settings) : Dialogue host RunInfo := do
  let config := config settings
  let time ← Host.ask .time
  let gitSha ← commit
  pure {
    schemaVersion
    benchVersion
    profile := config.profile.name
    fullPasses := config.fullPasses
    fastPasses := config.fastPasses
    timestamp := "unix:" ++ Number.decimal time
    gitSha }

def writeReport (settings : Settings) (report : Report) : Attempt host Unit := do
  ReportFiles.writePlotProperties (Report.plotEntries report.results) settings.plotDirectory
  ReportFiles.writeJson report.toJson settings.jsonFile
  match settings.propertiesFile with
  | some path => ReportFiles.writePropertiesText report.propertyEntries path
  | none => pure ()
  Host.info ("results written to " ++ settings.jsonFile)

def measure (settings : Settings) : Attempt host Unit := do
  let suite ← loadSuite settings
  let workspace ← Workspace.make settings.seed
  Host.info ("session " ++ workspace.sessionName ++ " in " ++ workspace.directory)
  let results ← sweep settings workspace suite
  let run ← runInfo settings
  let platform ← Host.ask .platform
  writeReport settings ⟨run, results, platform⟩

/-- An interrupt also reaches the programs that are being run, so whatever failed after one failed
because of it. -/
def run (settings : Settings) : Dialogue host Ending := do
  match ← (measure settings).outcome with
  | .ok () => pure ⟨0, ""⟩
  | .error failure => do
    let interrupted ← Host.ask .interrupted
    if failure = .interrupted || interrupted then do
      Host.warn ("interrupted (" ++ failure.message ++ "), results discarded")
      pure ⟨130, ""⟩
    else do
      Host.log .error failure.message
      pure ⟨1, ""⟩

def command (words : List String) : Dialogue host Ending :=
  match grammar.read standard words with
  | .ok settings => run settings
  | .error .help => pure ⟨0, grammar.usage "lttng-ust-bench"⟩
  | .error (.misuse misuse) => pure ⟨2, misuse.message ++ "\n"⟩

end TraceOverhead.CommandLine.Measure
