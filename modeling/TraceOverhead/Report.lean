import TraceOverhead.Pass
import TraceOverhead.Platform
/-!
The report of a whole run: how it was made, the passes and their averages at each number of CPUs,
and the platform.
-/

namespace TraceOverhead

structure RunInfo where
  schemaVersion : Nat
  benchVersion : String
  profile : String
  fullPasses : Nat
  fastPasses : Nat
  timestamp : String
  gitSha : Option String
  deriving DecidableEq, Repr

namespace RunInfo

def fieldNames : List String :=
  ["schema_version", "bench_version", "profile", "full_passes", "fast_passes", "timestamp_utc",
   "git_sha"]

def ofText? (text : String) : Option RunInfo := do
  let [schemaVersion, benchVersion, profile, fullPasses, fastPasses, timestamp, gitSha] ←
    Json.fieldsOfText? fieldNames 7 text | none
  return {
    schemaVersion := ← Json.required? (Json.naturalBelow? UInt32.size) schemaVersion
    benchVersion := ← Json.required? Json.text? benchVersion
    profile := ← Json.required? Json.text? profile
    fullPasses := ← Json.required? (Json.naturalBelow? UInt64.size) fullPasses
    fastPasses := ← Json.required? (Json.naturalBelow? UInt64.size) fastPasses
    timestamp := ← Json.required? Json.text? timestamp
    gitSha := ← Json.nullable? Json.text? gitSha }

def toJson (info : RunInfo) : Json :=
  .object
    [("schema_version", Json.natural info.schemaVersion),
     ("bench_version", .string info.benchVersion),
     ("profile", .string info.profile),
     ("full_passes", Json.natural info.fullPasses),
     ("fast_passes", Json.natural info.fastPasses),
     ("timestamp_utc", .string info.timestamp),
     ("git_sha", Json.optional .string info.gitSha)]

end RunInfo

/-- Under which name the results at a number of CPUs are filed. -/
def cpuKey (cpus : Nat) : String := Number.decimal cpus ++ "_cpus"

/-- Passes and averages of every CPU count, under one key each. -/
structure Results where
  data : Std.TreeMap String (List Pass)
  average : Std.TreeMap String Averages

namespace Results

def empty : Results := ⟨∅, ∅⟩

/-- Files the passes of one key together with their averages. -/
def record (results : Results) (key : String) (passes : List Pass) : Results :=
  ⟨results.data.insert key passes, results.average.insert key (averagePasses passes)⟩

def dataToJson (results : Results) : Json :=
  .object (results.data.toList.map fun (key, passes) => (key, Pass.listToJson passes))

def averageToJson (results : Results) : Json :=
  .object (results.average.toList.map fun (key, averages) => (key, Averages.toJson averages))

end Results

structure Report where
  run : RunInfo
  results : Results
  platform : Platform

namespace Report

def toJson (report : Report) : Json :=
  .object
    [("run", report.run.toJson),
     ("data", report.results.dataToJson),
     ("average", report.results.averageToJson),
     ("platform", report.platform.toJson)]

def plotEntries (results : Results) : FlatMap := flatten .dotted results.averageToJson

def propertyEntries (report : Report) : FlatMap := flatten .bracketed report.toJson

end Report
end TraceOverhead
