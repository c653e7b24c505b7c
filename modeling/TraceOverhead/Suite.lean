import TraceOverhead.Benchmark
import TraceOverhead.Host
import TraceOverhead.Json.Parser
/-!
Suites of benchmarks: the entries of a suite file, how often each group of entries is repeated, and
the suite that is run when no file is given.
-/

namespace TraceOverhead

/-- Benchmarks with a loop are repeated as `full`, those that only start up as `fast`. -/
inductive Group where
  | full
  | fast
  deriving DecidableEq, Repr

def Group.name : Group → String
  | .full => "full"
  | .fast => "fast"

def Group.ofName? (name : String) : Option Group :=
  if name = "full" then some .full else if name = "fast" then some .fast else none

/-- A group is written as its name, or as an object whose one member is that name with null. -/
def Group.ofJson? : Json → Option Group
  | .string name => Group.ofName? name
  | .object [(name, .null)] => Group.ofName? name
  | _ => none

structure SuiteEntry where
  name : String
  group : Group
  benchmark : Benchmark
  deriving DecidableEq

abbrev Suite := List SuiteEntry

namespace SuiteEntry

/-- The benchmark's fields stand among the entry's own, so an entry is always an object. -/
def ofJson? : Json → Option SuiteEntry
  | .object members => do
    return {
      name := ← Json.required? Json.text? (← Json.member? members "name")
      group := ← Json.required? Group.ofJson? (← Json.member? members "group")
      benchmark := ← Benchmark.ofJson? (.object members) }
  | _ => none

def toJson (entry : SuiteEntry) : Json :=
  .object ([("name", .string entry.name), ("group", .string entry.group.name)] ++
    entry.benchmark.members)

end SuiteEntry

namespace Suite

def ofJson? : Json → Option Suite := Json.list? SuiteEntry.ofJson?

def ofText? (text : String) : Option Suite := (Json.parse? text).bind ofJson?

def load (path : String) : Attempt host Suite := do
  match ofText? (← Host.readText path) with
  | some suite => return suite
  | none => throw .json

def toJson (suite : Suite) : Json := .array (suite.map SuiteEntry.toJson)

/-- Three benchmarks with their loops, then the same three without. -/
def standard : Suite :=
  let basic := Benchmark.ofPrograms "basic-benchmark" "basic-benchmark-ust"
  let sha2 := Benchmark.ofPrograms "sha2-benchmark" "sha2-benchmark-ust"
  let generated := Benchmark.ofPrograms "basic-benchmark" "basic-benchmark-gen-tp"
  [⟨"basic", .full, basic.withLoops 10000000⟩,
   ⟨"sha2", .full, sha2.withLoops 1000000⟩,
   ⟨"gen-tp", .full, { generated.withLoops 1000000 with tracepointsPerLoop := 16 }⟩,
   ⟨"basic", .fast, basic⟩,
   ⟨"sha2", .fast, sha2⟩,
   ⟨"gen-tp", .fast, generated⟩]

end Suite

inductive Profile where
  | quick
  | full
  deriving DecidableEq, Repr

def Profile.name : Profile → String
  | .quick => "quick"
  | .full => "full"

def Profile.ofName? (name : String) : Option Profile :=
  if name = "quick" then some .quick else if name = "full" then some .full else none

def Profile.passes : Profile → Group → Nat
  | .quick, .full => 1
  | .quick, .fast => 2
  | .full, .full => 3
  | .full, .fast => 5

structure Config where
  profile : Profile
  fullPasses : Nat
  fastPasses : Nat
  /-- The loop count of the kernel benchmark, which is skipped without one. -/
  kernelLoops : Option UInt64
  /-- Measure at every number of CPUs, from all down to one. -/
  cpuSweep : Bool
  countEvents : Bool
  seed : UInt64
  deriving DecidableEq, Repr

def Config.ofProfile (profile : Profile) : Config :=
  { profile
    fullPasses := profile.passes .full
    fastPasses := profile.passes .fast
    kernelLoops := some 1000000
    cpuSweep := true
    countEvents := false
    seed := 0 }

def Config.passes (config : Config) : Group → Nat
  | .full => config.fullPasses
  | .fast => config.fastPasses

end TraceOverhead
