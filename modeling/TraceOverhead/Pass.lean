import TraceOverhead.Measurement
import TraceOverhead.Flatten
/-!
Passes, the repetitions of named benchmarks, and their averages: every number of the passes' flat
views is averaged over the passes that have it.
-/

namespace TraceOverhead

inductive PassResult where
  | user (measurement : UserMeasurement)
  | kernel (measurement : KernelMeasurement)

def PassResult.toJson : PassResult → Json
  | .user measurement => measurement.toJson
  | .kernel measurement => measurement.toJson

/-- One repetition of one benchmark. -/
structure Pass where
  name : String
  result : PassResult

namespace Pass

def toJson (pass : Pass) : Json := .object [(pass.name, pass.result.toJson)]

def listToJson (passes : List Pass) : Json := .array (passes.map toJson)

end Pass

abbrev Averages := Std.TreeMap String Float

/-- The number that a flat view holds at a path, if it holds one. -/
def FlatMap.number? (entries : FlatMap) (path : String) : Option Float :=
  match entries[path]? with
  | some (.number value) => some value.toFloat
  | _ => none

/-- The sum from zero, in order, divided by how many there are. -/
def mean (values : List Float) : Float :=
  values.foldl (· + ·) 0.0 / Number.ofNat values.length

/-- The numbers at a path, in pass order. Passes that hold none there do not count. -/
def occurrences (passes : List FlatMap) (path : String) : List Float :=
  passes.filterMap fun entries => FlatMap.number? entries path

def averageAt? (passes : List FlatMap) (path : String) : Option Float :=
  match occurrences passes path with
  | [] => none
  | values => some (mean values)

/-- The mean of every path that is a number in some pass. -/
def aggregate (passes : List FlatMap) : Averages :=
  let paths := passes.flatMap fun entries => entries.toList.map Prod.fst
  paths.foldl
    (fun averages path => match averageAt? passes path with
      | some average => averages.insert path average
      | none => averages)
    ∅

def averagePasses (passes : List Pass) : Averages :=
  aggregate (passes.map fun pass => flatten .dotted pass.toJson)

def Averages.toJson (averages : Averages) : Json :=
  .object (averages.toList.map fun (path, average) => (path, Json.float average))

end TraceOverhead
