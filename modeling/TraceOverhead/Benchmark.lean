import TraceOverhead.Number.Digits
import TraceOverhead.Json.Record
/-!
A benchmark: one program in a plain and in an instrumented build, as argument lists for the runner.
With a loop count the programs time a loop as well; without one they measure start-up alone.
-/

namespace TraceOverhead

structure Benchmark where
  baseline : List String
  instrumented : List String
  loops : Option UInt64
  tracepointsPerLoop : UInt64
  deriving DecidableEq

namespace Benchmark

/-- A plain and an instrumented program, without a loop. -/
def ofPrograms (baseline instrumented : String) : Benchmark :=
  ⟨[baseline], [instrumented], none, 1⟩

def withLoops (benchmark : Benchmark) (loops : UInt64) : Benchmark :=
  { benchmark with loops := some loops }

/-- The loop count is passed as the last argument. -/
def loopArguments (benchmark : Benchmark) : List String :=
  (benchmark.loops.map fun loops => Number.decimal loops.toNat).toList

def baselineArguments (benchmark : Benchmark) : List String :=
  benchmark.baseline ++ benchmark.loopArguments

def instrumentedArguments (benchmark : Benchmark) : List String :=
  benchmark.instrumented ++ benchmark.loopArguments

/-- The arguments that a program is started with: its own, and after them the loop count if there is
one. -/
inductive StartedWith (program : List String) : Option UInt64 → List String → Prop
  | once : StartedWith program none program
  | looping (loops : UInt64) :
      StartedWith program (some loops) (program ++ [Number.decimal loops.toNat])

theorem started_with_loop_arguments (program : List String) (benchmark : Benchmark) :
    StartedWith program benchmark.loops (program ++ benchmark.loopArguments) := by
  rw [loopArguments]
  cases benchmark.loops with
  | none =>
      rw [Option.map_none, Option.toList_none, List.append_nil]
      exact .once
  | some loops => exact .looping loops

theorem started_with_arguments (benchmark : Benchmark) :
    StartedWith benchmark.baseline benchmark.loops benchmark.baselineArguments ∧
      StartedWith benchmark.instrumented benchmark.loops benchmark.instrumentedArguments :=
  ⟨started_with_loop_arguments benchmark.baseline benchmark,
    started_with_loop_arguments benchmark.instrumented benchmark⟩

/-- How many tracepoints one run passes, if it loops; at most the largest 64-bit number. -/
def eventCount (benchmark : Benchmark) : Option Nat :=
  benchmark.loops.map fun loops =>
    min (loops.toNat * benchmark.tracepointsPerLoop.toNat) (UInt64.size - 1)

def fieldNames : List String := ["baseline", "ust", "nr_loops", "tp_per_loop"]

def ofFields? : List (Option Json) → Option Benchmark
  | [baseline, instrumented, loops, tracepointsPerLoop] => do
    return {
      baseline := ← Json.required? Json.texts? baseline
      instrumented := ← Json.required? Json.texts? instrumented
      loops := ← Json.nullable? Json.word? loops
      tracepointsPerLoop := ← Json.defaulted? Json.word? 1 tracepointsPerLoop }
  | _ => none

def ofJson? (document : Json) : Option Benchmark := do
  ofFields? (← document.fields? fieldNames 2)

def ofText? (text : String) : Option Benchmark := do
  ofFields? (← Json.fieldsOfText? fieldNames 2 text)

/-- An absent loop count is left out. -/
def members (benchmark : Benchmark) : List (String × Json) :=
  [("baseline", Json.strings benchmark.baseline), ("ust", Json.strings benchmark.instrumented)] ++
    (benchmark.loops.map fun loops => ("nr_loops", Json.natural loops.toNat)).toList ++
    [("tp_per_loop", Json.natural benchmark.tracepointsPerLoop.toNat)]

def toJson (benchmark : Benchmark) : Json := .object benchmark.members

end Benchmark
end TraceOverhead
