import Std.Data.TreeSet.Basic
import TraceOverhead.Error
import TraceOverhead.Text.Blank
import TraceOverhead.Text.Pieces
/-!
Lists of CPUs in the kernel's notation: numbers and ranges with commas between them, such as
`0-3,6,8-9`. Reading takes any order and overlap; writing gives the longest runs in increasing
order.
-/

namespace TraceOverhead

abbrev CpuSet := Std.TreeSet Nat

namespace CpuSet

def diff (cpus others : CpuSet) : List Nat := cpus.toList.filter fun cpu => !others.contains cpu

def inter (cpus others : CpuSet) : List Nat := cpus.toList.filter others.contains

/-- Members in increasing order, in braces. -/
def describe (cpus : CpuSet) : String :=
  "\x7b" ++ ", ".intercalate (cpus.toList.map Number.decimal) ++ "\x7d"

end CpuSet

namespace CpuListing

def largestCpu : Nat := UInt32.size - 1

def number? (text : List Char) : Option Nat := (Number.readNatural largestCpu text).toOption

/-- The first and last CPU that a piece names: a number, or a range up to its first dash. -/
def range? (piece : List Char) : Option (Nat × Nat) :=
  match piece.dropWhile (· ≠ '-') with
  | [] => (number? piece).map fun cpu => (cpu, cpu)
  | _ :: high => do
    let low ← number? (piece.takeWhile (· ≠ '-'))
    let high ← number? high
    some (low, high)

def expand (range : Nat × Nat) : List Nat := List.range' range.1 (range.2 + 1 - range.1)

/-- The set that a listing denotes. Empty pieces are passed over. -/
def parse? (text : String) : Option CpuSet := do
  let parts := (Text.pieces ',' (Text.trim text).toList).filter fun piece => !piece.isEmpty
  let ranges ← parts.mapM range?
  return ranges.foldl (fun cpus range => cpus.insertMany (expand range)) ∅

def parse (text : String) : Except Error CpuSet :=
  match parse? text with
  | some cpus => .ok cpus
  | none => .error (.cpu (.malformedList text))

/-- Splits increasing numbers into their longest runs. -/
def runs : List Nat → List (Nat × Nat)
  | [] => []
  | cpu :: rest => match runs rest with
    | (low, high) :: others =>
      if cpu + 1 = low then (cpu, high) :: others else (cpu, cpu) :: (low, high) :: others
    | [] => [(cpu, cpu)]

def renderRun (run : Nat × Nat) : String :=
  if run.1 = run.2 then Number.decimal run.1
  else Number.decimal run.1 ++ "-" ++ Number.decimal run.2

/-- The kernel's own writing of a set, a line by itself. -/
def render (cpus : CpuSet) : String :=
  ",".intercalate ((runs cpus.toList).map renderRun) ++ "\n"

end CpuListing
end TraceOverhead
