import TraceOverhead.Host
/-!
Reading recorded traces. A trace is ready when every stream directory of it has its metadata, and
its events are counted by the lines that an external printer makes of it.
-/

namespace TraceOverhead.Trace

def metadataName : String := "metadata"

/-- Whether a walk found a regular file of the right name. Links do not count. -/
def isMetadata : Location × Finding → Bool
  | (location, .file _) => location.getLast? = some metadataName
  | (_, .directory _) | (_, .link) => false

/-- What is wrong with a single finding: a directory or a metadata file that cannot be opened, or
metadata without content. -/
def findingFault? (path : String) : Location × Finding → Option TraceFault
  | (location, .directory (some failure)) => some (.unopened (Path.extend path location) failure)
  | (location, .file content) =>
    if isMetadata (location, .file content) then match content with
      | .error failure => some (.unopened (Path.extend path location) failure)
      | .ok [] => some (.emptyMetadata (Path.extend path location))
      | .ok (_ :: _) => none
    else none
  | (_, .directory none) | (_, .link) => none

/-- What keeps a tree from being read: the first fault of a finding, or else that there is no
metadata in it. -/
def fault? (path : String) (findings : List (Location × Finding)) : Option TraceFault :=
  match findings.findSome? (findingFault? path) with
  | some fault => some fault
  | none => if findings.any isMetadata then none else some .noMetadata

def checkReady (path : String) : Attempt host Unit := do
  let notReady (fault : TraceFault) : Attempt host Unit := throw (.traceNotReady path fault)
  if ← Host.ask (.isDirectory path) then
    match fault? path (← Host.ask (.walk path)) with
    | some fault => notReady fault
    | none => pure ()
  else notReady .noDirectory

def newline : UInt8 := 10

/-- How many lines are not empty; `inLine` if one has begun. -/
def countLines (inLine : Bool) : Bytes → Nat
  | [] => 0
  | byte :: rest =>
    if byte = newline then countLines false rest
    else (if inLine then 0 else 1) + countLines true rest

def standardPrinter : String := "babeltrace2"

/-- The number of events in a trace, one for every line that the printer writes. -/
def countEvents (printer path : String) : Attempt host UInt64 := do
  checkReady path
  let output ← Host.output printer [path]
  return UInt64.ofNat (countLines false output)

end TraceOverhead.Trace
