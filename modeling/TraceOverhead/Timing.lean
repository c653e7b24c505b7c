import TraceOverhead.Error
import TraceOverhead.Json.Record
import TraceOverhead.Json.Parser
/-!
The timestamps that a benchmarked program prints, in seconds, and the two spans between them that
are measured: from `exec` to `main`, and from the start of its loop to the end.
-/

namespace TraceOverhead

structure TimingRecord where
  exec : Option Float
  main : Option Float
  start : Option Float
  finish : Option Float

namespace TimingRecord

def timestamp (record : TimingRecord) : Timestamp → Option Float
  | .exec => record.exec
  | .main => record.main
  | .start => record.start
  | .finish => record.finish

def require (record : TimingRecord) (field : Timestamp) : Except Error Float :=
  match record.timestamp field with
  | some time => .ok time
  | none => .error (.missingField field)

/-- The later timestamp is asked for first, so it is the one named when both are missing. -/
def span (record : TimingRecord) (later earlier : Timestamp) : Except Error Float := do
  let reached ← record.require later
  let left ← record.require earlier
  return reached - left

def startup (record : TimingRecord) : Except Error Float := record.span .main .exec

def run (record : TimingRecord) : Except Error Float := record.span .finish .start

def fieldNames : List String := [Timestamp.exec, .main, .start, .finish].map Timestamp.name

def ofJson? (document : Json) : Option TimingRecord := do
  let [exec, main, start, finish] ← document.fields? fieldNames 4 | none
  return {
    exec := ← Json.nullable? Json.float? exec
    main := ← Json.nullable? Json.float? main
    start := ← Json.nullable? Json.float? start
    finish := ← Json.nullable? Json.float? finish }

def toJson (record : TimingRecord) : Json :=
  .object ([Timestamp.exec, .main, .start, .finish].map fun field =>
    (field.name, Json.optional Json.float (record.timestamp field)))

/-- What the runner prints: a list of records, one for every process it started, or one record
alone. The list is tried first. -/
def listOfJson? (document : Json) : Option (List TimingRecord) :=
  (Json.list? ofJson? document).or ((ofJson? document).map fun record => [record])

def listToJson (records : List TimingRecord) : Json := .array (records.map toJson)

def readOutput (output : Bytes) : Except Error (List TimingRecord) :=
  match (Json.parseBytes? output).bind listOfJson? with
  | some records => .ok records
  | none => .error .json

end TimingRecord
end TraceOverhead
