import TraceOverhead.Json.Record
/-!
The description of the machine that results were measured on.
-/

namespace TraceOverhead

structure Platform where
  system : String
  node : String
  release : String
  version : String
  machine : String
  processor : String
  deriving DecidableEq, Repr

namespace Platform

def fieldNames : List String :=
  ["system", "node", "release", "version", "machine", "processor"]

def ofText? (text : String) : Option Platform := do
  let [system, node, release, version, machine, processor] ←
    Json.fieldsOfText? fieldNames 6 text | none
  return {
    system := ← Json.required? Json.text? system
    node := ← Json.required? Json.text? node
    release := ← Json.required? Json.text? release
    version := ← Json.required? Json.text? version
    machine := ← Json.required? Json.text? machine
    processor := ← Json.required? Json.text? processor }

def toJson (platform : Platform) : Json :=
  .object
    [("system", .string platform.system),
     ("node", .string platform.node),
     ("release", .string platform.release),
     ("version", .string platform.version),
     ("machine", .string platform.machine),
     ("processor", .string platform.processor)]

end Platform

end TraceOverhead
