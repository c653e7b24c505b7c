import TraceOverhead.Cpu.Listing
import TraceOverhead.Instruments
import TraceOverhead.Simulation.Script
import TraceOverhead.Trace
/-!
A machine in memory that answers what is asked of an operating system. It has files, programs that
follow scripts, processes that can be signalled and, if wanted, CPUs whose lists follow their
switches; and it records which programs were run and what was logged.
-/

namespace TraceOverhead

/-- What was used, of programs and of measuring instruments. -/
inductive Simulation.Call where
  | program (name : String) (arguments : List String)
  | controller (call : ControllerCall)
  | reader (tracePath : String)
  deriving DecidableEq

/-- CPUs that the kernel lists by their switches: a CPU with a switch is online if that says `1`,
and one without stays as it was at first. -/
structure Simulation.CpuBank where
  directory : Location
  online : CpuSet
  offline : CpuSet

structure Machine where
  files : FileTree
  workingDirectory : Location
  programs : Std.TreeMap Location Simulation.Program
  cpus : Option Simulation.CpuBank
  /-- Processes that can be signalled, and those that were. -/
  processes : List Int
  signalled : List Int
  interrupted : Bool
  parallelism : Nat
  environment : List (String × String)
  time : Nat
  platform : Platform
  /-- What is used and logged, in order. -/
  calls : Array Simulation.Call
  log : Array (Host.Level × String)

namespace Machine

open Simulation

/-- The directory of programs that are started by their names alone. -/
def searchDirectory : Location := ["usr", "bin"]

def temporaryDirectory : Location := ["tmp"]

def absolute (location : Location) : String := "/" ++ "/".intercalate location

/-- The end of the name of the machine's one directory for temporary use. -/
def temporarySuffix : String := "Rk7QzN"

/-- A machine with nothing on it but the directories that every machine has. -/
def bare (workingDirectory : Location) : Machine :=
  { files := [searchDirectory, temporaryDirectory, ["sys", "module"], workingDirectory].foldl
      (fun tree location => tree.place location .directory) ∅
    workingDirectory
    programs := ∅
    cpus := none
    processes := []
    signalled := []
    interrupted := false
    parallelism := 1
    environment := []
    time := 0
    platform := ⟨"Linux", "", "", "", "", ""⟩
    calls := #[]
    log := #[] }

def put (machine : Machine) (path : String) (entry : FileEntry) : Machine :=
  { machine with files := machine.files.lay machine.workingDirectory path entry }

/-- Removes what a path names, programs included. -/
def remove (machine : Machine) (path : String) : Machine :=
  let files := machine.files.remove machine.workingDirectory path
  { machine with
    files
    programs := machine.programs.filter fun location _ => files.contains location }

/-- What is in the file of a program, whose script is kept apart. -/
def programContent : Bytes := Text.toBytes "#!"

/-- Puts a program where a path with a slash says, or else among those that are found by name. -/
def install (machine : Machine) (program : Program) : Machine :=
  let path :=
    if program.name.toList.contains '/' then program.name
    else Path.join (absolute searchDirectory) program.name
  let machine := machine.put path (.file programContent)
  match machine.files.arrive .look machine.workingDirectory path with
  | .ok (.file location _) =>
    { machine with programs := machine.programs.insert location program }
  | _ => machine

/-- The regular files below a location that are not programs. -/
def filesBelow (machine : Machine) (location : Location) : List (Location × Bytes) :=
  (machine.files.below location).filterMap fun (place, entry) => match entry with
    | .file content =>
      if machine.programs.contains (location ++ place) then none else some (place, content)
    | .directory | .link _ => none

def switchText? (machine : Machine) (directory : Location) (cpu : Nat) : Option Bytes :=
  (machine.files.read directory ("cpu" ++ Number.decimal cpu ++ "/online")).toOption

/-- Whether a CPU is online now, by its switch or by how it was at first. -/
def isOnline (machine : Machine) (bank : CpuBank) (cpu : Nat) : Bool :=
  match machine.switchText? bank.directory cpu with
  | some content => content = Text.toBytes "1"
  | none => bank.online.contains cpu

def allCpus (bank : CpuBank) : List Nat := (bank.online.insertMany bank.offline.toList).toList

/-- The list of the CPUs that are online, or else of those that are not. -/
def listing (machine : Machine) (bank : CpuBank) (online : Bool) : Bytes :=
  let members := (allCpus bank).filter fun cpu => machine.isOnline bank cpu == online
  Text.toBytes (CpuListing.render (Std.TreeSet.ofList members compare))

def directoryAt? (machine : Machine) (path : String) : Option Location :=
  match machine.files.arrive .look machine.workingDirectory path with
  | .ok (.directory location) => some location
  | _ => none

/-- What a machine with CPUs is to look like at first. -/
structure CpuLayout where
  /-- The texts of the two lists, of which either may be missing. -/
  online : Option String
  offline : Option String
  /-- CPUs without a switch. -/
  missing : List Nat
  /-- Whether the lists follow the switches. If not, they never change by themselves. -/
  live : Bool

/-- The text of a switch that nothing was written to, on a machine where it has no meaning. -/
def untouched : String := "-"

def CpuLayout.listed (text : Option String) : CpuSet := (text.bind CpuListing.parse?).getD ∅

/-- One list with the switches of its CPUs. -/
def layList (machine : Machine) (directory name : String) (missing : List Nat) (switch : String)
    (text : Option String) : Machine :=
  match text with
  | none => machine
  | some content =>
    let cpus := (CpuLayout.listed text).toList.filter fun cpu => !missing.contains cpu
    cpus.foldl
      (fun machine cpu =>
        machine.put (Path.join directory ("cpu" ++ Number.decimal cpu ++ "/online"))
          (.file (Text.toBytes switch)))
      (machine.put (Path.join directory name) (.file (Text.toBytes content)))

/-- Lays out CPUs in a directory of their own. -/
def layCpus (machine : Machine) (directory : String) (layout : CpuLayout) : Machine :=
  let switch (text : String) := if layout.live then text else untouched
  let offline := (machine.put directory .directory).layList directory "offline" layout.missing
    (switch "0") layout.offline
  let both := offline.layList directory "online" layout.missing (switch "1") layout.online
  let bank (location : Location) : CpuBank :=
    ⟨location, CpuLayout.listed layout.online, CpuLayout.listed layout.offline⟩
  { both with cpus := if layout.live then (both.directoryAt? directory).map bank else none }

def switchTexts (machine : Machine) (directory : String) : List (Nat × Bytes) :=
  match machine.directoryAt? directory with
  | none => []
  | some location =>
    let cpus := (machine.files.below location).filterMap fun (place, _) => match place with
      | [name] => if name.startsWith "cpu" then CpuListing.number? (name.toList.drop 3) else none
      | _ => none
    (Std.TreeSet.ofList cpus compare).toList.filterMap fun cpu =>
      (machine.switchText? location cpu).map fun content => (cpu, content)

def readFile (machine : Machine) (path : String) : Except IoFailure Bytes := do
  match ← machine.files.arrive .look machine.workingDirectory path, machine.cpus with
  | .file location content, some bank =>
    if location = bank.directory ++ ["online"] then .ok (machine.listing bank true)
    else if location = bank.directory ++ ["offline"] then .ok (machine.listing bank false)
    else .ok content
  | .file _ content, none => .ok content
  | .directory _, _ => .error .isADirectory
  | .vacant _, _ | .link .., _ => .error .notFound

def argumentLimit : Nat := 131072

/-- The program that a name or path starts. -/
def find (machine : Machine) (program : String) : Except IoFailure (Location × Program) := do
  if program.isEmpty then .error .notFound
  let path :=
    if program.toList.contains '/' then program
    else Path.join (absolute searchDirectory) program
  match ← machine.files.arrive .look machine.workingDirectory path with
  | .file location _ => match machine.programs[location]? with
    | some found => if found.executable then .ok (location, found) else .error .permissionDenied
    | none => .error .permissionDenied
  | .directory _ => .error .permissionDenied
  | .vacant _ | .link .. => .error .notFound

/-- The program of a run that can be started at all. -/
def startable (machine : Machine) (program : String) (arguments : List String) :
    Except IoFailure (Location × Program) :=
  if (program :: arguments).any fun text => text.toList.contains '\x00' then .error .nulInArgument
  else if arguments.any fun argument => argumentLimit ≤ FileTree.byteLength argument then
    .error .argumentsTooLong
  else machine.find program

def makeDirectories (machine : Machine) (path : String) : Machine × Except IoFailure Unit :=
  let (files, outcome) := machine.files.makeDirectories machine.workingDirectory path
  ({ machine with files }, outcome)

def writeFile (machine : Machine) (path : String) (content : Bytes) :
    Machine × Except IoFailure Unit :=
  match machine.files.write machine.workingDirectory path content with
  | .ok files => ({ machine with files }, .ok ())
  | .error failure => (machine, .error failure)

def removeDirectory (machine : Machine) (path : String) : Machine :=
  match machine.files.arrive .entry machine.workingDirectory path with
  | .ok (.directory location) =>
    if (machine.files.below location).isEmpty then
      { machine with files := machine.files.removeBelow location }
    else machine
  | _ => machine

/-- A directory with metadata that is not empty. -/
def makeTrace (machine : Machine) (path : String) : Machine :=
  ((machine.makeDirectories path).1.writeFile (Path.join path Trace.metadataName)
    (Text.toBytes "metadata")).1

def perform (arguments : List String) (machine : Machine) : Effect → Machine
  | .makeDirectories path => (machine.makeDirectories path).1
  | .removeDirectory path => machine.removeDirectory path
  | .makeTrace => match arguments.getLast? with
    | some path => machine.makeTrace path
    | none => machine
  | .interrupt => { machine with interrupted := true }

/-- Runs a program to its end. A run that cannot be started is not recorded. -/
def run (machine : Machine) (program : String) (arguments : List String) :
    Machine × Except IoFailure Host.Output :=
  match machine.startable program arguments with
  | .error failure => (machine, .error failure)
  | .ok (location, found) =>
    let (rule, script) := found.script.follow arguments
    let machine := { machine with
      programs := machine.programs.insert location { found with script }
      calls := machine.calls.push (.program found.name arguments) }
    (rule.effects.foldl (perform arguments) machine,
      .ok ⟨rule.status, printed rule.stdout, printed rule.stderr⟩)

def makeTemporary (machine : Machine) (label : String) : Machine × Except IoFailure String :=
  let location := temporaryDirectory ++ [label ++ temporarySuffix]
  ({ machine with files := machine.files.place location .directory }, .ok (absolute location))

def removeTree (machine : Machine) (path : String) : Machine :=
  match machine.files.arrive .entry machine.workingDirectory path with
  | .ok (.directory location) =>
    { machine with files := machine.files.removeBelow location }
  | _ => machine

def terminate (machine : Machine) (process : Int) : Machine × Except IoFailure Unit :=
  if machine.processes.contains process then
    ({ machine with signalled := machine.signalled ++ [process] }, .ok ())
  else (machine, .error .noSuchProcess)

def answer : (request : Host.Request) → StateM Machine (Host.Answer request)
  | .run program arguments => fun machine => (machine.run program arguments).swap
  | .readFile path => fun machine => (machine.readFile path, machine)
  | .writeFile path content => fun machine => (machine.writeFile path content).swap
  | .makeDirectories path => fun machine => (machine.makeDirectories path).swap
  | .pathExists path => fun machine =>
    (machine.files.exists? machine.workingDirectory path, machine)
  | .isDirectory path => fun machine =>
    (machine.files.isDirectory machine.workingDirectory path, machine)
  | .walk path => fun machine => (machine.files.walk machine.workingDirectory path, machine)
  | .temporaryDirectory label => fun machine => (machine.makeTemporary label).swap
  | .removeTree path => fun machine => ((), machine.removeTree path)
  | .terminate process => fun machine => (machine.terminate process).swap
  | .interrupted => fun machine => (machine.interrupted, machine)
  | .parallelism => fun machine => (machine.parallelism, machine)
  | .entropy => fun machine => (0, machine)
  | .environment name => fun machine => (machine.environment.lookup name, machine)
  | .time => fun machine => (machine.time, machine)
  | .platform => fun machine => (machine.platform, machine)
  | .log level message => fun machine =>
    ((), { machine with log := machine.log.push (level, message) })

def converse (dialogue : Dialogue host α) : StateM Machine α :=
  dialogue.interpret (m := StateM Machine) answer

end Machine
end TraceOverhead
