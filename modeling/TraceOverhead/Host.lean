import TraceOverhead.Dialogue
import TraceOverhead.Error
import TraceOverhead.File.Tree
import TraceOverhead.Platform
import TraceOverhead.Text.Blank
/-!
What the tool asks of the operating system: to run programs, to read and write files, to signal a
process, to say whether an interrupt has arrived, to describe itself, and to take a line for the
log.
-/

namespace TraceOverhead

namespace Host

/-- What a program that ran to its end left behind. -/
structure Output where
  status : ExitStatus
  stdout : Bytes
  stderr : Bytes

inductive Level where
  | info
  | warn
  | error
  deriving DecidableEq, Repr

def Level.name : Level → String
  | .info => "INFO"
  | .warn => "WARN"
  | .error => "ERROR"

inductive Request where
  | run (program : String) (arguments : List String)
  | readFile (path : String)
  | writeFile (path : String) (content : Bytes)
  | makeDirectories (path : String)
  | pathExists (path : String)
  | isDirectory (path : String)
  /-- What a walk through a directory finds: each directory before what lies in it, links not
  followed, and nothing below a directory that cannot be opened. -/
  | walk (path : String)
  /-- A new directory of its own, whose name begins with the label. -/
  | temporaryDirectory (label : String)
  /-- Removes a directory with all that is in it. -/
  | removeTree (path : String)
  /-- Asks the process to end. Zero and negative numbers stand for whole groups of processes. -/
  | terminate (process : Int)
  | interrupted
  /-- How many threads can run at once. -/
  | parallelism
  | entropy
  | environment (name : String)
  /-- Seconds since the beginning of 1970. -/
  | time
  | platform
  | log (level : Level) (message : String)
  deriving DecidableEq

abbrev Answer : Request → Type
  | .run .. => Except IoFailure Output
  | .readFile _ => Except IoFailure Bytes
  | .writeFile .. => Except IoFailure Unit
  | .makeDirectories _ => Except IoFailure Unit
  | .pathExists _ => Bool
  | .isDirectory _ => Bool
  | .walk _ => List (Location × Finding)
  | .temporaryDirectory _ => Except IoFailure String
  | .removeTree _ => Unit
  | .terminate _ => Except IoFailure Unit
  | .interrupted => Bool
  | .parallelism => Nat
  | .entropy => UInt64
  | .environment _ => Option String
  | .time => Nat
  | .platform => Platform
  | .log .. => Unit

end Host

def host : Interface := ⟨Host.Request, Host.Answer⟩

/-- A dialogue that may end in an error. -/
abbrev Attempt (interface : Interface) (α : Type) := ExceptT Error (Dialogue interface) α

namespace Attempt

variable {interface : Interface}

/-- How an attempt ends, as the result of a dialogue that cannot fail. -/
def outcome (attempt : Attempt interface α) : Dialogue interface (Except Error α) := attempt.run

/-- How an attempt ends, within another attempt, which goes on in either case. -/
def caught (attempt : Attempt interface α) : Attempt interface (Except Error α) :=
  ExceptT.lift attempt.outcome

end Attempt

namespace Host

def ask (request : Request) : Dialogue host (Answer request) := Dialogue.ask request Dialogue.done

def fallible (answer : Dialogue host (Except IoFailure α)) : Attempt host α :=
  ExceptT.mk do return (← answer).mapError Error.io

def readFile (path : String) : Attempt host Bytes := fallible (ask (.readFile path))

def readText (path : String) : Attempt host String := do
  match Text.ofBytes? (← readFile path) with
  | some text => return text
  | none => throw (.io .notUtf8)

def writeText (path content : String) : Attempt host Unit :=
  fallible (ask (.writeFile path (Text.toBytes content)))

def writeTexts : List (String × String) → Attempt host Unit
  | [] => pure ()
  | (path, content) :: files => do
    writeText path content
    writeTexts files

def makeDirectories (path : String) : Attempt host Unit := fallible (ask (.makeDirectories path))

def log (level : Level) (message : String) : Dialogue host Unit := ask (.log level message)

def info (message : String) : Dialogue host Unit := log .info message

def warn (message : String) : Dialogue host Unit := log .warn message

def programText (program : String) : String :=
  if program.toList.contains '\x00' then "<string-with-nul>" else program

/-- The standard output of a program that has to succeed. -/
def output (program : String) (arguments : List String) : Attempt host Bytes := do
  match ← ask (.run program arguments) with
  | .error cause => throw (.spawn (programText program) cause)
  | .ok output =>
    if output.status.isSuccess then return output.stdout
    else throw (.commandFailed (programText program) output.status
      (Text.trim (Text.ofBytesLossy output.stderr)))

end Host
end TraceOverhead
