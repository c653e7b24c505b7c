import TraceOverhead.Host
import TraceOverhead.Random.ChaCha
import TraceOverhead.Session.Config
/-!
The scratch space of a run: a directory for traces and the daemon's pidfile, and the name that all
sessions of the run share. Every session records into a directory of its own, numbered from zero.
-/

namespace TraceOverhead

structure Workspace where
  directory : String
  sessionName : String
  deriving DecidableEq, Repr

namespace Workspace

/-- A session name of fixed length, made of the first draws of a stream. -/
def nameOf (first second : UInt32) (third : UInt64) : String :=
  String.ofList ("bench-".toList ++ Number.hexadecimal 8 first.toNat ++
    '-' :: Number.hexadecimal 4 second.toNat ++ '-' :: Number.hexadecimal 12 third.toNat)

def nameOfSeed (seed : UInt64) : String :=
  let (first, stream) := (Random.Stream.ofSeed seed).word
  let (second, stream) := stream.word
  nameOf first second stream.doubleWord.1

/-- A new scratch space. The seed zero stands for one that nobody knows. -/
def make (seed : UInt64) : Attempt host Workspace := do
  let directory ← Host.fallible (Host.ask (.temporaryDirectory "lttng-ust-bench-"))
  let seed ← if seed = 0 then Host.ask .entropy else pure seed
  return ⟨directory, nameOfSeed seed⟩

def pidfile (workspace : Workspace) : String := Path.join workspace.directory "lttng-sessiond.pid"

def tracePath (workspace : Workspace) (number : Nat) : String :=
  Path.join (Path.join workspace.directory workspace.sessionName) (Number.decimal number)

def sessionConfig (workspace : Workspace) (number : Nat) (domain : Domain) (events : List String)
    (snapshot : Bool) : SessionConfig :=
  { name := workspace.sessionName
    tracePath := workspace.tracePath number
    domain
    channel := SessionConfig.standardChannel
    events
    snapshot }

end Workspace
end TraceOverhead
