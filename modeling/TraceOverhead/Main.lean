import TraceOverhead.CommandLine.Generate
import TraceOverhead.CommandLine.Measure
/-!
The program. Its first argument chooses the command: `tpgen` writes tracepoints and `measure`
measures. Files are the real ones. Starting and signalling processes is left to whoever embeds the
commands in a layer that may do so: here such a request is refused.
-/

namespace TraceOverhead.Program

def failureOf : IO.Error → IoFailure
  | .noFileOrDirectory .. | .noSuchThing .. => .notFound
  | .alreadyExists .. => .alreadyExists
  | .inappropriateType .. => .notADirectory
  | .resourceExhausted .. => .nameTooLong
  | _ => .permissionDenied

def attempt (action : IO α) : IO (Except IoFailure α) := do
  match ← action.toBaseIO with
  | .ok result => return .ok result
  | .error failure => return .error (failureOf failure)

def succeeds (action : IO α) : IO Bool := return (← attempt action).isOk

def random : IO UInt64 := do
  return (← IO.getRandomBytes 8).data.foldl (fun word byte => word * 256 + byte.toUInt64) 0

/-- Answers a request as far as this layer goes. -/
def answer : (request : Host.Request) → IO (Host.Answer request)
  | .readFile path => attempt do return (← IO.FS.readBinFile path).toList
  | .writeFile path content => attempt (IO.FS.writeBinFile path ⟨content.toArray⟩)
  | .makeDirectories path => attempt (IO.FS.createDirAll path)
  | .pathExists path => succeeds (IO.FS.realPath path)
  | .isDirectory _ => return false
  | .entropy => random
  | .environment name => IO.getEnv name
  | .log level message => IO.eprintln (level.name ++ " " ++ message)
  | .run .. | .temporaryDirectory _ | .terminate _ => return .error .permissionDenied
  | .walk _ => return [([], .directory (some .permissionDenied))]
  | .removeTree _ => return ()
  | .interrupted => return false
  | .parallelism => return 1
  | .time => return 0
  | .platform => return ⟨"Linux", "", "", "", "", ""⟩

def finish (command : Dialogue host CommandLine.Ending) : IO UInt32 := do
  let ending ← command.interpret (m := IO) answer
  IO.eprint ending.notice
  return ending.status.toUInt32

end TraceOverhead.Program

open TraceOverhead in
def main (words : List String) : IO UInt32 :=
  match words with
  | "tpgen" :: words => Program.finish (CommandLine.Generate.command words)
  | "measure" :: words => Program.finish (CommandLine.Measure.command words)
  | _ => do
    IO.eprintln "a command is needed: tpgen or measure"
    return 2
