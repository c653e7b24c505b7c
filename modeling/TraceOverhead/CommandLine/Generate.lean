import TraceOverhead.CommandLine.Grammar
import TraceOverhead.Tracepoint.Files
import TraceOverhead.Tracepoint.Random
/-!
The command that writes random tracepoints, as many as its operand says, into a directory.
-/

namespace TraceOverhead.CommandLine.Generate

structure Settings where
  count : Nat
  seed : UInt64
  directory : String
  deriving DecidableEq, Repr

def standard : Settings := ⟨0, Tracepoint.standardSeed, "."⟩

def grammar : Grammar Settings :=
  { flags :=
      [⟨"seed", none, .valued fun settings value =>
          (word? value).map fun seed => { settings with seed }⟩,
       ⟨"out-dir", some 'o', .valued fun settings value =>
          (path? value).map fun directory => { settings with directory }⟩,
       Flag.help]
    operands := [fun settings value =>
      (natural? value).map fun count => { settings with count }] }

def notice (settings : Settings) : String :=
  "Wrote " ++ Number.decimal settings.count ++ " tracepoint definitions and " ++
    Tracepoint.headerName ++ " to " ++ settings.directory ++ "\n"

def run (settings : Settings) : Dialogue host Ending := do
  let tracepoints := Tracepoint.generate settings.count settings.seed
  match ← (Tracepoint.writeAll settings.directory tracepoints).outcome with
  | .ok () => pure ⟨0, notice settings⟩
  | .error failure => do
    Host.log .error ("writing to " ++ settings.directory ++ ": " ++ failure.message)
    pure ⟨1, ""⟩

def command (words : List String) : Dialogue host Ending :=
  match grammar.read standard words with
  | .ok settings => run settings
  | .error .help => pure ⟨0, grammar.usage "tpgen"⟩
  | .error (.misuse misuse) => pure ⟨1, misuse.message ++ "\n"⟩

end TraceOverhead.CommandLine.Generate
