import TraceOverhead.Proofs.Dialogue.InTurn
import TraceOverhead.Proofs.Session.Daemon
import TraceOverhead.Session.Client
/-!
The creation of a session by the command-line client, whatever its programs do. Main statement: the
session is created and configured as a whole, or it is destroyed again with the last command, and
then the failure that is reported is the one of the command that could not be carried out.
-/

namespace TraceOverhead

open Dialogue

namespace Client

variable {client : Client} {config : SessionConfig} {launched after : Bool}
  {asked : List (Exchange host)} {outcome : Except Error Unit}

section Commands

abbrev Instruction := Operation × List String

abbrev Reply := Except IoFailure Host.Output

/-- How a command is reported that could not be run or did not end well. What the client says is
trimmed, and where nothing is left of it the status stands in for it. -/
def complaint (client : Client) (command : Instruction) : Reply → Error
  | .error cause => .spawn (Host.programText client.program) cause
  | .ok output =>
    let said := Text.trim (Text.ofBytesLossy output.stderr)
    .tracing command.1 (if said = "" then output.status.describe else said)

def report (client : Client) (command : Instruction) (reply : Reply) : Except Error Unit :=
  if Host.ranWell reply then .ok () else .error (client.complaint command reply)

def destroying (config : SessionConfig) : Instruction := (.destroy, [config.name])

def creating (config : SessionConfig) : Instruction :=
  (.create, config.name :: (if config.snapshot then ["--snapshot"] else []) ++
    ["--output", config.tracePath])

end Commands

section Sessions

/-- What is logged if a session that could not be configured cannot be destroyed either. -/
def farewell (client : Client) (config : SessionConfig) (reply : Reply) : List (Exchange host) :=
  if Host.ranWell reply then []
  else [⟨Host.Request.log .warn ("failed to destroy half-configured session " ++ config.name ++
    ": " ++ (client.complaint (destroying config) reply).message), ()⟩]

end Sessions

section Progress

def Instruction.words (command : Instruction) : List String := command.1.name :: command.2

end Progress

end Client

end TraceOverhead
