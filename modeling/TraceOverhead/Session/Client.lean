import TraceOverhead.Instruments
import TraceOverhead.Session.Daemon
import TraceOverhead.Trace
/-!
Tracing control by way of the command-line client: every call is one command or, for the creation of
a session, a sequence of them that leaves nothing behind if it fails.
-/

namespace TraceOverhead

structure Client where
  program : String
  daemon : Daemon
  deriving DecidableEq, Repr

namespace Client

def domainFlag : Domain → String
  | .user => "--userspace"
  | .kernel => "--kernel"

/-- A failing command is reported by what the client says, or by its exit status if it says
nothing. -/
def commandError (operation : Operation) : Error → Error
  | .commandFailed _ status stderr =>
    .tracing operation (if stderr.isEmpty then status.describe else stderr)
  | failure => failure

def command (client : Client) (operation : Operation) (arguments : List String) :
    Attempt host Unit := ExceptT.mk do
  match ← (Host.output client.program (operation.name :: arguments)).outcome with
  | .ok _ => pure (.ok ())
  | .error failure => pure (.error (commandError operation failure))

def destroy (client : Client) (name : String) : Attempt host Unit :=
  client.command .destroy [name]

def createArguments (config : SessionConfig) : List String :=
  [config.name] ++ (if config.snapshot then ["--snapshot"] else []) ++
    ["--output", config.tracePath]

def enableChannel (client : Client) (config : SessionConfig) : Attempt host Unit :=
  client.command .enableChannel
    ["--session", config.name, domainFlag config.domain, config.channel]

def enableEvent (client : Client) (config : SessionConfig) (event : String) : Attempt host Unit :=
  client.command .enableEvent
    ["--session", config.name, domainFlag config.domain, "--channel", config.channel,
     "--tracepoint", event]

def enableEvents (client : Client) (config : SessionConfig) : List String → Attempt host Unit
  | [] => pure ()
  | event :: events => do
    client.enableEvent config event
    client.enableEvents config events

def configure (client : Client) (config : SessionConfig) : Attempt host Unit := do
  client.enableChannel config
  client.enableEvents config config.events

/-- Creates a session in the place of any other of its name. If it cannot be configured it is
destroyed again, and the failure that is reported is the one of the configuration. -/
def createSession (client : Client) (config : SessionConfig) : Attempt host Unit := do
  discard (client.destroy config.name).caught
  client.command .create (createArguments config)
  match ← (client.configure config).caught with
  | .ok () => pure ()
  | .error failure => do
    match ← (client.destroy config.name).caught with
    | .ok () => pure ()
    | .error second =>
      Host.warn ("failed to destroy half-configured session " ++ config.name ++ ": " ++
        second.message)
    throw failure

/-- Answers a call; `launched` is what the daemon remembers. -/
def call (client : Client) (launched : Bool) :
    ControllerCall → Dialogue host (Bool × Except Error Unit)
  | .create config => do
    match ← client.daemon.ensureRunning launched with
    | (launched, .error failure) => pure (launched, .error failure)
    | (launched, .ok ()) => do
      let outcome ← (client.createSession config).outcome
      pure (launched, outcome)
  | .start name => do
    let outcome ← (client.command .start [name]).outcome
    pure (launched, outcome)
  | .stop name => do
    let outcome ← (client.command .stop [name]).outcome
    pure (launched, outcome)
  | .destroy name => do
    let outcome ← (client.destroy name).outcome
    pure (launched, outcome)

/-- Answers all requests of a measurement on the operating system alone, with the client as the
controller and a trace printer as the reader. -/
def answer (client : Client) (printer : String) :
    (request : Instruments.Request) → StateT Bool (Dialogue host) (Instruments.Answer request)
  | .controller call => fun launched => do
    let (launched, outcome) ← client.call launched call
    pure (outcome, launched)
  | .releaseController => fun launched => do
    let launched ← client.daemon.release launched
    pure ((), launched)
  | .countEvents path => fun launched => do
    let count ← (Trace.countEvents printer path).outcome
    pure (count, launched)
  | .host request => fun launched => do
    let reply ← Host.ask request
    pure (reply, launched)

def run (client : Client) (printer : String) (dialogue : Dialogue instruments α) (launched : Bool) :
    Dialogue host (α × Bool) :=
  (dialogue.interpret (m := StateT Bool (Dialogue host)) (client.answer printer)).run launched

end Client
end TraceOverhead
