import TraceOverhead.Host
/-!
The session daemon that the tracing client talks to. If none is alive one is launched, and only a
daemon that was launched here is ended again, by a signal to the process that its pidfile names.
Whether one was launched and not yet ended is the one thing to remember.
-/

namespace TraceOverhead

structure Daemon where
  client : String
  program : String
  pidfile : String
  deriving DecidableEq, Repr

namespace Daemon

/-- Whether a text has another one in it. -/
def mentions (part : List Char) : List Char → Bool
  | [] => part.isEmpty
  | character :: rest => part.isPrefixOf (character :: rest) || mentions part rest

def absence : List Char := "No session daemon".toList

/-- Asks by way of the client, which says so if it finds no daemon. -/
def isAlive (daemon : Daemon) : Dialogue host Bool := do
  match ← Host.ask (.run daemon.client ["list"]) with
  | .error _ => pure false
  | .ok output =>
    pure (output.status.isSuccess || !mentions absence (Text.ofBytesLossy output.stderr).toList)

def launch (daemon : Daemon) : Attempt host Unit := do
  Host.info ("starting " ++ daemon.program)
  discard (Host.output daemon.program ["--daemonize", "--quiet", "--pidfile", daemon.pidfile])

def ensureRunning (daemon : Daemon) (launched : Bool) :
    Dialogue host (Bool × Except Error Unit) := do
  if ← daemon.isAlive then pure (launched, .ok ())
  else
    match ← daemon.launch.outcome with
    | .error failure => pure (launched, .error failure)
    | .ok () => pure (true, .ok ())

def largestPid : Nat := UInt32.size / 2 - 1

def readPid (text : String) : Except Error Int :=
  match Number.readInteger largestPid (Text.trim text).toList with
  | .ok pid => .ok pid
  | .error fault => .error (.io (.badInteger fault))

def signal (daemon : Daemon) : Attempt host Unit := do
  let text ← Host.readText daemon.pidfile
  let pid ← (readPid text : Except Error Int)
  Host.fallible (Host.ask (.terminate pid))
  Host.info ("terminated lttng-sessiond [" ++ Number.signedDecimal pid ++ "]")

/-- Ends the daemon if it was launched here; it counts as ended even if that fails. -/
def terminate (daemon : Daemon) (launched : Bool) : Dialogue host (Bool × Except Error Unit) := do
  if launched then
    let outcome ← daemon.signal.outcome
    pure (false, outcome)
  else pure (false, .ok ())

def release (daemon : Daemon) (launched : Bool) : Dialogue host Bool := do
  match ← daemon.terminate launched with
  | (launched, .ok ()) => pure launched
  | (launched, .error failure) => do
    Host.warn ("failed to terminate lttng-sessiond: " ++ failure.message)
    pure launched

end Daemon
end TraceOverhead
