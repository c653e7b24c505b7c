import TraceOverhead.Instruments
/-!
The life of a tracing session: it is created and started, and later stopped and destroyed. If a step
fails, what was set up so far is taken down before the failure is passed on, and what goes wrong
while it is taken down is only logged.
-/

namespace TraceOverhead

inductive SessionState where
  | configured
  | active
  | stopped
  | destroyed
  deriving DecidableEq, Repr

def SessionState.name : SessionState → String
  | .configured => "Configured"
  | .active => "Active"
  | .stopped => "Stopped"
  | .destroyed => "Destroyed"

namespace Session

open Instruments

/-- Makes a call whose failure is only logged. -/
def quietly (call : ControllerCall) : Dialogue instruments Unit := do
  match ← callController call with
  | .ok () => pure ()
  | .error failure =>
    onHost (Host.warn ("failed to " ++ call.operation.name ++ " session " ++ call.sessionName ++
      ": " ++ failure.message))

/-- Takes down a session that is left in some state. -/
def release (name : String) : SessionState → Dialogue instruments Unit
  | .destroyed => pure ()
  | .active => do
    quietly (.stop name)
    quietly (.destroy name)
  | .configured | .stopped => quietly (.destroy name)

def announcement (config : SessionConfig) : String :=
  "tracing session " ++ config.name ++ " active (" ++ config.domain.name ++ ", " ++
    Number.decimal config.events.length ++ " event rule(s))"

def start (config : SessionConfig) : Dialogue instruments (Except Error Unit) := do
  match ← callController (.create config) with
  | .error failure => pure (.error failure)
  | .ok () => do
    match ← callController (.start config.name) with
    | .error failure => do
      release config.name .configured
      pure (.error failure)
    | .ok () => do
      onHost (Host.info (announcement config))
      pure (.ok ())

def finish (name : String) : Dialogue instruments (Except Error Unit) := do
  match ← callController (.stop name) with
  | .error failure => do
    release name .active
    pure (.error failure)
  | .ok () => do
    match ← callController (.destroy name) with
    | .error failure => do
      release name .stopped
      pure (.error failure)
    | .ok () => pure (.ok ())

def during {m : Type → Type} [Monad m] [MonadLiftT (Dialogue instruments) m]
    (config : SessionConfig) (body : ExceptT Error m α) : ExceptT Error m α := ExceptT.mk do
  match ← (start config : Dialogue instruments (Except Error Unit)) with
  | .error failure => pure (.error failure)
  | .ok () => do
    match ← body.run with
    | .error failure => do
      (release config.name .active : Dialogue instruments Unit)
      pure (.error failure)
    | .ok result => do
      match ← (finish config.name : Dialogue instruments (Except Error Unit)) with
      | .error failure => pure (.error failure)
      | .ok () => pure (.ok result)

end Session
end TraceOverhead
