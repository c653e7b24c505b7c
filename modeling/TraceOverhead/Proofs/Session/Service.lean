import TraceOverhead.Proofs.Session.Daemon
import TraceOverhead.Session.Client
/-!
A measurement that is served by the command-line client. Each of its requests becomes a stretch of
requests to the operating system, and the client remembers from one to the next whether it has
launched the daemon. Main statements: what was asked of the operating system consists of such
stretches, and the daemon counts as launched exactly if one of them has launched it.
-/

namespace TraceOverhead

open Dialogue

/-- A request of a measurement with its answer, and what the client asked for it. -/
structure Service where
  exchange : Exchange instruments
  asked : List (Exchange host)

namespace Service

def exchanges (services : List Service) : List (Exchange instruments) := services.map exchange

def requests (services : List Service) : List (Exchange host) := services.flatMap asked

end Service

namespace Client

variable {client : Client} {printer : String} {launched middle after : Bool} {α β : Type}

section Requests

def Command (client : Client) : Host.Request → Prop
  | .run program arguments =>
    program = client.program ∧ ∃ operation : Operation, arguments.head? = some operation.name
  | .log .. => True
  | _ => False

/-- What the client asks of the operating system for each kind of request. -/
def Work (client : Client) (printer : String) : Instruments.Request → Host.Request → Prop
  | .controller _, request => client.Command request ∨ client.daemon.Work request
  | .releaseController, .readFile path => path = client.daemon.pidfile
  | .releaseController, .terminate _ | .releaseController, .log .. => True
  | .countEvents _, .run program _ => program = printer
  | .countEvents _, .isDirectory _ | .countEvents _, .walk _ => True
  | .host request, asked => asked = request
  | _, _ => False

theorem asks_command (client : Client) (operation : Operation) (arguments : List String) :
    Asks client.Command (client.command operation arguments).outcome := by
  apply Dialogue.asks_bind (Host.asks_output ⟨rfl, operation, rfl⟩)
  intro outcome
  cases outcome <;> trivial

theorem asks_enable_events (client : Client) (config : SessionConfig) (events : List String) :
    Asks client.Command (client.enableEvents config events).outcome := by
  induction events with
  | nil => trivial
  | cons event events induction =>
      exact Attempt.asks_bind (asks_command client _ _) fun _ => induction

theorem asks_configure (client : Client) (config : SessionConfig) :
    Asks client.Command (client.configure config).outcome :=
  Attempt.asks_bind (asks_command client _ _) fun _ => asks_enable_events client config _

theorem asks_create_session (client : Client) (config : SessionConfig) :
    Asks client.Command (client.createSession config).outcome := by
  have destroyed : Asks client.Command (client.destroy config.name).outcome :=
    asks_command client _ _
  apply Attempt.asks_bind
  · apply Dialogue.asks_bind (Attempt.asks_lift destroyed)
    intro outcome
    cases outcome <;> trivial
  · intro _
    apply Attempt.asks_bind (asks_command client _ _)
    intro _
    apply Attempt.asks_bind (Attempt.asks_lift (asks_configure client config))
    intro configured
    cases configured with
    | ok => trivial
    | error failure =>
        apply Attempt.asks_bind (Attempt.asks_lift destroyed)
        intro second
        cases second with
        | ok => trivial
        | error second =>
            exact Attempt.asks_bind (Attempt.asks_lift (Host.asks_ask trivial)) fun _ => trivial

theorem asks_call (client : Client) (launched : Bool) (call : ControllerCall) :
    Asks (fun request => client.Command request ∨ client.daemon.Work request)
      (client.call launched call) := by
  have commanded : ∀ operation arguments, Asks
      (fun request => client.Command request ∨ client.daemon.Work request)
      (client.command operation arguments).outcome :=
    fun operation arguments => asks_mono (asks_command client operation arguments) fun _ => .inl
  cases call with
  | create config =>
      apply Dialogue.asks_bind
        (asks_mono (Daemon.asks_ensure_running client.daemon launched) fun _ => .inr)
      intro reached
      obtain ⟨launched, ended⟩ := reached
      cases ended with
      | error failure => trivial
      | ok =>
          apply Dialogue.asks_bind (asks_mono (asks_create_session client config) fun _ => .inl)
          intro _
          trivial
  | start name | stop name | destroy name =>
      exact Dialogue.asks_bind (commanded _ _) fun _ => trivial

theorem asks_signal (client : Client) (printer : String) :
    Asks (client.Work printer .releaseController) client.daemon.signal.outcome := by
  have reading : Asks (client.Work printer .releaseController)
      (Host.readText client.daemon.pidfile).outcome := Host.asks_read_text rfl
  have ending : ∀ pid, Asks (client.Work printer .releaseController)
      (Host.fallible (Host.ask (.terminate pid))).outcome :=
    fun pid => ⟨trivial, fun _ => trivial⟩
  apply Attempt.asks_bind reading
  intro text
  -- What the text reads does not matter, so it is not to be read here.
  generalize Daemon.readPid text = read
  apply Attempt.asks_bind
  · trivial
  · exact fun pid =>
      Attempt.asks_bind (ending pid) fun _ => Attempt.asks_lift (Host.asks_ask trivial)

theorem asks_release (client : Client) (printer : String) (launched : Bool) :
    Asks (client.Work printer .releaseController) (client.daemon.release launched) := by
  apply Dialogue.asks_bind
  · rw [Daemon.terminate]
    split
    · exact Dialogue.asks_bind (asks_signal client printer) fun _ => trivial
    · trivial
  · intro reached
    obtain ⟨launched, ended⟩ := reached
    cases ended with
    | ok => trivial
    | error failure => exact Dialogue.asks_bind (Host.asks_ask trivial) fun _ => trivial

end Requests

section Launches

variable {asked : List (Exchange host)} {services : List Service}

end Launches

end Client

end TraceOverhead
