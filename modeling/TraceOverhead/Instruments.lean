import TraceOverhead.Host
import TraceOverhead.Session.Config
/-!
What a measurement works with: a tracing controller, which sets up, starts, stops and removes
sessions, a reader that counts the events of a recorded trace, and the operating system.
-/

namespace TraceOverhead

inductive ControllerCall where
  /-- Replaces any session of the name and enables the channel and the events. -/
  | create (config : SessionConfig)
  | start (name : String)
  /-- Stops recording; what was recorded is complete by then. -/
  | stop (name : String)
  | destroy (name : String)
  deriving DecidableEq

def ControllerCall.operation : ControllerCall → Operation
  | .create _ => .create
  | .start _ => .start
  | .stop _ => .stop
  | .destroy _ => .destroy

def ControllerCall.sessionName : ControllerCall → String
  | .create config => config.name
  | .start name | .stop name | .destroy name => name

namespace Instruments

inductive Request where
  | controller (call : ControllerCall)
  /-- The controller is not needed any more. -/
  | releaseController
  | countEvents (tracePath : String)
  | host (request : Host.Request)
  deriving DecidableEq

abbrev Answer : Request → Type
  | .controller _ => Except Error Unit
  | .releaseController => Unit
  | .countEvents _ => Except Error UInt64
  | .host request => Host.Answer request

end Instruments

def instruments : Interface := ⟨Instruments.Request, Instruments.Answer⟩

namespace Instruments

def ask (request : Request) : Dialogue instruments (Answer request) :=
  Dialogue.ask request Dialogue.done

def callController (call : ControllerCall) : Dialogue instruments (Except Error Unit) :=
  ask (.controller call)

def countEvents (tracePath : String) : Attempt instruments UInt64 :=
  ExceptT.mk (ask (.countEvents tracePath))

/-- A dialogue with the operating system alone. -/
def onHost (dialogue : Dialogue host α) : Dialogue instruments α :=
  dialogue.interpret fun request => ask (.host request)

def attemptOnHost (attempt : Attempt host α) : Attempt instruments α :=
  ExceptT.mk (onHost attempt.outcome)

end Instruments
end TraceOverhead
