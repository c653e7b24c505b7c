import TraceOverhead.Dialogue.Course
import TraceOverhead.Instruments
/-!
What passes between a dialogue and surroundings that answer from a state of their own. Such a
transcript is a course of the dialogue, so no statement about all courses is empty.
-/

namespace TraceOverhead

namespace Dialogue

variable {interface : Interface} {α State : Type}
  (answer : (request : interface.Request) → State → interface.Answer request × State)

def transcript : State → Dialogue interface α → List (Exchange interface) × α
  | _, .done result => ([], result)
  | state, .ask request next =>
    let reply := answer request state
    let rest := transcript reply.2 (next reply.1)
    (⟨request, reply.1⟩ :: rest.1, rest.2)

theorem course_transcript (state : State) (dialogue : Dialogue interface α) :
    Course dialogue (transcript answer state dialogue).1 (transcript answer state dialogue).2 := by
  induction dialogue generalizing state with
  | done result => exact .done result
  | ask request next induction => exact .ask _ (induction _ _)

end Dialogue

namespace Host

/-- A machine on which every program succeeds, saying `stdout`, and every file holds `content`. -/
def serve (stdout content : Bytes) : (request : Request) → Answer request
  | .run .. => .ok ⟨.exited 0, stdout, []⟩
  | .readFile _ => .ok content
  | .writeFile .. => .ok ()
  | .makeDirectories _ => .ok ()
  | .pathExists _ => true
  | .isDirectory _ => true
  | .walk _ => []
  | .temporaryDirectory label => .ok label
  | .removeTree _ => ()
  | .terminate _ => .ok ()
  | .interrupted => false
  | .parallelism => 1
  | .entropy => 0
  | .environment _ => none
  | .time => 0
  | .platform => ⟨"", "", "", "", "", ""⟩
  | .log .. => ()

end Host

/-- A machine on which it is laid down what looks show and which programs end well. -/
def Host.follow : (request : Host.Request) → List Bool → Host.Answer request × List Bool
  | .pathExists _, shown :: others => (shown, others)
  | .run .., well :: others => (.ok ⟨.exited (if well then 0 else 1), [], []⟩, others)
  | request, others => (Host.serve [] [] request, others)

/-- Surroundings in which all goes well, but for the controller, which does as it is told for as long
as it is told anything. -/
def Instruments.obey (stdout content : Bytes) : (request : Instruments.Request) →
    List (Except Error Unit) → Instruments.Answer request × List (Except Error Unit)
  | .controller _, [] => (.ok (), [])
  | .controller _, outcome :: outcomes => (outcome, outcomes)
  | .releaseController, outcomes => ((), outcomes)
  | .countEvents _, outcomes => (.ok 0, outcomes)
  | .host request, outcomes => (Host.serve stdout content request, outcomes)

/-- Surroundings in which an interrupt arrives after a number of other requests. -/
def Instruments.interrupt (reply : (request : Instruments.Request) → Instruments.Answer request) :
    (request : Instruments.Request) → Nat → Instruments.Answer request × Nat
  | .host .interrupted, remaining => (remaining == 0, remaining)
  | request, remaining => (reply request, remaining - 1)

/-- A machine whose files hold one content after the other. -/
def Host.recite : (request : Host.Request) → List Bytes → Host.Answer request × List Bytes
  | .readFile _, content :: contents => (.ok content, contents)
  | request, contents => (Host.serve [] [] request, contents)

def Instruments.recite : (request : Instruments.Request) → List Bytes →
    Instruments.Answer request × List Bytes
  | .controller _, contents => (.ok (), contents)
  | .releaseController, contents => ((), contents)
  | .countEvents _, contents => (.ok 0, contents)
  | .host request, contents => Host.recite request contents

end TraceOverhead
