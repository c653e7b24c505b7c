import TraceOverhead.Proofs.Campaign.Run
/-!
What a session says to its controller. Whatever the controller answers, the calls of one session
make up one block of five possible shapes, each of which ends with an attempt to destroy the
session if it was ever created. The phases of a session say the same call by call: what may be
asked of the controller next, given what it has answered so far.
-/

namespace TraceOverhead

open Dialogue

/-- A call of the controller and how it ended. -/
structure ControlStep where
  call : ControllerCall
  outcome : Except Error Unit

def controlStep? : Exchange instruments → Option ControlStep
  | ⟨Instruments.Request.controller call, outcome⟩ => some ⟨call, outcome⟩
  | _ => none

/-- The calls among some exchanges, in order. -/
def controlSteps (exchanges : List (Exchange instruments)) : List ControlStep :=
  exchanges.filterMap controlStep?

@[simp] theorem control_steps_nil : controlSteps [] = [] := rfl

@[simp] theorem control_steps_append (first second : List (Exchange instruments)) :
    controlSteps (first ++ second) = controlSteps first ++ controlSteps second :=
  List.filterMap_append

@[simp] theorem control_steps_map_on_host (asked : List (Exchange host)) :
    controlSteps (asked.map Exchange.onHost) = [] := by
  induction asked with
  | nil => rfl
  | cons exchange rest induction => exact induction

theorem control_steps_of_course_on_host {α : Type} {dialogue : Dialogue host α}
    {exchanges : List (Exchange instruments)} {result : α}
    (course : Course (Instruments.onHost dialogue) exchanges result) :
    controlSteps exchanges = [] := by
  obtain ⟨asked, _, rfl⟩ := course_on_host_iff.1 course
  exact control_steps_map_on_host asked

/-- The calls of one session of a name, by where they went wrong. -/
inductive SessionBlock (name : String) : List ControlStep → Prop
  | refused (config : SessionConfig) (failure : Error) (named : config.name = name) :
      SessionBlock name [⟨.create config, .error failure⟩]
  | unstarted (config : SessionConfig) (failure : Error) (last : Except Error Unit)
      (named : config.name = name) :
      SessionBlock name
        [⟨.create config, .ok ()⟩, ⟨.start name, .error failure⟩, ⟨.destroy name, last⟩]
  | ended (config : SessionConfig) (stop last : Except Error Unit)
      (named : config.name = name) :
      SessionBlock name
        [⟨.create config, .ok ()⟩, ⟨.start name, .ok ()⟩, ⟨.stop name, stop⟩,
          ⟨.destroy name, last⟩]
  | stoppedTwice (config : SessionConfig) (failure : Error) (stop last : Except Error Unit)
      (named : config.name = name) :
      SessionBlock name
        [⟨.create config, .ok ()⟩, ⟨.start name, .ok ()⟩, ⟨.stop name, .error failure⟩,
          ⟨.stop name, stop⟩, ⟨.destroy name, last⟩]
  | destroyedTwice (config : SessionConfig) (failure : Error) (last : Except Error Unit)
      (named : config.name = name) :
      SessionBlock name
        [⟨.create config, .ok ()⟩, ⟨.start name, .ok ()⟩, ⟨.stop name, .ok ()⟩,
          ⟨.destroy name, .error failure⟩, ⟨.destroy name, last⟩]

namespace Session

variable {name : String} {config : SessionConfig} {exchanges : List (Exchange instruments)}

theorem course_call_controller_iff {call : ControllerCall} {outcome : Except Error Unit} :
    Course (Instruments.callController call) exchanges outcome ↔
      exchanges = [⟨Instruments.Request.controller call, outcome⟩] :=
  course_request_iff

theorem control_steps_quietly {call : ControllerCall} {done : Unit}
    (course : Course (quietly call) exchanges done) :
    ∃ outcome, controlSteps exchanges = [⟨call, outcome⟩] := by
  obtain ⟨first, outcome, second, called, logged, rfl⟩ := course_bind_iff.1 course
  rw [course_call_controller_iff.1 called, control_steps_append]
  refine ⟨outcome, ?_⟩
  cases outcome with
  | ok => 
      obtain ⟨rfl, _⟩ := course_done_iff.1 logged
      rfl
  | error failure =>
      rw [control_steps_of_course_on_host logged]
      rfl

theorem control_steps_release_active {done : Unit}
    (course : Course (release name .active) exchanges done) :
    ∃ stop last, controlSteps exchanges = [⟨.stop name, stop⟩, ⟨.destroy name, last⟩] := by
  obtain ⟨first, _, second, stopping, destroying, rfl⟩ := course_bind_iff.1 course
  obtain ⟨stop, stopSteps⟩ := control_steps_quietly stopping
  obtain ⟨last, destroySteps⟩ := control_steps_quietly destroying
  exact ⟨stop, last, by rw [control_steps_append, stopSteps, destroySteps]; rfl⟩

/-- A session that could not be started is destroyed at once. -/
theorem control_steps_start {outcome : Except Error Unit}
    (course : Course (start config) exchanges outcome) :
    (outcome = .ok () ∧ controlSteps exchanges =
      [⟨.create config, .ok ()⟩, ⟨.start config.name, .ok ()⟩]) ∨
    ((∃ failure, outcome = .error failure) ∧
      SessionBlock config.name (controlSteps exchanges)) := by
  obtain ⟨first, created, second, creating, continued, rfl⟩ := course_bind_iff.1 course
  rw [course_call_controller_iff.1 creating, control_steps_append]
  cases created with
  | error failure =>
      obtain ⟨rfl, rfl⟩ := course_done_iff.1 continued
      exact .inr ⟨⟨failure, rfl⟩, .refused config failure rfl⟩
  | ok =>
      obtain ⟨third, started, fourth, starting, finished, rfl⟩ := course_bind_iff.1 continued
      rw [course_call_controller_iff.1 starting, control_steps_append]
      cases started with
      | error failure =>
          obtain ⟨torn, _, rest, releasing, ended, rfl⟩ := course_bind_iff.1 finished
          obtain ⟨rfl, rfl⟩ := course_done_iff.1 ended
          obtain ⟨last, destroySteps⟩ := control_steps_quietly releasing
          rw [control_steps_append, destroySteps]
          exact .inr ⟨⟨failure, rfl⟩, .unstarted config failure last rfl⟩
      | ok =>
          obtain ⟨logged, _, rest, logging, ended, rfl⟩ := course_bind_iff.1 finished
          obtain ⟨rfl, rfl⟩ := course_done_iff.1 ended
          rw [control_steps_append, control_steps_of_course_on_host logging]
          exact .inl ⟨rfl, rfl⟩

/-- The calls with which an active session is ended and, if that fails, taken down. -/
theorem control_steps_finish {outcome : Except Error Unit}
    (course : Course (finish name) exchanges outcome) :
    (∃ failure stop last, outcome = .error failure ∧ controlSteps exchanges =
      [⟨.stop name, .error failure⟩, ⟨.stop name, stop⟩, ⟨.destroy name, last⟩]) ∨
    (∃ failure last, outcome = .error failure ∧ controlSteps exchanges =
      [⟨.stop name, .ok ()⟩, ⟨.destroy name, .error failure⟩, ⟨.destroy name, last⟩]) ∨
    (outcome = .ok () ∧ controlSteps exchanges =
      [⟨.stop name, .ok ()⟩, ⟨.destroy name, .ok ()⟩]) := by
  obtain ⟨first, stopped, second, stopping, continued, rfl⟩ := course_bind_iff.1 course
  rw [course_call_controller_iff.1 stopping, control_steps_append]
  cases stopped with
  | error failure =>
      obtain ⟨torn, _, rest, releasing, ended, rfl⟩ := course_bind_iff.1 continued
      obtain ⟨rfl, rfl⟩ := course_done_iff.1 ended
      obtain ⟨stop, last, tornSteps⟩ := control_steps_release_active releasing
      rw [control_steps_append, tornSteps]
      exact .inl ⟨failure, stop, last, rfl, rfl⟩
  | ok =>
      obtain ⟨third, destroyed, fourth, destroying, finished, rfl⟩ := course_bind_iff.1 continued
      rw [course_call_controller_iff.1 destroying, control_steps_append]
      cases destroyed with
      | error failure =>
          obtain ⟨torn, _, rest, releasing, ended, rfl⟩ := course_bind_iff.1 finished
          obtain ⟨rfl, rfl⟩ := course_done_iff.1 ended
          obtain ⟨last, tornSteps⟩ := control_steps_quietly releasing
          rw [control_steps_append, tornSteps]
          exact .inr (.inl ⟨failure, last, rfl, rfl⟩)
      | ok =>
          obtain ⟨rfl, rfl⟩ := course_done_iff.1 finished
          exact .inr (.inr ⟨rfl, rfl⟩)

end Session
end TraceOverhead
