import TraceOverhead.Proofs.Campaign.Reading
/-!
How a traced run fails. Each of its steps can fail by itself, and taking down what is left can fail
again, over calls that have failed before. Main statement: whoever answers, the steps are taken in
their order until the first that fails, whose error is the outcome; after it nothing is asked but to
take the session down, and what goes wrong there is a warning each and nothing else.
-/

namespace TraceOverhead

open Dialogue

def failureOf? {α : Type} : Except Error α → Option Error
  | .ok _ => none
  | .error failure => some failure

/-- What a run of a program comes to: its output has to be there, and to be readable. -/
def decoded (program : String) (answer : Except IoFailure Host.Output) :
    Except Error (List TimingRecord) :=
  (Host.verdict program answer).bind TimingRecord.readOutput

namespace Exchange

/-- What goes into the log is no step. -/
def isStep : Exchange instruments → Bool
  | ⟨Instruments.Request.host (.log ..), _⟩ => false
  | _ => true

/-- The error of a step that fails. -/
def failure? : Exchange instruments → Option Error
  | ⟨Instruments.Request.controller _, outcome⟩ => failureOf? outcome
  | ⟨Instruments.Request.countEvents _, count⟩ => failureOf? count
  | ⟨Instruments.Request.host (.run program _), answer⟩ => failureOf? (decoded program answer)
  | _ => none

def records? : Exchange instruments → Option (List TimingRecord)
  | ⟨Instruments.Request.host (.run program _), answer⟩ => (decoded program answer).toOption
  | _ => none

def count? : Exchange instruments → Option UInt64
  | ⟨Instruments.Request.countEvents _, count⟩ => count.toOption
  | _ => none

def warning? : Exchange instruments → Option String
  | ⟨Instruments.Request.host (.log .warn message), _⟩ => some message
  | _ => none

/-- What is said of a call that fails while a session is taken down. -/
def complaint? : Exchange instruments → Option String
  | ⟨Instruments.Request.controller call, .error failure⟩ =>
    some ("failed to " ++ call.operation.name ++ " session " ++ call.sessionName ++ ": " ++
      failure.message)
  | _ => none

end Exchange

def steps (exchanges : List (Exchange instruments)) : List (Exchange instruments) :=
  exchanges.filter Exchange.isStep

def warnings (exchanges : List (Exchange instruments)) : List String :=
  exchanges.filterMap Exchange.warning?

theorem steps_append (first second : List (Exchange instruments)) :
    steps (first ++ second) = steps first ++ steps second :=
  List.filter_append ..

theorem warnings_append (first second : List (Exchange instruments)) :
    warnings (first ++ second) = warnings first ++ warnings second :=
  List.filterMap_append

/-- Calls that are made one after the other, with a warning for each that fails. -/
def MadeQuietly (calls : List ControllerCall) (exchanges : List (Exchange instruments)) : Prop :=
  (steps exchanges).map Exchange.request = calls.map Instruments.Request.controller ∧
    warnings exchanges = (steps exchanges).filterMap Exchange.complaint?

theorem made_quietly_append {calls others : List ControllerCall}
    {first second : List (Exchange instruments)} (left : MadeQuietly calls first)
    (right : MadeQuietly others second) : MadeQuietly (calls ++ others) (first ++ second) := by
  constructor
  · rw [steps_append, List.map_append, left.1, right.1]
    exact List.map_append.symm
  · rw [steps_append, warnings_append, List.filterMap_append, left.2, right.2]

namespace Session

variable {name : String} {exchanges : List (Exchange instruments)}

/-- The calls that take down a session that is left in some state. -/
def remaining (name : String) : SessionState → List ControllerCall
  | .destroyed => []
  | .active => [.stop name, .destroy name]
  | .configured | .stopped => [.destroy name]

theorem made_quietly {call : ControllerCall} {done : Unit}
    (course : Course (quietly call) exchanges done) : MadeQuietly [call] exchanges := by
  obtain ⟨outcome, rest, continued, rfl⟩ := course_request_bind_iff.1 course
  cases outcome with
  | ok =>
      rw [(course_done_iff.1 continued).1]
      exact ⟨rfl, rfl⟩
  | error failure =>
      obtain ⟨asked, logged, rfl⟩ := course_on_host_iff.1 continued
      rw [course_request_iff.1 logged]
      exact ⟨rfl, rfl⟩

theorem made_quietly_of_release {state : SessionState} {done : Unit}
    (course : Course (release name state) exchanges done) :
    MadeQuietly (remaining name state) exchanges := by
  cases state with
  | destroyed =>
      rw [(course_done_iff.1 course).1]
      exact ⟨rfl, rfl⟩
  | configured => exact made_quietly course
  | stopped => exact made_quietly course
  | active =>
      obtain ⟨first, _, second, stopping, destroying, rfl⟩ := course_bind_iff.1 course
      exact made_quietly_append (made_quietly stopping) (made_quietly destroying)

/-- An error that is passed on after a session was taken down is the one there was before. -/
theorem released_of_course {α : Type} {state : SessionState} {cause : Error}
    {outcome : Except Error α}
    (course : Course (release name state >>= fun _ => .done (.error cause)) exchanges outcome) :
    outcome = .error cause ∧ MadeQuietly (remaining name state) exchanges := by
  obtain ⟨_, releasing, same⟩ := course_bind_done_iff.1 course
  exact ⟨same, made_quietly_of_release releasing⟩

end Session

namespace Runner

/-- What a session asks for around a run of a program, but for the log. -/
def sessionPlan (runner : String) (arguments : List String) (config : SessionConfig) :
    List Instruments.Request :=
  [.controller (.create config), .controller (.start config.name), .host (.run runner arguments),
    .controller (.stop config.name), .controller (.destroy config.name)]

/-- Everything that is asked for in a traced run in which nothing goes wrong. -/
def plan (runner : String) (arguments : List String) (config : SessionConfig) (hasReader : Bool) :
    List Instruments.Request :=
  sessionPlan runner arguments config ++
    if hasReader then [.countEvents config.tracePath] else []

structure FailedStep where
  request : Instruments.Request
  error : Error

def failedStep? (step : Exchange instruments) : Option FailedStep :=
  step.failure?.map fun error => ⟨step.request, error⟩

/-- The first step that failed among as many as a plan has. -/
def firstFailed? (plan : List Instruments.Request) (exchanges : List (Exchange instruments)) :
    Option FailedStep :=
  ((steps exchanges).take plan.length).findSome? failedStep?

/-- Steps that were taken by a plan, one after the other, up to the first that failed. -/
inductive Attempted : List Instruments.Request → List (Exchange instruments) →
    Option FailedStep → Prop
  | through : Attempted [] [] none
  | failed {step : Exchange instruments} {plan : List Instruments.Request} {error : Error}
      (failure : step.failure? = some error) :
      Attempted (step.request :: plan) [step] (some ⟨step.request, error⟩)
  | passed {step : Exchange instruments} {plan : List Instruments.Request}
      {taken : List (Exchange instruments)} {failed : Option FailedStep}
      (fine : step.failure? = none) (rest : Attempted plan taken failed) :
      Attempted (step.request :: plan) (step :: taken) failed

/-- The state a session is left in by the step that fails. Without a session there is none to take
down, as if it had been destroyed. -/
def stateAfter : Instruments.Request → SessionState
  | .controller (.start _) => .configured
  | .host _ | .controller (.stop _) => .active
  | .controller (.destroy _) => .stopped
  | .controller (.create _) | .countEvents _ | .releaseController => .destroyed

/-- What is asked after the last step of a plan that was taken. -/
def teardown (name : String) : Option FailedStep → List ControllerCall
  | none => []
  | some failed => Session.remaining name (stateAfter failed.request)

/-- The exchanges are the steps of a plan up to the first that fails, after which the session of the
name is taken down. Nothing else is asked, and nothing warned of but what goes wrong then. -/
def Followed (name : String) (plan : List Instruments.Request)
    (exchanges : List (Exchange instruments)) (failed : Option FailedStep) : Prop :=
  ∃ taken torn, steps exchanges = taken ++ torn ∧ Attempted plan taken failed ∧
    torn.map Exchange.request = (teardown name failed).map Instruments.Request.controller ∧
    warnings exchanges = torn.filterMap Exchange.complaint?

section Following

variable {name : String} {plan : List Instruments.Request} {step : Exchange instruments}
  {exchanges : List (Exchange instruments)} {failed : Option FailedStep}

theorem followed_nil : Followed name [] [] none :=
  ⟨[], [], rfl, .through, rfl, rfl⟩

theorem no_warning_of_step (isStep : step.isStep = true) : step.warning? = none := by
  fun_cases Exchange.warning? step with
  | case1 message answer => contradiction
  | case2 => rfl

theorem followed_cons (isStep : step.isStep = true) (fine : step.failure? = none)
    (followed : Followed name plan exchanges failed) :
    Followed name (step.request :: plan) (step :: exchanges) failed := by
  obtain ⟨taken, torn, split, attempted, calls, complaints⟩ := followed
  refine ⟨step :: taken, torn, ?_, .passed fine attempted, calls, ?_⟩
  · rw [steps, List.filter_cons_of_pos isStep, List.cons_append]
    exact congrArg _ split
  · rw [warnings, List.filterMap_cons_none (no_warning_of_step isStep)]
    exact complaints

theorem followed_failed {error : Error} (isStep : step.isStep = true)
    (failure : step.failure? = some error)
    (torn : MadeQuietly (Session.remaining name (stateAfter step.request)) exchanges) :
    Followed name (step.request :: plan) (step :: exchanges) (some ⟨step.request, error⟩) := by
  refine ⟨[step], steps exchanges, ?_, .failed failure, torn.1, ?_⟩
  · exact List.filter_cons_of_pos isStep
  · rw [warnings, List.filterMap_cons_none (no_warning_of_step isStep)]
    exact torn.2

theorem followed_call {call : ControllerCall} (followed : Followed name plan exchanges failed) :
    Followed name (.controller call :: plan)
      (⟨Instruments.Request.controller call, .ok ()⟩ :: exchanges) failed :=
  followed_cons rfl rfl followed

theorem followed_call_failed {call : ControllerCall} {error : Error}
    (torn : MadeQuietly (Session.remaining name (stateAfter (.controller call))) exchanges) :
    Followed name (.controller call :: plan)
      (⟨Instruments.Request.controller call, .error error⟩ :: exchanges)
      (some ⟨.controller call, error⟩) :=
  followed_failed rfl rfl torn

theorem followed_run {runner : String} {arguments : List String}
    {answer : Except IoFailure Host.Output} {records : List TimingRecord}
    (fine : decoded runner answer = .ok records) (followed : Followed name plan exchanges failed) :
    Followed name (.host (.run runner arguments) :: plan)
      (⟨Instruments.Request.host (.run runner arguments), answer⟩ :: exchanges) failed :=
  followed_cons rfl (congrArg failureOf? fine) followed

theorem followed_run_failed {runner : String} {arguments : List String}
    {answer : Except IoFailure Host.Output} {error : Error}
    (failure : decoded runner answer = .error error)
    (torn : MadeQuietly (Session.remaining name .active) exchanges) :
    Followed name (.host (.run runner arguments) :: plan)
      (⟨Instruments.Request.host (.run runner arguments), answer⟩ :: exchanges)
      (some ⟨.host (.run runner arguments), error⟩) :=
  followed_failed rfl (congrArg failureOf? failure) torn

/-- A failure makes no difference to what would have come later. -/
theorem followed_longer {failure : FailedStep} (more : List Instruments.Request)
    (followed : Followed name plan exchanges (some failure)) :
    Followed name (plan ++ more) exchanges (some failure) := by
  obtain ⟨taken, torn, split, attempted, calls, complaints⟩ := followed
  refine ⟨taken, torn, split, ?_, calls, complaints⟩
  clear split
  -- The plan and the steps get shorter together, up to the failure, where the plan may be any.
  generalize stopped : some failure = failed at attempted
  induction attempted with
  | through => contradiction
  | failed failure => exact .failed failure
  | passed fine _ induction => exact .passed fine (induction stopped)

theorem failed_of_attempted {taken : List (Exchange instruments)}
    (attempted : Attempted plan taken failed) (torn : List (Exchange instruments)) :
    failed = ((taken ++ torn).take plan.length).findSome? failedStep? := by
  induction attempted with
  | through => rfl
  | @failed step plan error failure =>
      change _ = ((step :: torn).take (plan.length + 1)).findSome? failedStep?
      rw [List.take_succ_cons, List.findSome?_cons, failedStep?, failure]
      rfl
  | @passed step plan taken failed fine rest induction =>
      change _ = ((step :: (taken ++ torn)).take (plan.length + 1)).findSome? failedStep?
      rw [List.take_succ_cons, List.findSome?_cons, failedStep?, fine]
      exact induction

/-- How the steps of a plan went can be read off the exchanges in one way only. -/
theorem failed_of_followed (followed : Followed name plan exchanges failed) :
    failed = firstFailed? plan exchanges := by
  obtain ⟨taken, torn, split, attempted, _⟩ := followed
  rw [firstFailed?, split]
  exact failed_of_attempted attempted torn

end Following

section Courses

variable {name runner : String} {arguments : List String} {config : SessionConfig}
  {hasReader : Bool} {exchanges : List (Exchange instruments)} {failure : Error}

theorem followed_of_start_failed (course : Course (Session.start config) exchanges (.error failure)) :
    ∃ request, Followed config.name
      [.controller (.create config), .controller (.start config.name)] exchanges
      (some ⟨request, failure⟩) := by
  obtain ⟨created, rest, continued, rfl⟩ := course_request_bind_iff.1 course
  cases created with
  | error cause =>
      obtain ⟨rfl, same⟩ := course_done_iff.1 continued
      obtain rfl := Except.error.inj same
      exact ⟨_, followed_call_failed ⟨rfl, rfl⟩⟩
  | ok =>
      obtain ⟨started, rest, announced, rfl⟩ := course_request_bind_iff.1 continued
      cases started with
      | ok =>
          obtain ⟨_, _, ended, _⟩ := course_request_bind_iff.1 announced
          exact absurd (course_done_iff.1 ended).2 (by simp)
      | error cause =>
          obtain ⟨same, released⟩ := Session.released_of_course announced
          obtain rfl := Except.error.inj same
          exact ⟨_, followed_call (followed_call_failed released)⟩

theorem followed_of_finish_failed (course : Course (Session.finish name) exchanges (.error failure)) :
    ∃ request, Followed name [.controller (.stop name), .controller (.destroy name)] exchanges
      (some ⟨request, failure⟩) := by
  obtain ⟨stopped, rest, continued, rfl⟩ := course_request_bind_iff.1 course
  cases stopped with
  | error cause =>
      obtain ⟨same, released⟩ := Session.released_of_course continued
      obtain rfl := Except.error.inj same
      exact ⟨_, followed_call_failed released⟩
  | ok =>
      obtain ⟨destroyed, rest, finished, rfl⟩ := course_request_bind_iff.1 continued
      cases destroyed with
      | ok => exact absurd (course_done_iff.1 finished).2 (by simp)
      | error cause =>
          obtain ⟨same, released⟩ := Session.released_of_course finished
          obtain rfl := Except.error.inj same
          exact ⟨_, followed_call (followed_call_failed released)⟩

/-- The one thing that is asked for while the session is active. -/
theorem asked_of_course_run {outcome : Except Error (List TimingRecord)}
    (course : Course (Instruments.attemptOnHost (run runner arguments)).outcome exchanges outcome) :
    ∃ answer, exchanges = [⟨Instruments.Request.host (.run runner arguments), answer⟩] ∧
      outcome = decoded runner answer := by
  obtain ⟨asked, running, rfl⟩ := course_on_host_iff.1 course
  obtain ⟨reached, started, rfl⟩ := course_outcome_bind_lift_iff.1 running
  obtain ⟨answer, rfl, rfl⟩ := Host.course_output_iff.1 started
  exact ⟨answer, rfl, rfl⟩

/-- A session that was started is announced in the log, which is no step and no warning. -/
theorem followed_started {rest : List Instruments.Request} {failed : Option FailedStep}
    (followed : Followed config.name rest exchanges failed) :
    Followed config.name
      (.controller (.create config) :: .controller (.start config.name) :: rest)
      ([⟨Instruments.Request.controller (.create config), .ok ()⟩,
        ⟨Instruments.Request.controller (.start config.name), .ok ()⟩,
        ⟨Instruments.Request.host (.log .info (Session.announcement config)), ()⟩] ++ exchanges)
      failed := by
  have announced : Followed config.name rest
      (⟨Instruments.Request.host (.log .info (Session.announcement config)), ()⟩ :: exchanges)
      failed := followed
  exact followed_call (followed_call announced)

theorem followed_complete_session {answer : Except IoFailure Host.Output}
    {records : List TimingRecord} {rest : List Instruments.Request} {failed : Option FailedStep}
    (fine : decoded runner answer = .ok records)
    (followed : Followed config.name rest exchanges failed) :
    Followed config.name (sessionPlan runner arguments config ++ rest)
      (completeSession config [⟨Host.Request.run runner arguments, answer⟩] ++ exchanges) failed := by
  have ended : Followed config.name
      (.controller (.stop config.name) :: .controller (.destroy config.name) :: rest)
      (⟨Instruments.Request.controller (.stop config.name), .ok ()⟩ ::
        ⟨Instruments.Request.controller (.destroy config.name), .ok ()⟩ :: exchanges) failed :=
    followed_call (followed_call followed)
  exact followed_started (followed_run fine ended)

/-- A session that fails is taken down by then; one that does not is complete. -/
theorem followed_of_during {outcome : Except Error (List TimingRecord)}
    (course : Course (Attempt.outcome (Session.during config
      (Instruments.attemptOnHost (run runner arguments)))) exchanges outcome) :
    (∃ request failure, outcome = .error failure ∧
      Followed config.name (sessionPlan runner arguments config) exchanges
        (some ⟨request, failure⟩)) ∨
    ∃ answer records, decoded runner answer = .ok records ∧ outcome = .ok records ∧
      exchanges = completeSession config [⟨Host.Request.run runner arguments, answer⟩] := by
  obtain ⟨begun, started, rest, starting, continued, rfl⟩ := course_bind_iff.1 course
  cases started with
  | error failure =>
      obtain ⟨rfl, rfl⟩ := course_done_iff.1 continued
      obtain ⟨request, followed⟩ := followed_of_start_failed starting
      rw [List.append_nil]
      exact .inl ⟨request, failure, rfl, followed_longer _ followed⟩
  | ok =>
      rw [Session.course_started starting]
      obtain ⟨asked, ran, left, running, finished, rfl⟩ := course_bind_iff.1 continued
      obtain ⟨answer, rfl, rfl⟩ := asked_of_course_run running
      cases came : decoded runner answer with
      | error failure =>
          rw [came] at finished
          obtain ⟨rfl, released⟩ := Session.released_of_course finished
          exact .inl ⟨_, failure, rfl, followed_started (followed_run_failed came released)⟩
      | ok records =>
          rw [came] at finished
          obtain ⟨ended, ending, last, finishing, done, rfl⟩ := course_bind_iff.1 finished
          cases ending with
          | error failure =>
              obtain ⟨rfl, rfl⟩ := course_done_iff.1 done
              obtain ⟨request, followed⟩ := followed_of_finish_failed finishing
              rw [List.append_nil]
              exact .inl ⟨request, failure, rfl, followed_started (followed_run came followed)⟩
          | ok =>
              obtain ⟨rfl, rfl⟩ := course_done_iff.1 done
              rw [Session.course_finished finishing]
              exact .inr ⟨answer, records, came, rfl, rfl⟩

theorem records_of_complete_session {answer : Except IoFailure Host.Output}
    {records : List TimingRecord} (fine : decoded runner answer = .ok records)
    (after : List (Exchange instruments)) :
    (completeSession config [⟨Host.Request.run runner arguments, answer⟩] ++ after).findSome?
      Exchange.records? = some records := by
  have found : Exchange.records? ⟨Instruments.Request.host (.run runner arguments), answer⟩ =
      some records := by
    change (decoded runner answer).toOption = some records
    rw [fine]
    rfl
  simp only [completeSession, Exchange.onHost, List.map_cons, List.cons_append, List.nil_append,
    List.findSome?_cons, found]
  rfl

/-- A traced run fails with the error of a step, or every step succeeds and gives its part of the
result. -/
theorem followed_of_run_traced {outcome : Except Error TracedRun}
    (course : Course (Attempt.outcome (runTraced runner arguments config hasReader)) exchanges
      outcome) :
    (∃ request failure, outcome = .error failure ∧
      Followed config.name (plan runner arguments config hasReader) exchanges
        (some ⟨request, failure⟩)) ∨
    ∃ traced, outcome = .ok traced ∧
      Followed config.name (plan runner arguments config hasReader) exchanges none ∧
      exchanges.findSome? Exchange.records? = some traced.records ∧
      exchanges.findSome? Exchange.count? = traced.eventCount ∧
      traced.eventCount.isSome = hasReader := by
  rcases course_outcome_bind_iff.1 course with ⟨failure, session, rfl⟩ |
    ⟨first, records, rest, session, continued, rfl⟩
  · rcases followed_of_during session with ⟨request, _, same, followed⟩ | ⟨_, _, _, impossible, _⟩
    · obtain rfl := Except.error.inj same
      exact .inl ⟨request, failure, rfl, followed_longer _ followed⟩
    · contradiction
  · rcases followed_of_during session with ⟨_, _, impossible, _⟩ | ⟨answer, _, came, same, rfl⟩
    · contradiction
    obtain rfl := Except.ok.inj same
    cases hasReader with
    | false =>
        obtain ⟨rfl, rfl⟩ := course_outcome_pure_iff.1 continued
        exact .inr ⟨_, rfl, followed_complete_session came followed_nil,
          records_of_complete_session came [], rfl, rfl⟩
    | true =>
        rcases course_outcome_bind_iff.1 continued with ⟨failure, counted, rfl⟩ |
          ⟨asked, count, last, counted, ended, rfl⟩
        · rw [course_request_iff.1 counted]
          have stopped : Followed config.name [.countEvents config.tracePath]
              [reading config.tracePath (.error failure)]
              (some ⟨.countEvents config.tracePath, failure⟩) :=
            followed_failed rfl rfl ⟨rfl, rfl⟩
          exact .inl ⟨_, failure, rfl, followed_complete_session came stopped⟩
        · obtain ⟨rfl, rfl⟩ := course_outcome_pure_iff.1 ended
          rw [course_request_iff.1 counted]
          have counting : Followed config.name [.countEvents config.tracePath]
              [reading config.tracePath (.ok count)] none :=
            followed_cons rfl rfl followed_nil
          exact .inr ⟨_, rfl, followed_complete_session came counting,
            records_of_complete_session came _, rfl, rfl⟩

/-- However a traced run is answered, its steps are taken in order until one fails. It fails with
the error of that step, whatever goes wrong while the session is taken down, which is only warned
of; and if no step fails it gives what the runner printed and, if there is a reader, what was
counted. -/
theorem first_failure_of_run_traced {outcome : Except Error TracedRun}
    (course : Course (Attempt.outcome (runTraced runner arguments config hasReader)) exchanges
      outcome) :
    Followed config.name (plan runner arguments config hasReader) exchanges
        (firstFailed? (plan runner arguments config hasReader) exchanges) ∧
      (∀ failure, outcome = .error failure ↔ ∃ request,
        firstFailed? (plan runner arguments config hasReader) exchanges =
          some ⟨request, failure⟩) ∧
      ∀ traced, outcome = .ok traced ↔
        firstFailed? (plan runner arguments config hasReader) exchanges = none ∧
          exchanges.findSome? Exchange.records? = some traced.records ∧
          exchanges.findSome? Exchange.count? = traced.eventCount ∧
          traced.eventCount.isSome = hasReader := by
  rcases followed_of_run_traced course with ⟨request, failure, rfl, followed⟩ |
    ⟨⟨records, count⟩, rfl, followed, printed, counted, read⟩
  · rw [← failed_of_followed followed]
    exact ⟨followed, by simp, by simp⟩
  · rw [← failed_of_followed followed]
    refine ⟨followed, by simp, ?_⟩
    intro other
    constructor
    · rintro ⟨⟩
      exact ⟨rfl, printed, counted, read⟩
    · rintro ⟨_, otherPrinted, otherCounted, _⟩
      have sameRecords : records = other.records := Option.some.inj (printed.symm.trans otherPrinted)
      have sameCount : count = other.eventCount := counted.symm.trans otherCounted
      rw [sameRecords, sameCount]

end Courses

/-- A session of user space that is recorded to disk. -/
def diskSession : SessionConfig :=
  ⟨"bench", "scratch/0", .user, SessionConfig.standardChannel, ["*"], false⟩

/-- Neither at the end of its run nor after that can the session be stopped, and it cannot be
destroyed either. -/
theorem first_failure_of_lost_session :
    ∃ exchanges, Course (Attempt.outcome (runTraced "runner" [] diskSession true)) exchanges
        (.error .interrupted) ∧
      Followed "bench" (plan "runner" [] diskSession true) exchanges
        (some ⟨.controller (.stop "bench"), .interrupted⟩) ∧
      warnings exchanges =
        ["failed to stop session bench: LTTng: stop: gone",
          "failed to destroy session bench: LTTng: destroy: gone"] := by
  let traced : Attempt instruments TracedRun := runTraced "runner" [] diskSession true
  have course := course_transcript (Instruments.obey [0x5b, 0x5d] [])
    [.ok (), .ok (), .error .interrupted, .error (.tracing .stop "gone"),
      .error (.tracing .destroy "gone")] traced.outcome
  obtain ⟨followed, _⟩ := first_failure_of_run_traced course
  exact ⟨_, course, followed, rfl⟩

end Runner
end TraceOverhead
