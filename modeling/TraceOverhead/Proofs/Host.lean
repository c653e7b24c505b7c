import TraceOverhead.Proofs.Dialogue.Asks
/-!
The courses of reading and writing a file: a single request each, whose answer decides how the
attempt ends; and what reading, writing, logging and running a program ask for at most.
-/

namespace TraceOverhead.Host

open Dialogue

variable {asked : List (Exchange host)}

section Courses

theorem course_fallible_iff {α : Type} {dialogue : Dialogue host (Except IoFailure α)}
    {outcome : Except Error α} :
    Course (fallible dialogue).outcome asked outcome ↔
      ∃ answer, Course dialogue asked answer ∧ outcome = answer.mapError Error.io := by
  change Course (dialogue >>= fun answer => .done (answer.mapError Error.io)) asked outcome ↔ _
  exact course_bind_done_iff

theorem course_write_text_iff {path content : String} {outcome : Except Error Unit} :
    Course (writeText path content).outcome asked outcome ↔
      ∃ answer : Except IoFailure Unit,
        asked = [⟨Request.writeFile path (Text.toBytes content), answer⟩] ∧
          outcome = answer.mapError Error.io := by
  rw [writeText, course_fallible_iff]
  exact exists_congr fun answer => and_congr_left fun _ => course_request_iff

theorem course_read_file_iff {path : String} {outcome : Except Error Bytes} :
    Course (readFile path).outcome asked outcome ↔
      ∃ answer : Except IoFailure Bytes, asked = [⟨Request.readFile path, answer⟩] ∧
        outcome = answer.mapError Error.io := by
  rw [readFile, course_fallible_iff]
  exact exists_congr fun answer => and_congr_left fun _ => course_request_iff

def decode (content : Bytes) : Except Error String :=
  match Text.ofBytes? content with
  | some text => .ok text
  | none => .error (.io .notUtf8)

theorem read_text_eq (path : String) :
    readText path = readFile path >>= fun content => liftM (decode content) := by
  rw [readText]
  congr
  funext content
  rw [decode]
  cases Text.ofBytes? content <;> rfl

theorem course_read_text_iff {path : String} {outcome : Except Error String} :
    Course (readText path).outcome asked outcome ↔
      ∃ answer : Except IoFailure Bytes, asked = [⟨Request.readFile path, answer⟩] ∧
        outcome = (answer.mapError Error.io).bind decode := by
  rw [read_text_eq, course_outcome_bind_lift_iff]
  constructor
  · intro parts
    obtain ⟨reached, reading, rfl⟩ := parts
    obtain ⟨answer, rfl, rfl⟩ := course_read_file_iff.1 reading
    exact ⟨answer, rfl, rfl⟩
  · intro parts
    obtain ⟨answer, rfl, rfl⟩ := parts
    exact ⟨_, course_read_file_iff.2 ⟨answer, rfl, rfl⟩, rfl⟩

/-- Whether a program could be run and ended well. -/
def ranWell : Except IoFailure Output → Bool
  | .ok output => output.status.isSuccess
  | .error _ => false

def verdict (program : String) : Except IoFailure Output → Except Error Bytes
  | .error cause => .error (.spawn (programText program) cause)
  | .ok output =>
    if output.status.isSuccess then .ok output.stdout
    else .error (.commandFailed (programText program) output.status
      (Text.trim (Text.ofBytesLossy output.stderr)))

theorem is_ok_verdict (program : String) (answer : Except IoFailure Output) :
    (verdict program answer).isOk = ranWell answer := by
  cases answer with
  | error cause => rfl
  | ok output =>
      rw [verdict, ranWell]
      split <;> simp_all [Except.isOk, Except.toBool]

theorem course_output_iff {program : String} {arguments : List String}
    {outcome : Except Error Bytes} :
    Course (output program arguments).outcome asked outcome ↔
      ∃ answer, asked = [⟨Request.run program arguments, answer⟩] ∧
        outcome = verdict program answer := by
  have asking : (Host.output program arguments).outcome =
      Host.ask (.run program arguments) >>= fun answer => .done (verdict program answer) := by
    refine congrArg (@Dialogue.ask host _ (.run program arguments)) (funext ?_)
    intro answer
    cases answer with
    | error cause => rfl
    | ok output =>
        change (if output.status.isSuccess then _ else _ : Attempt host Bytes) =
          Dialogue.done (verdict program (.ok output))
        dsimp only [verdict]
        split <;> rfl
  rw [asking, course_bind_done_iff]
  exact exists_congr fun answer => and_congr_left fun _ => course_request_iff

/-- A program that is run for what it does alone. -/
theorem ran_of_course_discard {program : String} {arguments : List String}
    {outcome : Except Error Unit}
    (course : Course (discard (output program arguments) : Attempt host Unit).outcome asked
      outcome) :
    ∃ answer, asked = [⟨Request.run program arguments, answer⟩] ∧
      ranWell answer = outcome.isOk := by
  obtain ⟨said, running, rfl⟩ := Attempt.course_discard_iff.1 course
  obtain ⟨answer, rfl, rfl⟩ := course_output_iff.1 running
  refine ⟨answer, rfl, (is_ok_verdict program answer).symm.trans ?_⟩
  cases verdict program answer <;> rfl

end Courses

section Requests

variable {allowed : Host.Request → Prop}

theorem asks_ask {request : Host.Request} (fine : allowed request) :
    Asks allowed (Host.ask request) := ⟨fine, fun _ => trivial⟩

theorem asks_write_text {path content : String}
    (fine : allowed (.writeFile path (Text.toBytes content))) :
    Asks allowed (writeText path content).outcome :=
  Dialogue.asks_bind (asks_ask fine) fun _ => trivial

theorem asks_read_text {path : String} (fine : allowed (.readFile path)) :
    Asks allowed (readText path).outcome := by
  apply Attempt.asks_bind
  · exact Dialogue.asks_bind (asks_ask fine) fun _ => trivial
  · intro content
    split <;> trivial

theorem asks_output {program : String} {arguments : List String}
    (fine : allowed (.run program arguments)) :
    Asks allowed (Host.output program arguments).outcome := by
  apply Attempt.asks_bind (Attempt.asks_lift (asks_ask fine))
  intro answer
  cases answer with
  | error cause => trivial
  | ok output =>
      dsimp only
      split <;> trivial

end Requests

end TraceOverhead.Host
