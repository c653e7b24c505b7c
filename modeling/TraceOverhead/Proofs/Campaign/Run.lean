import TraceOverhead.Campaign
import TraceOverhead.Proofs.Dialogue.Attempt
import TraceOverhead.Proofs.Dialogue.Transcript
/-!
Runs of what a campaign does: from what it remembers before to what it remembers after, with the
exchanges in between, whoever answers, and the outcome. One lemma for each way of putting a
measurement together says exactly which runs there are, so no later proof looks into the monad.
-/

namespace TraceOverhead
namespace Campaign

open Dialogue

/-- One run of a measurement. -/
def Run {α : Type} (measuring : Measuring α) (before : CampaignState)
    (exchanges : List (Exchange instruments)) (outcome : Except Error α)
    (after : CampaignState) : Prop :=
  Course (measuring.run.run before) exchanges (outcome, after)

variable {α β : Type} {before after : CampaignState} {exchanges : List (Exchange instruments)}
  {outcome : Except Error α}

theorem run_pure_iff {value : α} :
    Run (pure value) before exchanges outcome after ↔
      exchanges = [] ∧ outcome = .ok value ∧ after = before := by
  change Course (.done (Except.ok value, before)) exchanges (outcome, after) ↔ _
  rw [course_done_iff, Prod.mk.injEq]

theorem run_throw_iff {failure : Error} :
    Run (throw failure) before exchanges outcome after ↔
      exchanges = [] ∧ outcome = .error failure ∧ after = before := by
  change Course (.done (Except.error failure, before)) exchanges (outcome, after) ↔ _
  rw [course_done_iff, Prod.mk.injEq]

theorem run_lift_iff {value : Except Error α} :
    Run (liftM value) before exchanges outcome after ↔
      exchanges = [] ∧ outcome = value ∧ after = before := by
  change Course (.done (value, before)) exchanges (outcome, after) ↔ _
  rw [course_done_iff, Prod.mk.injEq]

/-- A measurement in two parts fails in the first or goes on with its value. -/
theorem run_bind_iff {measuring : Measuring β} {continuation : β → Measuring α} :
    Run (measuring >>= continuation) before exchanges outcome after ↔
      (∃ failure, Run measuring before exchanges (.error failure) after ∧
        outcome = .error failure) ∨
      ∃ first value middle second, Run measuring before first (.ok value) middle ∧
        Run (continuation value) middle second outcome after ∧ exchanges = first ++ second := by
  change Course (measuring.run.run before >>= fun reached =>
    (ExceptT.bindCont continuation reached.1).run reached.2) exchanges (outcome, after) ↔ _
  rw [course_bind_iff]
  constructor
  · intro parts
    rcases parts with ⟨first, ⟨reached, middle⟩, second, started, continued, rfl⟩
    cases reached with
    | error failure =>
        obtain ⟨rfl, ended⟩ := course_done_iff.1 continued
        obtain ⟨rfl, rfl⟩ := Prod.mk.inj ended
        rw [List.append_nil]
        exact .inl ⟨failure, started, rfl⟩
    | ok value => exact .inr ⟨first, value, middle, second, started, continued, rfl⟩
  · intro parts
    rcases parts with ⟨failure, started, rfl⟩ | ⟨first, value, middle, second, started, continued, rfl⟩
    · exact ⟨exchanges, (.error failure, after), [], started, .done _, by simp⟩
    · exact ⟨first, (.ok value, middle), second, started, continued, rfl⟩

theorem parts_of_run_bind {measuring : Measuring β} {continuation : β → Measuring α} {result : α}
    (run : Run (measuring >>= continuation) before exchanges (.ok result) after) :
    ∃ first value middle second, Run measuring before first (.ok value) middle ∧
      Run (continuation value) middle second (.ok result) after ∧ exchanges = first ++ second := by
  rcases run_bind_iff.1 run with ⟨_, _, impossible⟩ | parts
  · contradiction
  · exact parts

theorem run_caught_iff {measuring : Measuring α} {caughtOutcome : Except Error (Except Error α)} :
    Run (caught measuring) before exchanges caughtOutcome after ↔
      ∃ outcome, Run measuring before exchanges outcome after ∧ caughtOutcome = .ok outcome := by
  change Course (measuring.run.run before >>= fun reached =>
    .done (Except.ok reached.1, reached.2)) exchanges (caughtOutcome, after) ↔ _
  rw [course_bind_done_iff]
  constructor
  · intro parts
    rcases parts with ⟨⟨outcome, middle⟩, held, ended⟩
    obtain ⟨rfl, rfl⟩ := Prod.mk.inj ended
    exact ⟨outcome, held, rfl⟩
  · intro parts
    rcases parts with ⟨outcome, held, rfl⟩
    exact ⟨(outcome, after), held, rfl⟩

/-- What is lifted into a campaign leaves its memory alone. -/
theorem course_lift_state_iff {dialogue : Dialogue instruments β} {value : β} :
    Course ((StateT.lift dialogue : StateT CampaignState (Dialogue instruments) β).run before)
        exchanges (value, after) ↔
      Course dialogue exchanges value ∧ after = before := by
  change Course (dialogue >>= fun reached => .done (reached, before)) exchanges (value, after) ↔ _
  rw [course_bind_done_iff]
  constructor
  · intro parts
    rcases parts with ⟨reached, held, ended⟩
    obtain ⟨rfl, rfl⟩ := Prod.mk.inj ended
    exact ⟨held, rfl⟩
  · intro parts
    rcases parts with ⟨held, rfl⟩
    exact ⟨value, held, rfl⟩

theorem run_instruments_iff {attempted : Attempt instruments α} :
    Run (ExceptT.mk (liftM attempted.outcome)) before exchanges outcome after ↔
      Course attempted.outcome exchanges outcome ∧ after = before :=
  course_lift_state_iff

theorem run_attempt_iff {attempted : Attempt host α} :
    Run (attempt attempted) before exchanges outcome after ↔
      Course (Instruments.onHost attempted.outcome) exchanges outcome ∧ after = before :=
  course_lift_state_iff

theorem course_of_run_attempt {attempted : Attempt host α}
    (run : Run (attempt attempted) before exchanges outcome after) :
    ∃ asked, Course attempted.outcome asked outcome ∧ exchanges = asked.map Exchange.onHost ∧
      after = before := by
  obtain ⟨course, same⟩ := run_attempt_iff.1 run
  obtain ⟨asked, held, hosted⟩ := course_on_host_iff.1 course
  exact ⟨asked, held, hosted, same⟩

theorem run_on_host_iff {dialogue : Dialogue host α} :
    Run (onHost dialogue) before exchanges outcome after ↔
      ∃ value, Course (Instruments.onHost dialogue) exchanges value ∧ outcome = .ok value ∧
        after = before := by
  change Course ((StateT.lift (Instruments.onHost dialogue)).run before >>= fun reached =>
    .done (Except.ok reached.1, reached.2)) exchanges (outcome, after) ↔ _
  rw [course_bind_done_iff]
  constructor
  · intro parts
    rcases parts with ⟨⟨value, middle⟩, held, ended⟩
    obtain ⟨asked, rfl⟩ := course_lift_state_iff.1 held
    obtain ⟨rfl, rfl⟩ := Prod.mk.inj ended
    exact ⟨value, asked, rfl, rfl⟩
  · intro parts
    rcases parts with ⟨value, asked, rfl, rfl⟩
    exact ⟨(value, after), course_lift_state_iff.2 ⟨asked, rfl⟩, rfl⟩

/-- After something that cannot fail a measurement always goes on. -/
theorem run_caught_bind_iff {measuring : Measuring β} {continuation : Except Error β → Measuring α} :
    Run (caught measuring >>= continuation) before exchanges outcome after ↔
      ∃ first reached middle second, Run measuring before first reached middle ∧
        Run (continuation reached) middle second outcome after ∧ exchanges = first ++ second := by
  rw [run_bind_iff]
  constructor
  · intro parts
    rcases parts with ⟨failure, started, _⟩ | ⟨first, value, middle, second, started, continued, rfl⟩
    · obtain ⟨reached, _, impossible⟩ := run_caught_iff.1 started
      contradiction
    · obtain ⟨reached, held, same⟩ := run_caught_iff.1 started
      obtain rfl := Except.ok.inj same
      exact ⟨first, value, middle, second, held, continued, rfl⟩
  · intro parts
    obtain ⟨first, reached, middle, second, held, continued, rfl⟩ := parts
    exact .inr ⟨first, reached, middle, second, run_caught_iff.2 ⟨reached, held, rfl⟩, continued,
      rfl⟩

theorem run_on_host_bind_iff {dialogue : Dialogue host β} {continuation : β → Measuring α} :
    Run (onHost dialogue >>= continuation) before exchanges outcome after ↔
      ∃ asked value second, Course dialogue asked value ∧
        Run (continuation value) before second outcome after ∧
        exchanges = asked.map Exchange.onHost ++ second := by
  rw [run_bind_iff]
  constructor
  · intro parts
    rcases parts with ⟨failure, started, _⟩ | ⟨first, value, middle, second, started, continued, rfl⟩
    · obtain ⟨_, _, impossible, _⟩ := run_on_host_iff.1 started
      contradiction
    · obtain ⟨reached, course, same, rfl⟩ := run_on_host_iff.1 started
      obtain rfl := Except.ok.inj same
      obtain ⟨asked, held, rfl⟩ := course_on_host_iff.1 course
      exact ⟨asked, value, second, held, continued, rfl⟩
  · intro parts
    obtain ⟨asked, value, second, held, continued, rfl⟩ := parts
    exact .inr ⟨_, value, before, second,
      run_on_host_iff.2 ⟨value, course_on_host_iff.2 ⟨asked, held, rfl⟩, rfl, rfl⟩, continued, rfl⟩

theorem run_with_inserted_iff {dialogue : Inserted → Dialogue host (Inserted × Except Error α)} :
    Run (withInserted dialogue) before exchanges outcome after ↔
      ∃ inserted, Course (Instruments.onHost (dialogue before.inserted)) exchanges
        (inserted, outcome) ∧ after = { before with inserted } := by
  change Course (Instruments.onHost (dialogue before.inserted) >>= fun reached =>
    .done (reached.2, { before with inserted := reached.1 })) exchanges (outcome, after) ↔ _
  rw [course_bind_done_iff]
  constructor
  · intro parts
    rcases parts with ⟨⟨inserted, reached⟩, held, ended⟩
    obtain ⟨rfl, rfl⟩ := Prod.mk.inj ended
    exact ⟨inserted, held, rfl⟩
  · intro parts
    rcases parts with ⟨inserted, held, rfl⟩
    exact ⟨(inserted, outcome), held, rfl⟩

/-- The next session's configuration is numbered by how many there were. -/
theorem run_next_session_iff {campaign : Campaign} {domain : Domain} {events : List String}
    {snapshot : Bool} {config : Except Error SessionConfig} :
    Run (campaign.nextSession domain events snapshot) before exchanges config after ↔
      exchanges = [] ∧
        config = .ok (campaign.workspace.sessionConfig before.nextTrace domain events snapshot) ∧
        after = { before with nextTrace := before.nextTrace + 1 } := by
  change Course (.done (_, _)) exchanges (config, after) ↔ _
  rw [course_done_iff, Prod.mk.injEq]

/-- A session around a measurement either cannot be started, or is taken down after the measurement
failed, or is ended after it succeeded. -/
theorem run_during_cases {config : SessionConfig} {body : Measuring α}
    (run : Run (Session.during config body) before exchanges outcome after) :
    (∃ failure, Course (Session.start config) exchanges (.error failure) ∧
      outcome = .error failure ∧ after = before) ∨
    (∃ begun middle torn failure, Course (Session.start config) begun (.ok ()) ∧
      Run body before middle (.error failure) after ∧
      Course (Session.release config.name .active) torn () ∧
      outcome = .error failure ∧ exchanges = begun ++ (middle ++ torn)) ∨
    ∃ begun middle ended value ending, Course (Session.start config) begun (.ok ()) ∧
      Run body before middle (.ok value) after ∧
      Course (Session.finish config.name) ended ending ∧
      outcome = ending.map (fun _ => value) ∧ exchanges = begun ++ (middle ++ ended) := by
  obtain ⟨begun, ⟨started, reached⟩, rest, starting, continued, rfl⟩ := course_bind_iff.1 run
  obtain ⟨began, rfl⟩ := course_lift_state_iff.1 starting
  cases started with
  | error failure =>
      obtain ⟨rfl, ended⟩ := course_done_iff.1 continued
      obtain ⟨rfl, rfl⟩ := Prod.mk.inj ended
      rw [List.append_nil]
      exact .inl ⟨failure, began, rfl, rfl⟩
  | ok =>
      obtain ⟨middle, ⟨result, left⟩, last, measured, finished, rfl⟩ :=
        course_bind_iff.1 continued
      cases result with
      | error failure =>
          obtain ⟨torn, ⟨_, final⟩, nothing, releasing, done, rfl⟩ :=
            course_bind_iff.1 finished
          obtain ⟨released, rfl⟩ := course_lift_state_iff.1 releasing
          obtain ⟨rfl, ended⟩ := course_done_iff.1 done
          obtain ⟨rfl, rfl⟩ := Prod.mk.inj ended
          rw [List.append_nil]
          exact .inr (.inl ⟨begun, middle, torn, failure, began, measured, released, rfl, rfl⟩)
      | ok value =>
          obtain ⟨ending, ⟨destroyed, final⟩, nothing, finishing, done, rfl⟩ :=
            course_bind_iff.1 finished
          obtain ⟨held, rfl⟩ := course_lift_state_iff.1 finishing
          have last : nothing = [] ∧ (outcome, after) = (destroyed.map fun _ => value, final) := by
            cases destroyed <;> exact course_done_iff.1 done
          obtain ⟨rfl, ended⟩ := last
          obtain ⟨rfl, rfl⟩ := Prod.mk.inj ended
          rw [List.append_nil]
          exact .inr (.inr ⟨begun, middle, ending, value, destroyed, began, measured, held, rfl,
            rfl⟩)

section Trials

variable {State : Type}
  (answer : (request : Instruments.Request) → State → Instruments.Answer request × State)

/-- What surroundings with a state of their own make of a measurement. -/
def trial (state : State) (measuring : Measuring α) (before : CampaignState) :
    List (Exchange instruments) × Except Error α × CampaignState :=
  transcript answer state (measuring.run.run before)

theorem run_trial (state : State) (measuring : Measuring α) (before : CampaignState) :
    Run measuring before (trial answer state measuring before).1
      (trial answer state measuring before).2.1 (trial answer state measuring before).2.2 := by
  have course := course_transcript answer state (measuring.run.run before)
  exact course

end Trials

end Campaign

/-- What can be asked of a campaign as long as it is not closed. -/
inductive CampaignCall where
  | userPass (entry : SuiteEntry)
  | runSuite
  | sweep (cpuRoot : String)

namespace Campaign

open Dialogue

/-- Goes through with a measurement, however it ends. -/
def concluded {α : Type} (measuring : Measuring α) (before : CampaignState) :
    Dialogue instruments CampaignState := do
  let reached ← measuring.run.run before
  return reached.2

def perform (campaign : Campaign) (before : CampaignState) :
    CampaignCall → Dialogue instruments CampaignState
  | .userPass entry => concluded (campaign.userPass entry) before
  | .runSuite => concluded campaign.runSuite before
  | .sweep cpuRoot => concluded (campaign.sweep cpuRoot) before

/-- The whole life of a campaign: what is asked of it, one call after the other, and its closing. -/
def life (campaign : Campaign) (state : CampaignState) : List CampaignCall → Dialogue instruments Unit
  | [] => campaign.close state
  | call :: calls => do
    let state ← campaign.perform state call
    campaign.life state calls

/-- Everything that is asked of a campaign before it is closed. -/
def performAll (campaign : Campaign) (state : CampaignState) :
    List CampaignCall → Dialogue instruments CampaignState
  | [] => pure state
  | call :: calls => do
    let state ← campaign.perform state call
    campaign.performAll state calls

theorem life_eq_perform_all (campaign : Campaign) (state : CampaignState)
    (calls : List CampaignCall) :
    campaign.life state calls = campaign.performAll state calls >>= campaign.close := by
  induction calls generalizing state with
  | nil => rfl
  | cons call calls induction =>
      rw [performAll, bind_assoc]
      exact congrArg (campaign.perform state call >>= ·) (funext induction)

theorem course_concluded_iff {α : Type} {measuring : Measuring α} {before after : CampaignState}
    {exchanges : List (Exchange instruments)} :
    Course (concluded measuring before) exchanges after ↔
      ∃ outcome, Run measuring before exchanges outcome after := by
  change Course (measuring.run.run before >>= fun reached => .done reached.2) exchanges after ↔ _
  rw [course_bind_done_iff]
  constructor
  · intro parts
    rcases parts with ⟨⟨outcome, final⟩, held, rfl⟩
    exact ⟨outcome, held⟩
  · intro parts
    rcases parts with ⟨outcome, held⟩
    exact ⟨(outcome, after), held, rfl⟩

end Campaign
end TraceOverhead
