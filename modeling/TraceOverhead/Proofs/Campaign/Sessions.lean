import TraceOverhead.Proofs.Campaign.Law
import TraceOverhead.Proofs.Dialogue.Transcript
import TraceOverhead.Proofs.Session.Blocks
/-!
The sessions of a whole campaign. Whatever is asked of a campaign, and however the controller, the
programs and the kernel answer, its calls of the controller are one session's block after the
other, all under the name of the workspace, and one last destroy. So at no time is a session
started that was not created, or stopped that was not started, or created in the place of one that
nobody has tried to destroy.
-/

namespace TraceOverhead

open Dialogue

/-- What may be asked of the controller next: whether a session was created that nobody has tried to
destroy since, and whether it was started. -/
inductive SessionPhase where
  | absent
  | created
  | started
  deriving DecidableEq, Repr

namespace SessionPhase

/-- The phase after a call, or nothing if the call is out of order. A stopped session may be stopped
again, and destroying is always in order. -/
def next? : SessionPhase → ControlStep → Option SessionPhase
  | .absent, ⟨.create _, .ok ()⟩ => some .created
  | .absent, ⟨.create _, .error _⟩ => some .absent
  | .created, ⟨.start _, .ok ()⟩ => some .started
  | .created, ⟨.start _, .error _⟩ => some .created
  | .started, ⟨.stop _, _⟩ => some .started
  | _, ⟨.destroy _, _⟩ => some .absent
  | _, _ => none

def run? (phase : SessionPhase) (steps : List ControlStep) : Option SessionPhase :=
  steps.foldlM next? phase

theorem run_append (phase : SessionPhase) (first second : List ControlStep) :
    phase.run? (first ++ second) = (phase.run? first).bind fun middle => middle.run? second :=
  List.foldlM_append

theorem run_block {name : String} {block : List ControlStep} (shape : SessionBlock name block) :
    absent.run? block = some .absent := by
  cases shape <;> rfl

theorem run_blocks {name : String} {blocks : List (List ControlStep)}
    (shapes : ∀ block ∈ blocks, SessionBlock name block) :
    absent.run? blocks.flatten = some .absent := by
  induction blocks with
  | nil => rfl
  | cons block blocks induction =>
      have head := run_block (shapes block (by simp))
      have tail := induction (fun other member => shapes other (by simp [member]))
      rw [List.flatten_cons, run_append, head]
      exact tail

end SessionPhase

/-- A session that was created is destroyed by the last call of its block. -/
theorem last_of_created {name : String} {block : List ControlStep} (shape : SessionBlock name block)
    {config : SessionConfig} (created : ⟨.create config, .ok ()⟩ ∈ block) :
    ∃ outcome, block.getLast? = some ⟨.destroy name, outcome⟩ := by
  cases shape with
  | refused config failure named => simp at created
  | unstarted config failure last named => exact ⟨last, rfl⟩
  | ended config stop last named => exact ⟨last, rfl⟩
  | stoppedTwice config failure stop last named => exact ⟨last, rfl⟩
  | destroyedTwice config failure last named => exact ⟨last, rfl⟩

/-- The calls among some exchanges are sessions of one name, one after the other. -/
def SessionBlocks (name : String) (exchanges : List (Exchange instruments)) : Prop :=
  ∃ blocks : List (List ControlStep), controlSteps exchanges = blocks.flatten ∧
    ∀ block ∈ blocks, SessionBlock name block

theorem session_blocks_of_quiet {name : String} {exchanges : List (Exchange instruments)}
    (quiet : controlSteps exchanges = []) : SessionBlocks name exchanges :=
  ⟨[], quiet, by simp⟩

theorem session_blocks_of_block {name : String} {exchanges : List (Exchange instruments)}
    (shape : SessionBlock name (controlSteps exchanges)) : SessionBlocks name exchanges :=
  ⟨[controlSteps exchanges], by simp, by simpa using shape⟩

theorem session_blocks_composable (name : String) : Campaign.Composable (SessionBlocks name) := by
  constructor
  · exact session_blocks_of_quiet rfl
  · intro first second firstBlocks secondBlocks
    obtain ⟨left, leftSteps, leftShapes⟩ := firstBlocks
    obtain ⟨right, rightSteps, rightShapes⟩ := secondBlocks
    refine ⟨left ++ right, by simp [leftSteps, rightSteps], ?_⟩
    intro block member
    rcases List.mem_append.1 member with inLeft | inRight
    · exact leftShapes block inLeft
    · exact rightShapes block inRight

theorem session_blocks_hosted (name : String) (asked : List (Exchange host)) :
    SessionBlocks name (asked.map Exchange.onHost) :=
  session_blocks_of_quiet (control_steps_map_on_host asked)

namespace Campaign

variable {α : Type} {config : SessionConfig}

/-- A session around something that leaves the controller alone is one block. -/
theorem session_block_of_during {body : Measuring α} {before after : CampaignState}
    {exchanges : List (Exchange instruments)} {outcome : Except Error α}
    (quiet : Abides (fun exchanges => controlSteps exchanges = []) body)
    (run : Run (Session.during config body) before exchanges outcome after) :
    SessionBlock config.name (controlSteps exchanges) := by
  rcases run_during_cases run with ⟨failure, begun, _⟩ |
    ⟨begun, middle, torn, failure, starting, measured, releasing, _, rfl⟩ |
    ⟨begun, middle, ended, value, ending, starting, measured, finishing, _, rfl⟩
  · rcases Session.control_steps_start begun with ⟨impossible, _⟩ | ⟨_, shape⟩
    · exact absurd impossible (by simp)
    · exact shape
  · rcases Session.control_steps_start starting with ⟨_, startSteps⟩ | ⟨⟨_, impossible⟩, _⟩
    · obtain ⟨stop, last, tornSteps⟩ := Session.control_steps_release_active releasing
      rw [control_steps_append, control_steps_append, startSteps, quiet _ _ _ _ measured, tornSteps]
      exact .ended config stop last rfl
    · exact absurd impossible (by simp)
  · rcases Session.control_steps_start starting with ⟨_, startSteps⟩ | ⟨⟨_, impossible⟩, _⟩
    · rw [control_steps_append, control_steps_append, startSteps, quiet _ _ _ _ measured]
      rcases Session.control_steps_finish finishing with ⟨failure, stop, last, _, endSteps⟩ |
        ⟨failure, last, _, endSteps⟩ | ⟨_, endSteps⟩
      · rw [endSteps]
        exact .stoppedTwice config failure stop last rfl
      · rw [endSteps]
        exact .destroyedTwice config failure last rfl
      · rw [endSteps]
        exact .ended config (.ok ()) (.ok ()) rfl
    · exact absurd impossible (by simp)

/-- The same within the law, so that it can be put together with what comes before and after. -/
theorem session_blocks_during {body : Measuring α}
    (quiet : Abides (fun exchanges => controlSteps exchanges = []) body) :
    Abides (SessionBlocks config.name) (Session.during config body) := by
  intro before exchanges outcome after run
  exact session_blocks_of_block (session_block_of_during quiet run)

theorem session_blocks_user_pass (campaign : Campaign) (entry : SuiteEntry) :
    Abides (SessionBlocks campaign.workspace.sessionName) (campaign.userPass entry) := by
  apply abides_user_pass (session_blocks_composable _)
  · intro arguments
    exact abides_attempt fun asked _ _ => session_blocks_hosted _ asked
  · intro number arguments
    apply abides_run_traced (session_blocks_composable _)
    · apply session_blocks_during
      intro before exchanges outcome after run
      exact control_steps_of_course_on_host (run_instruments_iff.1 run).1
    · intro path answer
      exact session_blocks_of_quiet rfl

theorem session_blocks_kernel_pass (campaign : Campaign) (bench : KernelBench) (loops : UInt64) :
    Abides (SessionBlocks campaign.workspace.sessionName) (campaign.kernelPass bench loops) := by
  have quiet : Abides (fun exchanges => controlSteps exchanges = [])
      (withInserted (bench.benchmark loops)) := by
    intro before exchanges outcome after run
    obtain ⟨inserted, course, _⟩ := run_with_inserted_iff.1 run
    exact control_steps_of_course_on_host course
  apply abides_kernel_pass (session_blocks_composable _)
  · intro before exchanges outcome after run
    exact session_blocks_of_quiet (quiet _ _ _ _ run)
  · exact abides_attempt fun asked _ _ => session_blocks_hosted _ asked
  · intro number events
    exact session_blocks_during quiet

theorem session_blocks_suite (campaign : Campaign) :
    SuiteLaw campaign (SessionBlocks campaign.workspace.sessionName) :=
  { session_blocks_composable campaign.workspace.sessionName with
    logged := fun _ _ => session_blocks_of_quiet rfl
    interrupt := fun _ => session_blocks_of_quiet rfl
    userPass := session_blocks_user_pass campaign
    kernelPass := fun bench loops _ => session_blocks_kernel_pass campaign bench loops }

/-- The closing destroys the run's session once more and says nothing else to the controller. -/
theorem control_steps_close {campaign : Campaign} {state : CampaignState}
    {exchanges : List (Exchange instruments)} {done : Unit}
    (course : Course (campaign.close state) exchanges done) :
    ∃ last, controlSteps exchanges = [⟨.destroy campaign.workspace.sessionName, last⟩] := by
  obtain ⟨first, _, rest, destroying, unloadAndOn, rfl⟩ := course_bind_iff.1 course
  obtain ⟨last, called⟩ := course_discard_iff.1 destroying
  obtain ⟨unloaded, inserted, rest, unloading, releaseAndOn, rfl⟩ :=
    course_bind_iff.1 unloadAndOn
  obtain ⟨released, _, rest, releasing, reloadAndOn, rfl⟩ := course_bind_iff.1 releaseAndOn
  obtain ⟨again, _, removed, reloading, removing, rfl⟩ := course_bind_iff.1 reloadAndOn
  obtain ⟨_, reloaded⟩ := course_discard_iff.1 reloading
  refine ⟨last, ?_⟩
  simp only [control_steps_append]
  rw [Session.course_call_controller_iff.1 called, control_steps_of_course_on_host unloading,
    course_request_iff.1 releasing, control_steps_of_course_on_host reloaded,
    control_steps_of_course_on_host removing]
  rfl

/-- The calls of the controller in the whole life of a campaign: blocks of sessions, all under the
workspace's name, and one destroy at the end. -/
theorem sessions_of_life (campaign : Campaign) (state : CampaignState) (calls : List CampaignCall)
    {exchanges : List (Exchange instruments)}
    (course : Course (campaign.life state calls) exchanges ()) :
    (∃ (blocks : List (List ControlStep)) (last : Except Error Unit), controlSteps exchanges =
        blocks.flatten ++ [⟨.destroy campaign.workspace.sessionName, last⟩] ∧
      ∀ block ∈ blocks, SessionBlock campaign.workspace.sessionName block ∧
        ∀ config, ⟨.create config, .ok ()⟩ ∈ block →
          ∃ outcome, block.getLast? = some ⟨.destroy campaign.workspace.sessionName, outcome⟩) ∧
    SessionPhase.absent.run? (controlSteps exchanges) = some .absent := by
  obtain ⟨first, closing, final, ⟨blocks, firstSteps, shapes⟩, closed, rfl⟩ :=
    exists_closing_of_course_life (session_blocks_suite campaign)
      (session_blocks_hosted campaign.workspace.sessionName) calls course
  obtain ⟨last, closingSteps⟩ := control_steps_close closed
  have steps : controlSteps (first ++ closing) =
      blocks.flatten ++ [⟨.destroy campaign.workspace.sessionName, last⟩] := by
    rw [control_steps_append, firstSteps, closingSteps]
  rw [steps]
  refine ⟨⟨blocks, last, rfl, ?_⟩, ?_⟩
  · intro block member
    exact ⟨shapes block member, fun config created => last_of_created (shapes block member) created⟩
  · rw [SessionPhase.run_append, SessionPhase.run_blocks shapes]
    rfl

/-- One benchmark, run once, and no kernel. -/
def smallCampaign : Campaign :=
  { runner := "runner"
    workspace := ⟨"scratch", "bench"⟩
    suite := [⟨"basic", .fast, .ofPrograms "plain" "traced"⟩]
    config := { Config.ofProfile .quick with fastPasses := 1 }
    hasReader := false
    kernel := none }

/-- A session that cannot be stopped, and after it one that cannot be started. -/
theorem sessions_of_small_life :
    ∃ exchanges, Course (smallCampaign.life .initial [.runSuite, .runSuite]) exchanges () ∧
      controlSteps exchanges =
        [⟨.create (smallCampaign.workspace.sessionConfig 0 .user ["*"] true), .ok ()⟩,
          ⟨.start "bench", .ok ()⟩, ⟨.stop "bench", .error .interrupted⟩,
          ⟨.stop "bench", .error .interrupted⟩, ⟨.destroy "bench", .ok ()⟩,
          ⟨.create (smallCampaign.workspace.sessionConfig 1 .user ["*"] true), .ok ()⟩,
          ⟨.start "bench", .error .interrupted⟩, ⟨.destroy "bench", .ok ()⟩,
          ⟨.destroy "bench", .ok ()⟩] ∧
      SessionPhase.absent.run? (controlSteps exchanges) = some .absent := by
  have course := course_transcript (Instruments.obey [0x5b, 0x5d] [])
    [.ok (), .ok (), .error .interrupted, .error .interrupted, .ok (), .ok (),
      .error .interrupted] (smallCampaign.life .initial [.runSuite, .runSuite])
  exact ⟨_, course, rfl, (sessions_of_life smallCampaign .initial _ course).2⟩

end Campaign
end TraceOverhead
