import TraceOverhead.Proofs.Campaign.Law
import TraceOverhead.Proofs.Kernel.Modules
/-!
What the parts of a campaign ask for. A run of the runner is that one program; the benchmark in the
kernel looks for its own modules and goes through its own files; a session speaks of its own
configuration and under its own name. A bound that allows as much bounds whole suites.
-/

namespace TraceOverhead

open Dialogue

namespace Runner

def Work (runner : String) : Host.Request → Prop
  | .run program _ => program = runner
  | _ => False

theorem asks_run (runner : String) (arguments : List String) :
    Asks (Work runner) (run runner arguments).outcome :=
  Attempt.asks_bind (Host.asks_output rfl) fun _ => trivial

end Runner

namespace Session

/-- What a session says: to its controller only of itself, and to the log. -/
def Talk (config : SessionConfig) : Instruments.Request → Prop
  | .controller (.create other) => other = config
  | .controller call => call.sessionName = config.name
  | .host (.log ..) => True
  | _ => False

variable {config : SessionConfig}

theorem asks_say (level : Host.Level) (message : String) :
    Asks (Talk config) (Instruments.onHost (Host.log level message)) :=
  asks_on_host (Host.asks_ask trivial)

theorem asks_call {call : ControllerCall} (own : Talk config (.controller call)) :
    Asks (Talk config) (Instruments.callController call) := ⟨own, fun _ => trivial⟩

theorem asks_quietly {call : ControllerCall} (own : Talk config (.controller call)) :
    Asks (Talk config) (quietly call) := by
  apply Dialogue.asks_bind (asks_call own)
  intro outcome
  cases outcome with
  | ok => trivial
  | error failure => exact asks_say _ _

theorem asks_release (config : SessionConfig) (state : SessionState) :
    Asks (Talk config) (release config.name state) := by
  have stopping : Asks (Talk config) (quietly (.stop config.name)) := asks_quietly rfl
  have destroying : Asks (Talk config) (quietly (.destroy config.name)) := asks_quietly rfl
  cases state with
  | destroyed => trivial
  | active => exact Dialogue.asks_bind stopping fun _ => destroying
  | configured | stopped => exact destroying

theorem asks_start (config : SessionConfig) : Asks (Talk config) (start config) := by
  have own : Talk config (.controller (.create config)) := rfl
  apply Dialogue.asks_bind (asks_call own)
  intro created
  cases created with
  | error failure => trivial
  | ok =>
      have own : Talk config (.controller (.start config.name)) := rfl
      apply Dialogue.asks_bind (asks_call own)
      intro started
      cases started with
      | error failure => exact Dialogue.asks_bind (asks_release _ _) fun _ => trivial
      | ok => exact Dialogue.asks_bind (asks_say _ _) fun _ => trivial

theorem asks_finish (config : SessionConfig) : Asks (Talk config) (finish config.name) := by
  have own : Talk config (.controller (.stop config.name)) := rfl
  apply Dialogue.asks_bind (asks_call own)
  intro stopped
  cases stopped with
  | error failure => exact Dialogue.asks_bind (asks_release config _) fun _ => trivial
  | ok =>
      have own : Talk config (.controller (.destroy config.name)) := rfl
      apply Dialogue.asks_bind (asks_call own)
      intro destroyed
      cases destroyed with
      | error failure => exact Dialogue.asks_bind (asks_release config _) fun _ => trivial
      | ok => trivial

end Session

namespace Campaign

variable {α : Type} {campaign : Campaign} {allowed : Instruments.Request → Prop}

/-- A session stays within what it may say itself and what is asked in it. -/
theorem footprint_during {config : SessionConfig} {body : Measuring α}
    (talk : ∀ request, Session.Talk config request → allowed request)
    (within : Abides (Footprint allowed) body) :
    Abides (Footprint allowed) (Session.during config body) := by
  have rules := footprint_composable allowed
  intro before exchanges outcome after run
  rcases run_during_cases run with ⟨failure, begun, _⟩ |
    ⟨begun, middle, torn, failure, starting, measured, releasing, _, rfl⟩ |
    ⟨begun, middle, ended, value, ending, starting, measured, finishing, _, rfl⟩
  · exact allowed_of_course begun (asks_mono (Session.asks_start config) talk)
  · apply rules.append _ _ (allowed_of_course starting (asks_mono (Session.asks_start config) talk))
    apply rules.append _ _ (within _ _ _ _ measured)
    exact allowed_of_course releasing (asks_mono (Session.asks_release config .active) talk)
  · apply rules.append _ _ (allowed_of_course starting (asks_mono (Session.asks_start config) talk))
    apply rules.append _ _ (within _ _ _ _ measured)
    exact allowed_of_course finishing (asks_mono (Session.asks_finish config) talk)

/-- A session whose trace is numbered for a pass in user space. -/
def userSession (campaign : Campaign) (number : Nat) : SessionConfig :=
  campaign.workspace.sessionConfig number .user ["*"] (!campaign.hasReader)

/-- A session for a pass in the kernel, which never writes its trace. -/
def kernelSession (campaign : Campaign) (number : Nat) (events : List String) : SessionConfig :=
  campaign.workspace.sessionConfig number .kernel events true

/-- What a bound has to allow for it to bound every suite. -/
structure Allows (campaign : Campaign) (allowed : Instruments.Request → Prop) : Prop where
  userTalk : ∀ number request, Session.Talk (campaign.userSession number) request → allowed request
  kernelTalk : ∀ number events request,
    Session.Talk (campaign.kernelSession number events) request → allowed request
  runner : ∀ request, Runner.Work campaign.runner request → allowed (.host request)
  kernel : ∀ bench request, campaign.kernel = some bench → bench.Work request →
    allowed (.host request)
  count : ∀ path, allowed (.countEvents path)
  look : allowed (.host .interrupted)
  log : ∀ level message, allowed (.host (.log level message))

theorem footprint_runner (ran : ∀ request, Runner.Work campaign.runner request →
    allowed (.host request)) (arguments : List String) :
    Asks (fun request : Host.Request => allowed (.host request))
      (Runner.run campaign.runner arguments).outcome :=
  asks_mono (Runner.asks_run _ _) ran

theorem footprint_user_pass (allows : Allows campaign allowed) (entry : SuiteEntry) :
    Abides (Footprint allowed) (campaign.userPass entry) := by
  have rules := footprint_composable allowed
  apply abides_user_pass rules
  · intro arguments
    exact footprint_attempt (footprint_runner allows.runner arguments)
  · intro number arguments
    apply abides_run_traced rules
    · apply footprint_during (allows.userTalk number)
      intro before exchanges outcome after run
      exact footprint_on_host (run_instruments_iff.1 run).1 (footprint_runner allows.runner _)
    · intro path answer
      exact footprint_singleton (allows.count path)

theorem footprint_kernel_pass (allows : Allows campaign allowed) {bench : KernelBench}
    (loops : UInt64) (kernel : campaign.kernel = some bench) : Abides (Footprint allowed) (campaign.kernelPass bench loops) := by
  have worked := fun request => allows.kernel bench request kernel
  have timed : Abides (Footprint allowed) (withInserted (bench.benchmark loops)) :=
    footprint_with_inserted fun inserted =>
      asks_mono (KernelBench.asks_benchmark bench loops inserted) worked
  apply abides_kernel_pass (footprint_composable allowed) timed
  · exact footprint_attempt (asks_mono (KernelBench.asks_events bench) worked)
  · intro number events
    exact footprint_during (allows.kernelTalk number events) timed

/-- The closing destroys the session of the run, and otherwise asks the operating system alone. -/
theorem asks_close (state : CampaignState)
    (destroyed : allowed (.controller (.destroy campaign.workspace.sessionName)))
    (released : allowed .releaseController) (hosted : ∀ request, allowed (.host request)) :
    Asks allowed (campaign.close state) := by
  have free : ∀ {β : Type} (dialogue : Dialogue host β),
      Asks allowed (Instruments.onHost dialogue) :=
    fun dialogue => asks_on_host (asks_of_forall hosted dialogue)
  have calling : Asks allowed (Instruments.callController
      (.destroy campaign.workspace.sessionName)) := ⟨destroyed, fun _ => trivial⟩
  have releasing : Asks allowed (Instruments.ask .releaseController) := ⟨released, fun _ => trivial⟩
  apply Dialogue.asks_bind (asks_discard calling)
  intro _
  apply Dialogue.asks_bind (free _)
  intro inserted
  apply Dialogue.asks_bind releasing
  intro _
  apply Dialogue.asks_bind (asks_discard (free _))
  intro _
  exact free _

theorem footprint_suite (allows : Allows campaign allowed) :
    SuiteLaw campaign (Footprint allowed) :=
  { footprint_composable allowed with
    logged := fun level message => footprint_singleton (allows.log level message)
    interrupt := fun _ => footprint_singleton allows.look
    userPass := footprint_user_pass allows
    kernelPass := fun _ loops kernel => footprint_kernel_pass allows loops kernel }

end Campaign

end TraceOverhead
