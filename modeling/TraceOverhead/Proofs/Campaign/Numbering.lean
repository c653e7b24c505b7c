import TraceOverhead.Proofs.Campaign.Passes
import TraceOverhead.Proofs.Campaign.Requests
import TraceOverhead.Proofs.Campaign.Sessions
import TraceOverhead.Proofs.Session.Workspace
/-!
The numbers of a campaign's sessions. Whatever is asked of a campaign, and wherever that breaks off,
the sessions it has the controller create are the next ones of its scratch space, in order and
without a gap. Main statement: every session of a run has a trace directory of its own.
-/

namespace TraceOverhead

open Dialogue

/-- The session that a call has the controller create. -/
def ControlStep.config? (step : ControlStep) : Option SessionConfig :=
  match step.call with
  | .create config => some config
  | .start _ | .stop _ | .destroy _ => none

/-- The sessions that were to be created, in order, whether they could be or not. -/
def createdSessions (exchanges : List (Exchange instruments)) : List SessionConfig :=
  (controlSteps exchanges).filterMap ControlStep.config?

theorem created_sessions_append (first second : List (Exchange instruments)) :
    createdSessions (first ++ second) = createdSessions first ++ createdSessions second := by
  rw [createdSessions, control_steps_append, List.filterMap_append]
  rfl

theorem created_sessions_of_quiet {exchanges : List (Exchange instruments)}
    (quiet : controlSteps exchanges = []) : createdSessions exchanges = [] := by
  rw [createdSessions, quiet]
  rfl

theorem exists_created_of_block {name : String} {block : List ControlStep}
    (shape : SessionBlock name block) :
    ∃ config outcome, ⟨.create config, outcome⟩ ∈ block ∧
      block.filterMap ControlStep.config? = [config] := by
  cases shape with
  | refused config | unstarted config | ended config | stoppedTwice config
    | destroyedTwice config => exact ⟨config, _, List.mem_cons_self, rfl⟩

theorem mem_of_mem_control_steps {exchanges : List (Exchange instruments)} {step : ControlStep}
    (member : step ∈ controlSteps exchanges) :
    ⟨Instruments.Request.controller step.call, step.outcome⟩ ∈ exchanges := by
  obtain ⟨⟨request, answer⟩, there, told⟩ := List.mem_filterMap.1 member
  cases request with
  | controller call =>
      obtain rfl := Option.some.inj told
      exact there
  | releaseController | countEvents | host => contradiction

namespace Campaign

variable {α β : Type} {campaign : Campaign} {before middle after : CampaignState}
  {first second exchanges : List (Exchange instruments)} {config : SessionConfig}

section Relations

/-- The controller is not called and no session is numbered. -/
def Silent (before : CampaignState) (exchanges : List (Exchange instruments))
    (after : CampaignState) : Prop :=
  controlSteps exchanges = [] ∧ after.nextTrace = before.nextTrace

/-- One session is created, which was numbered before. -/
def Opens (config : SessionConfig) (before : CampaignState)
    (exchanges : List (Exchange instruments)) (after : CampaignState) : Prop :=
  createdSessions exchanges = [config] ∧ after.nextTrace = before.nextTrace

/-- The sessions that are created are the next ones of the scratch space. -/
def Numbered (campaign : Campaign) (before : CampaignState)
    (exchanges : List (Exchange instruments)) (after : CampaignState) : Prop :=
  ∃ requests, createdSessions exchanges =
      campaign.workspace.sessionConfigs before.nextTrace requests ∧
    after.nextTrace = before.nextTrace + requests.length

theorem silent_append (one : Silent before first middle) (other : Silent middle second after) :
    Silent before (first ++ second) after := by
  refine ⟨?_, other.2.trans one.2⟩
  rw [control_steps_append, one.1, other.1]
  rfl

theorem opens_append (one : Opens config before first middle) (other : Silent middle second after) :
    Opens config before (first ++ second) after := by
  refine ⟨?_, other.2.trans one.2⟩
  rw [created_sessions_append, one.1, created_sessions_of_quiet other.1]
  rfl

theorem numbered_of_silent (silent : Silent before exchanges after) :
    Numbered campaign before exchanges after :=
  ⟨[], created_sessions_of_quiet silent.1, silent.2⟩

theorem numbered_append (one : Numbered campaign before first middle)
    (other : Numbered campaign middle second after) :
    Numbered campaign before (first ++ second) after := by
  obtain ⟨requests, created, counted⟩ := one
  obtain ⟨others, later, total⟩ := other
  refine ⟨requests ++ others, ?_, ?_⟩
  · rw [created_sessions_append, created, later, counted, Workspace.session_configs_append]
  · rw [total, counted, List.length_append, Nat.add_assoc]

theorem silent_bind {measuring : Measuring β} {continuation : β → Measuring α}
    (left : Follows Silent measuring) (right : ∀ value, Follows Silent (continuation value)) :
    Follows Silent (measuring >>= continuation) :=
  follows_bind (fun _ _ _ _ _ => silent_append) left right

theorem opens_bind {measuring : Measuring β} {continuation : β → Measuring α}
    (left : Follows (Opens config) measuring)
    (right : ∀ value, Follows Silent (continuation value)) :
    Follows (Opens config) (measuring >>= continuation) :=
  follows_bind (fun _ _ _ _ _ => opens_append) left right

theorem numbered_bind {measuring : Measuring β} {continuation : β → Measuring α}
    (left : Follows campaign.Numbered measuring)
    (right : ∀ value, Follows campaign.Numbered (continuation value)) :
    Follows campaign.Numbered (measuring >>= continuation) :=
  follows_bind (fun _ _ _ _ _ => numbered_append) left right

theorem follows_numbered {measuring : Measuring α} (silent : Follows Silent measuring) :
    Follows campaign.Numbered measuring :=
  fun _ _ _ _ run => numbered_of_silent (silent _ _ _ _ run)

end Relations

section Parts

theorem silent_pure (value : α) : Follows Silent (pure value) := by
  intro before exchanges outcome after run
  obtain ⟨rfl, _, rfl⟩ := run_pure_iff.1 run
  exact ⟨rfl, rfl⟩

theorem silent_lift (value : Except Error α) : Follows Silent (liftM value) := by
  intro before exchanges outcome after run
  obtain ⟨rfl, _, rfl⟩ := run_lift_iff.1 run
  exact ⟨rfl, rfl⟩

theorem silent_attempt (attempted : Attempt host α) : Follows Silent (attempt attempted) := by
  intro before exchanges outcome after run
  obtain ⟨course, rfl⟩ := run_attempt_iff.1 run
  exact ⟨control_steps_of_course_on_host course, rfl⟩

theorem silent_on_host (dialogue : Dialogue host α) : Follows Silent (onHost dialogue) := by
  intro before exchanges outcome after run
  obtain ⟨value, course, _, rfl⟩ := run_on_host_iff.1 run
  exact ⟨control_steps_of_course_on_host course, rfl⟩

theorem silent_with_inserted (dialogue : Inserted → Dialogue host (Inserted × Except Error α)) :
    Follows Silent (withInserted dialogue) := by
  intro before exchanges outcome after run
  obtain ⟨inserted, course, rfl⟩ := run_with_inserted_iff.1 run
  exact ⟨control_steps_of_course_on_host course, rfl⟩

/-- No other session is created. -/
def CreatesOnly (config : SessionConfig) : Instruments.Request → Prop
  | .controller (.create other) => other = config
  | _ => True

theorem creates_only_of_talk (request : Instruments.Request) (talk : Session.Talk config request) :
    CreatesOnly config request := by
  cases request with
  | controller call =>
      cases call with
      | create other => exact talk
      | start | stop | destroy => trivial
  | releaseController | countEvents | host => trivial

theorem creates_only_of_quiet (quiet : controlSteps exchanges = []) :
    Footprint (CreatesOnly config) exchanges := by
  intro exchange there
  obtain ⟨request, answer⟩ := exchange
  cases request with
  | controller call =>
      have told : ⟨call, answer⟩ ∈ controlSteps exchanges := List.mem_filterMap.2 ⟨_, there, rfl⟩
      rw [quiet] at told
      contradiction
  | releaseController | countEvents | host => trivial

/-- A session around something silent has the controller create just this session. -/
theorem opens_during {body : Measuring α} (silent : Follows Silent body) :
    Follows (Opens config) (Session.during config body) := by
  intro before exchanges outcome after run
  have quiet : Abides (fun exchanges => controlSteps exchanges = []) body :=
    fun _ _ _ _ ran => (silent _ _ _ _ ran).1
  obtain ⟨created, answer, member, alone⟩ :=
    exists_created_of_block (session_block_of_during quiet run)
  have own : Footprint (CreatesOnly config) exchanges := by
    apply footprint_during creates_only_of_talk _ _ _ _ _ run
    exact fun _ _ _ _ ran => creates_only_of_quiet (quiet _ _ _ _ ran)
  obtain rfl : created = config := own _ (mem_of_mem_control_steps member)
  refine ⟨alone, ?_⟩
  rcases run_during_cases run with ⟨_, _, _, rfl⟩ | ⟨_, _, _, _, _, ran, _⟩ | ⟨_, _, _, _, _, _, ran, _⟩
  · rfl
  · exact (silent _ _ _ _ ran).2
  · exact (silent _ _ _ _ ran).2

/-- A session is numbered and then created at once, so no number is left out. -/
theorem numbered_next_session_bind {domain : Domain} {events : List String} {snapshot : Bool}
    {continuation : SessionConfig → Measuring α}
    (opened : ∀ config, Follows (Opens config) (continuation config)) :
    Follows campaign.Numbered (campaign.nextSession domain events snapshot >>= continuation) := by
  intro before exchanges outcome after run
  rcases run_bind_iff.1 run with
    ⟨failure, started, _⟩ | ⟨first, config, middle, second, started, continued, rfl⟩
  · exact absurd (run_next_session_iff.1 started).2.1 (by simp)
  · obtain ⟨rfl, same, rfl⟩ := run_next_session_iff.1 started
    obtain ⟨created, kept⟩ := opened config _ _ _ _ continued
    refine ⟨[⟨domain, events, snapshot⟩], ?_, kept⟩
    rw [List.nil_append, created, Except.ok.inj same]
    rfl

end Parts

section Runs

theorem opens_run_traced (runner : String) (arguments : List String) (hasReader : Bool) :
    Follows (Opens config) (Runner.runTraced runner arguments config hasReader) := by
  apply opens_bind
  · apply opens_during
    intro before exchanges outcome after run
    obtain ⟨course, rfl⟩ := run_instruments_iff.1 run
    exact ⟨control_steps_of_course_on_host course, rfl⟩
  · intro records
    split
    · apply silent_bind
      · intro before exchanges outcome after run
        obtain ⟨counted, rfl⟩ := run_instruments_iff.1 run
        rw [course_request_iff.1 counted]
        exact ⟨rfl, rfl⟩
      · intro count
        exact silent_pure _
    · exact silent_pure _

theorem numbered_user_pass (entry : SuiteEntry) :
    Follows campaign.Numbered (campaign.userPass entry) := by
  apply numbered_bind (follows_numbered (silent_attempt _))
  intro base
  apply numbered_bind (follows_numbered (silent_attempt _))
  intro disabled
  apply numbered_next_session_bind
  intro config
  apply opens_bind (opens_run_traced _ _ _)
  intro traced
  apply silent_bind (silent_lift _)
  intro measurement
  exact silent_pure _

theorem numbered_kernel_pass (bench : KernelBench) (loops : UInt64) :
    Follows campaign.Numbered (campaign.kernelPass bench loops) := by
  apply numbered_bind (follows_numbered (silent_with_inserted _))
  intro base
  apply numbered_bind (follows_numbered (silent_attempt _))
  intro events
  apply numbered_next_session_bind
  intro config
  apply opens_bind (opens_during (silent_with_inserted _))
  intro traced
  exact silent_pure _

theorem silent_turn (due : DuePass) (state : CampaignState) :
    Silent state (interruptLook false :: due.announced) state := by
  cases due <;> exact ⟨rfl, rfl⟩

theorem silent_after_failure (due : DuePass) (failure : Error) (state : CampaignState) :
    Silent state (due.afterFailure failure).1 state := by
  cases due with
  | user => exact ⟨rfl, rfl⟩
  | kernel bench loops => cases failure <;> exact ⟨rfl, rfl⟩

theorem numbered_of_walk {due : List DuePass} {outcome : Except Error (List Pass)}
    (walk : Walk campaign due before exchanges outcome after) :
    Numbered campaign before exchanges after := by
  have measured : ∀ due : DuePass, Follows campaign.Numbered (due.measure campaign) := by
    intro due
    cases due with
    | user entry number count => exact numbered_user_pass entry
    | kernel bench loops => exact numbered_kernel_pass bench loops
  induction walk with
  | nothing => exact numbered_of_silent ⟨rfl, rfl⟩
  | stopped => exact numbered_of_silent ⟨rfl, rfl⟩
  | @failed due others before after asked failure run =>
      exact numbered_append (numbered_of_silent (silent_turn due before))
        (numbered_append (measured due _ _ _ _ run)
          (numbered_of_silent (silent_after_failure due failure after)))
  | @made due others before middle after asked later pass outcome run rest induction =>
      exact numbered_append
        (numbered_append (numbered_of_silent (silent_turn due before)) (measured due _ _ _ _ run))
        induction

theorem numbered_suite : Follows campaign.Numbered campaign.runSuite := by
  intro before exchanges outcome after run
  rw [run_suite_eq_take_turns] at run
  exact numbered_of_walk (walk_of_run run)

theorem numbered_sweep_down (cpuRoot : String) (count : Nat) (results : Results) :
    Follows campaign.Numbered (campaign.sweepDown cpuRoot count results) := by
  induction count generalizing results with
  | zero => exact follows_numbered (silent_pure _)
  | succ count induction =>
      apply numbered_bind (follows_numbered (follows_caught (silent_attempt _)))
      intro outcome
      cases outcome with
      | error failure =>
          exact follows_numbered (silent_bind (silent_on_host _) fun _ => silent_pure _)
      | ok =>
          apply numbered_bind numbered_suite
          intro passes
          exact induction _

theorem silent_current_count (cpuRoot : String) : Follows Silent (currentCount cpuRoot) := by
  apply silent_bind (follows_caught (silent_attempt _))
  intro outcome
  cases outcome with
  | ok count => exact silent_pure _
  | error failure => exact silent_bind (silent_on_host _) fun _ => silent_on_host _

theorem numbered_sweep (cpuRoot : String) :
    Follows campaign.Numbered (campaign.sweep cpuRoot) := by
  unfold sweep
  split
  · apply numbered_bind (follows_numbered (silent_attempt _))
    intro saved
    apply numbered_bind (follows_caught (numbered_sweep_down cpuRoot _ _))
    intro outcome
    exact follows_numbered (silent_bind (silent_on_host _) fun _ => silent_lift outcome)
  · apply numbered_bind (follows_numbered (silent_current_count cpuRoot))
    intro count
    exact numbered_bind numbered_suite fun _ => follows_numbered (silent_pure _)

theorem numbered_of_perform_all {calls : List CampaignCall} {state final : CampaignState}
    (course : Course (campaign.performAll state calls) exchanges final) :
    Numbered campaign state exchanges final := by
  induction calls generalizing state exchanges with
  | nil =>
      obtain ⟨rfl, rfl⟩ := course_done_iff.1 course
      exact numbered_of_silent ⟨rfl, rfl⟩
  | cons call calls induction =>
      obtain ⟨first, next, second, performed, rest, rfl⟩ := course_bind_iff.1 course
      apply numbered_append _ (induction rest)
      cases call with
      | userPass entry =>
          obtain ⟨outcome, run⟩ := course_concluded_iff.1 performed
          exact numbered_user_pass entry _ _ _ _ run
      | runSuite =>
          obtain ⟨outcome, run⟩ := course_concluded_iff.1 performed
          exact numbered_suite _ _ _ _ run
      | sweep cpuRoot =>
          obtain ⟨outcome, run⟩ := course_concluded_iff.1 performed
          exact numbered_sweep cpuRoot _ _ _ _ run

/-- The sessions of a whole life of a campaign, which begins with the number zero. -/
theorem created_of_life {calls : List CampaignCall}
    (course : Course (campaign.life .initial calls) exchanges ()) :
    ∃ requests, createdSessions exchanges = campaign.workspace.sessionConfigs 0 requests := by
  rw [life_eq_perform_all] at course
  obtain ⟨first, final, closing, performed, closed, rfl⟩ := course_bind_iff.1 course
  obtain ⟨requests, created, _⟩ := numbered_of_perform_all performed
  obtain ⟨last, destroyed⟩ := control_steps_close closed
  refine ⟨requests, ?_⟩
  rw [created_sessions_append, created, createdSessions, destroyed]
  exact List.append_nil _

end Runs

section Requests

/-- Sessions that are asked for one after the other. -/
def nextSessions (campaign : Campaign) (requests : List SessionRequest) :
    Measuring (List SessionConfig) :=
  requests.mapM fun request =>
    campaign.nextSession request.domain request.events request.snapshot

theorem run_next_sessions_iff {requests : List SessionRequest}
    {outcome : Except Error (List SessionConfig)} :
    Run (campaign.nextSessions requests) before exchanges outcome after ↔
      exchanges = [] ∧
        outcome = .ok (campaign.workspace.sessionConfigs before.nextTrace requests) ∧
        after = { before with nextTrace := before.nextTrace + requests.length } := by
  induction requests generalizing before exchanges outcome after with
  | nil => exact run_pure_iff
  | cons request requests induction =>
      have shifted : before.nextTrace + 1 + requests.length =
          before.nextTrace + (request :: requests).length := by
        rw [List.length_cons]
        omega
      have split : campaign.nextSessions (request :: requests) =
          campaign.nextSession request.domain request.events request.snapshot >>= fun config =>
            campaign.nextSessions requests >>= fun configs => pure (config :: configs) :=
        List.mapM_cons
      rw [split, run_bind_iff]
      constructor
      · intro parts
        rcases parts with ⟨_, started, _⟩ | ⟨first, config, middle, second, started, continued, rfl⟩
        · exact absurd (run_next_session_iff.1 started).2.1 (by simp)
        · obtain ⟨rfl, same, rfl⟩ := run_next_session_iff.1 started
          obtain rfl := Except.ok.inj same
          obtain ⟨reached, later, rfl⟩ := run_bind_pure_iff.1 continued
          obtain ⟨rfl, rfl, rfl⟩ := induction.1 later
          rw [shifted]
          exact ⟨rfl, rfl, rfl⟩
      · intro parts
        obtain ⟨rfl, rfl, rfl⟩ := parts
        rw [← shifted]
        exact .inr ⟨[], _, _, [], run_next_session_iff.2 ⟨rfl, rfl, rfl⟩,
          run_bind_pure_iff.2 ⟨_, induction.2 ⟨rfl, rfl, rfl⟩, rfl⟩, rfl⟩

end Requests

/-- Every session of a run has a trace directory of its own, in a scratch space that is named by its
seed. The sessions may be asked for one after the other, with anything, or by a whole campaign, with
its calls in any order and wherever they break off. Fewer are counted than 32 bits can hold. -/
theorem own_traces_of_seed (seed : UInt64) (known : seed ≠ 0) :
    (∀ directory, ∃ workspace : Workspace, workspace.directory = directory ∧
      Course (Workspace.make seed).outcome
        [⟨Host.Request.temporaryDirectory "lttng-ust-bench-", .ok directory⟩] (.ok workspace)) ∧
    ∀ asked workspace, Course (Workspace.make seed).outcome asked (.ok workspace) →
      Workspace.NamedBy seed workspace.sessionName ∧
      ∀ campaign : Campaign, campaign.workspace = workspace →
        (∀ (requests : List SessionRequest) (before : CampaignState),
          requests.length < UInt32.size → before.nextTrace = 0 →
          ∃ configs, workspace.OwnTraces requests configs ∧
            ∀ exchanges outcome after,
              Run (campaign.nextSessions requests) before exchanges outcome after ↔
                exchanges = [] ∧ outcome = .ok configs ∧
                  after = { before with nextTrace := requests.length }) ∧
        ∀ (calls : List CampaignCall) (exchanges : List (Exchange instruments)),
          Course (campaign.life .initial calls) exchanges () →
          (createdSessions exchanges).length < UInt32.size →
          ∃ requests, workspace.OwnTraces requests (createdSessions exchanges) := by
  constructor
  · intro directory
    exact ⟨⟨directory, Workspace.nameOfSeed seed⟩, rfl,
      (Workspace.course_make_iff known).2 ⟨.ok directory, rfl, rfl⟩⟩
  · intro asked workspace made
    obtain ⟨answer, rfl, given⟩ := (Workspace.course_make_iff known).1 made
    have name : workspace.sessionName = Workspace.nameOfSeed seed := by
      cases answer with
      | error cause => contradiction
      | ok directory =>
          obtain rfl := Except.ok.inj given
          rfl
    have named : FileTree.EntryName workspace.sessionName :=
      name ▸ Workspace.entry_name_of_seed seed
    refine ⟨name ▸ Workspace.named_by_name_of_seed seed, ?_⟩
    rintro campaign rfl
    constructor
    · intro requests before few zero
      refine ⟨_, Workspace.own_traces named few, ?_⟩
      intro exchanges outcome after
      rw [run_next_sessions_iff, zero, Nat.zero_add]
    · intro calls exchanges course few
      obtain ⟨requests, created⟩ := created_of_life course
      rw [created] at few ⊢
      refine ⟨requests, Workspace.own_traces named ?_⟩
      simpa [Workspace.sessionConfigs] using few

def seededCampaign : Campaign :=
  { smallCampaign with
    workspace := ⟨"/tmp/lttng-ust-bench-4nKq0w", "bench-8ca40db1-4cea-06d8fc0e8e6b"⟩ }

def twoRequests : List SessionRequest := [⟨.user, ["*"], true⟩, ⟨.kernel, ["x"], false⟩]

def twoConfigs : List SessionConfig :=
  [⟨"bench-8ca40db1-4cea-06d8fc0e8e6b",
      "/tmp/lttng-ust-bench-4nKq0w/bench-8ca40db1-4cea-06d8fc0e8e6b/0", .user, "channel0", ["*"], true⟩,
    ⟨"bench-8ca40db1-4cea-06d8fc0e8e6b",
      "/tmp/lttng-ust-bench-4nKq0w/bench-8ca40db1-4cea-06d8fc0e8e6b/1", .kernel, "channel0", ["x"],
      false⟩]

/-- Two sessions that are asked for, and two of a campaign of which one cannot be stopped and the
other cannot be started. -/
theorem own_traces_of_first_seed :
    (1 : UInt64) ≠ 0 ∧
    Course (Workspace.make 1).outcome
      [⟨Host.Request.temporaryDirectory "lttng-ust-bench-", .ok "/tmp/lttng-ust-bench-4nKq0w"⟩]
      (.ok seededCampaign.workspace) ∧
    Workspace.NamedBy 1 seededCampaign.workspace.sessionName ∧
    (twoRequests.length < UInt32.size ∧
      Run (seededCampaign.nextSessions twoRequests) .initial [] (.ok twoConfigs) ⟨2, []⟩ ∧
      seededCampaign.workspace.OwnTraces twoRequests twoConfigs) ∧
    ∃ requests exchanges, Course (seededCampaign.life .initial [.runSuite, .runSuite]) exchanges () ∧
      (createdSessions exchanges).length = 2 ∧
      seededCampaign.workspace.OwnTraces requests (createdSessions exchanges) := by
  obtain ⟨_, held⟩ := own_traces_of_seed 1 (by decide)
  have name : Workspace.nameOfSeed 1 = "bench-8ca40db1-4cea-06d8fc0e8e6b" := by decide +kernel
  have made : Course (Workspace.make 1).outcome
      [⟨Host.Request.temporaryDirectory "lttng-ust-bench-", .ok "/tmp/lttng-ust-bench-4nKq0w"⟩]
      (.ok seededCampaign.workspace) :=
    (Workspace.course_make_iff (by decide)).2 ⟨_, rfl, by rw [name]; rfl⟩
  obtain ⟨named, traces⟩ := held _ _ made
  obtain ⟨asked, lived⟩ := traces seededCampaign rfl
  have few : twoRequests.length < UInt32.size := by decide
  obtain ⟨configs, own, runs⟩ := asked twoRequests .initial few rfl
  have run : Run (seededCampaign.nextSessions twoRequests) .initial [] (.ok configs) ⟨2, []⟩ :=
    (runs _ _ _).2 ⟨rfl, rfl, rfl⟩
  obtain rfl : configs = twoConfigs := by
    rw [Except.ok.inj (run_next_sessions_iff.1 run).2.1]
    decide +kernel
  have course := course_transcript (Instruments.obey [0x5b, 0x5d] [])
    [.ok (), .ok (), .error .interrupted, .error .interrupted, .ok (), .ok (),
      .error .interrupted] (seededCampaign.life .initial [.runSuite, .runSuite])
  obtain ⟨requests, apart⟩ := lived _ _ course (by decide)
  exact ⟨by decide, made, named, ⟨few, run, own⟩, requests, _, course, by decide, apart⟩

end Campaign

end TraceOverhead
