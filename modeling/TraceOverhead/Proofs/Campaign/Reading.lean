import TraceOverhead.Proofs.Campaign.Passes
import TraceOverhead.Proofs.Campaign.Requests
import TraceOverhead.Proofs.Campaign.Sessions
/-!
Which traces are read, and when. A session writes its trace until it is destroyed, so a trace that is
read any earlier, or after a step of its session failed, gives a wrong number. Main statement: in
the whole life of a campaign a read directly follows a session of which every step succeeded at
once, and the number read is the one that the pass of this session reports.
-/

namespace TraceOverhead

open Dialogue

/-- The events of a trace are counted, or it is found that they cannot be. -/
def reading (path : String) (count : Except Error UInt64) : Exchange instruments :=
  ⟨Instruments.Request.countEvents path, count⟩

def Unread : Instruments.Request → Prop
  | .countEvents _ => False
  | _ => True

/-- A session every step of which succeeds at once, around what is asked in it. -/
def completeSession (config : SessionConfig) (asked : List (Exchange host)) :
    List (Exchange instruments) :=
  [⟨Instruments.Request.controller (.create config), .ok ()⟩,
    ⟨Instruments.Request.controller (.start config.name), .ok ()⟩,
    ⟨Instruments.Request.host (.log .info (Session.announcement config)), ()⟩] ++
  (asked.map Exchange.onHost ++
    [⟨Instruments.Request.controller (.stop config.name), .ok ()⟩,
      ⟨Instruments.Request.controller (.destroy config.name), .ok ()⟩])

/-- The exchanges end with a complete session in which a benchmark ran well. The session is one in
user space that records to disk, and the path is that of its trace. -/
def EndsComplete (runner path : String) (exchanges : List (Exchange instruments)) : Prop :=
  ∃ earlier config arguments asked records,
    Course (Runner.run runner arguments).outcome asked (.ok records) ∧
      config.tracePath = path ∧ config.snapshot = false ∧ config.domain = .user ∧
      exchanges = earlier ++ completeSession config asked

/-- Whatever is read was complete just before. -/
def ReadsComplete (campaign : Campaign) (exchanges : List (Exchange instruments)) : Prop :=
  ∀ first path count second, exchanges = first ++ reading path count :: second →
    campaign.hasReader = true ∧ EndsComplete campaign.runner path first

namespace Session

variable {config : SessionConfig} {exchanges : List (Exchange instruments)}

theorem course_started (course : Course (start config) exchanges (.ok ())) :
    exchanges = [⟨Instruments.Request.controller (.create config), .ok ()⟩,
      ⟨Instruments.Request.controller (.start config.name), .ok ()⟩,
      ⟨Instruments.Request.host (.log .info (announcement config)), ()⟩] := by
  obtain ⟨created, _, continued, rfl⟩ := course_request_bind_iff.1 course
  cases created with
  | error failure => exact absurd (course_done_iff.1 continued).2 (by simp)
  | ok =>
      obtain ⟨started, _, announced, rfl⟩ := course_request_bind_iff.1 continued
      cases started with
      | error failure =>
          obtain ⟨_, _, _, _, ended, _⟩ := course_bind_iff.1 announced
          exact absurd (course_done_iff.1 ended).2 (by simp)
      | ok =>
          obtain ⟨_, _, ended, rfl⟩ := course_request_bind_iff.1 announced
          rw [(course_done_iff.1 ended).1]
          rfl

theorem course_finished {name : String} (course : Course (finish name) exchanges (.ok ())) :
    exchanges = [⟨Instruments.Request.controller (.stop name), .ok ()⟩,
      ⟨Instruments.Request.controller (.destroy name), .ok ()⟩] := by
  obtain ⟨stopped, _, continued, rfl⟩ := course_request_bind_iff.1 course
  cases stopped with
  | error failure =>
      obtain ⟨_, _, _, _, ended, _⟩ := course_bind_iff.1 continued
      exact absurd (course_done_iff.1 ended).2 (by simp)
  | ok =>
      obtain ⟨destroyed, _, finished, rfl⟩ := course_request_bind_iff.1 continued
      cases destroyed with
      | error failure =>
          obtain ⟨_, _, _, _, ended, _⟩ := course_bind_iff.1 finished
          exact absurd (course_done_iff.1 ended).2 (by simp)
      | ok =>
          rw [(course_done_iff.1 finished).1]

theorem unread_talk (request : Instruments.Request) (talk : Talk config request) :
    Unread request := by
  cases request with
  | countEvents path => contradiction
  | controller | releaseController | host => trivial

end Session

section Reads

variable {campaign : Campaign} {first second exchanges : List (Exchange instruments)}

theorem ends_complete_append {runner path : String} (earlier : List (Exchange instruments))
    (ends : EndsComplete runner path exchanges) :
    EndsComplete runner path (earlier ++ exchanges) := by
  obtain ⟨before, config, arguments, asked, records, ran, parts⟩ := ends
  refine ⟨earlier ++ before, config, arguments, asked, records, ran, ?_⟩
  simpa only [List.append_assoc, List.append_cancel_left_eq] using parts

theorem reads_complete_of_unread (unread : Campaign.Footprint Unread exchanges) :
    ReadsComplete campaign exchanges := by
  intro first path count second split
  have asked := unread (reading path count) (by simp [split])
  exact asked.elim

theorem reads_complete_append (left : ReadsComplete campaign first)
    (right : ReadsComplete campaign second) : ReadsComplete campaign (first ++ second) := by
  intro before path count later split
  rcases List.append_eq_append_iff.1 split with ⟨more, rfl, rest⟩ | ⟨more, rfl, rest⟩
  · obtain ⟨hasReader, ends⟩ := right more path count later rest
    exact ⟨hasReader, ends_complete_append first ends⟩
  · cases more with
    | nil =>
        obtain ⟨hasReader, ends⟩ := right [] path count later rest.symm
        exact ⟨hasReader, by simpa using ends_complete_append before ends⟩
    | cons head more =>
        obtain ⟨rfl, rfl⟩ := List.cons.inj rest
        exact left before path count more rfl

theorem reads_complete_composable (campaign : Campaign) :
    Campaign.Composable (ReadsComplete campaign) where
  empty := reads_complete_of_unread (Campaign.footprint_composable Unread).empty
  append _ _ := reads_complete_append

theorem unread_on_host (asked : List (Exchange host)) :
    Campaign.Footprint Unread (asked.map Exchange.onHost) := by
  intro exchange member
  obtain ⟨inside, _, rfl⟩ := List.mem_map.1 member
  trivial

theorem unread_complete_session (config : SessionConfig) (asked : List (Exchange host)) :
    Campaign.Footprint Unread (completeSession config asked) := by
  apply (Campaign.footprint_composable Unread).append
  · simp [Campaign.Footprint, Unread]
  · apply (Campaign.footprint_composable Unread).append _ _ (unread_on_host asked)
    simp [Campaign.Footprint, Unread]

theorem reading_inj {path other : String} {count given : Except Error UInt64}
    (same : reading path count = reading other given) : path = other ∧ count = given := by
  obtain ⟨request, answer⟩ := Exchange.mk.inj same
  obtain rfl := Instruments.Request.countEvents.inj request
  exact ⟨rfl, eq_of_heq answer⟩

/-- What is unread before one read holds no other. -/
theorem split_of_unread {path other : String} {count given : Except Error UInt64}
    (unread : Campaign.Footprint Unread exchanges)
    (split : exchanges ++ [reading path count] = first ++ reading other given :: second) :
    first = exchanges ∧ path = other ∧ count = given ∧ second = [] := by
  have outside : reading other given ∉ exchanges := fun member => unread _ member
  rcases List.append_eq_append_iff.1 split with ⟨more, rfl, rest⟩ | ⟨more, rfl, rest⟩
  · rcases List.singleton_eq_append_iff.1 rest with ⟨rfl, only⟩ | ⟨_, impossible⟩
    · obtain ⟨same, rfl⟩ := List.cons.inj only
      obtain ⟨rfl, rfl⟩ := reading_inj same
      exact ⟨List.append_nil _, rfl, rfl, rfl⟩
    · contradiction
  · cases more with
    | nil =>
        obtain ⟨same, rfl⟩ := List.cons.inj rest
        obtain ⟨rfl, rfl⟩ := reading_inj same
        exact ⟨(List.append_nil _).symm, rfl, rfl, rfl⟩
    | cons head more =>
        obtain ⟨rfl, _⟩ := List.cons.inj rest
        simp at outside

/-- A read that ends a complete session of its own. -/
theorem reads_complete_of_session {config : SessionConfig} {arguments : List String}
    {asked : List (Exchange host)} {records : List TimingRecord} {count : Except Error UInt64}
    (hasReader : campaign.hasReader = true) (recorded : config.snapshot = false)
    (user : config.domain = .user)
    (ran : Course (Runner.run campaign.runner arguments).outcome asked (.ok records)) :
    ReadsComplete campaign (completeSession config asked ++ [reading config.tracePath count]) := by
  intro first path other second split
  obtain ⟨rfl, rfl, _⟩ := split_of_unread (unread_complete_session config asked) split
  exact ⟨hasReader, [], config, arguments, asked, records, ran, rfl, recorded, user, rfl⟩

end Reads

namespace Campaign

variable {campaign : Campaign} {before after : CampaignState}
  {exchanges : List (Exchange instruments)}

/-- A traced run fails without a read, or goes through a complete session and is then read if there
is a reader. A read that fails is the last thing to be asked. -/
theorem run_traced_cases {runner : String} {arguments : List String} {config : SessionConfig}
    {hasReader : Bool} {outcome : Except Error Runner.TracedRun}
    (run : Run (Runner.runTraced runner arguments config hasReader) before exchanges outcome after) :
    ((∃ failure, outcome = .error failure) ∧ Footprint Unread exchanges) ∨
    ∃ asked records, Course (Runner.run runner arguments).outcome asked (.ok records) ∧
      ((hasReader = false ∧ exchanges = completeSession config asked ∧
          outcome = .ok ⟨records, none⟩) ∨
        (hasReader = true ∧ ∃ count,
          exchanges = completeSession config asked ++ [reading config.tracePath count] ∧
          outcome = count.map fun number => ⟨records, some number⟩)) := by
  have quiet : Abides (Footprint Unread) (Session.during config (ExceptT.mk (liftM
      (Instruments.attemptOnHost (Runner.run runner arguments)).outcome))) := by
    apply footprint_during Session.unread_talk
    intro before exchanges outcome after run
    obtain ⟨asked, _, rfl⟩ := course_on_host_iff.1 (run_instruments_iff.1 run).1
    exact unread_on_host asked
  rcases run_bind_iff.1 run with
    ⟨failure, failed, rfl⟩ | ⟨first, records, middle, rest, measured, continued, rfl⟩
  · exact .inl ⟨⟨failure, rfl⟩, quiet _ _ _ _ failed⟩
  · right
    rcases run_during_cases measured with ⟨_, _, impossible, _⟩ | ⟨_, _, _, _, _, _, _, impossible, _⟩ |
      ⟨begun, asked, ended, value, ending, starting, ran, finishing, same, rfl⟩
    · contradiction
    · contradiction
    cases ending with
    | error failure => contradiction
    | ok =>
        obtain rfl := Except.ok.inj same
        obtain ⟨asked, course, rfl⟩ := course_on_host_iff.1 (run_instruments_iff.1 ran).1
        rw [Session.course_started starting, Session.course_finished finishing]
        refine ⟨asked, records, course, ?_⟩
        cases hasReader with
        | false =>
            obtain ⟨rfl, rfl, rfl⟩ := run_pure_iff.1 continued
            exact .inl ⟨rfl, List.append_nil _, rfl⟩
        | true =>
            obtain ⟨count, counted, rfl⟩ := run_bind_pure_iff.1 continued
            rw [course_request_iff.1 (run_instruments_iff.1 counted).1]
            exact .inr ⟨rfl, count, rfl, rfl⟩

theorem reads_complete_run_traced (arguments : List String) (number : Nat) :
    Abides (ReadsComplete campaign) (Runner.runTraced campaign.runner arguments
      (campaign.userSession number) campaign.hasReader) := by
  intro before exchanges outcome after run
  rcases run_traced_cases run with ⟨_, unread⟩ | ⟨asked, records, ran, ⟨_, rfl, _⟩ | ⟨hasReader, count, rfl, _⟩⟩
  · exact reads_complete_of_unread unread
  · exact reads_complete_of_unread (unread_complete_session _ _)
  · have recorded : (campaign.userSession number).snapshot = false := by
      simp [userSession, Workspace.sessionConfig, hasReader]
    exact reads_complete_of_session hasReader recorded rfl ran

theorem reads_complete_suite (campaign : Campaign) :
    SuiteLaw campaign (ReadsComplete campaign) := by
  have rules := reads_complete_composable campaign
  have hosted : ∀ asked : List (Exchange host),
      ReadsComplete campaign (asked.map Exchange.onHost) :=
    fun asked => reads_complete_of_unread (unread_on_host asked)
  refine { rules with logged := ?_, interrupt := ?_, userPass := ?_, kernelPass := ?_ }
  · intro level message
    exact reads_complete_of_unread (footprint_singleton trivial)
  · intro arrived
    exact reads_complete_of_unread (footprint_singleton trivial)
  · intro entry
    apply abides_user_pass rules
    · intro arguments
      exact abides_attempt fun asked _ _ => hosted asked
    · intro number arguments
      exact reads_complete_run_traced arguments number
  · intro bench loops _
    have timed : Abides (Footprint Unread) (withInserted (bench.benchmark loops)) := by
      intro before exchanges outcome after run
      obtain ⟨inserted, course, _⟩ := run_with_inserted_iff.1 run
      obtain ⟨asked, _, rfl⟩ := course_on_host_iff.1 course
      exact unread_on_host asked
    apply abides_kernel_pass rules
    · intro before exchanges outcome after run
      exact reads_complete_of_unread (timed _ _ _ _ run)
    · exact abides_attempt fun asked _ _ => hosted asked
    · intro number events before exchanges outcome after run
      exact reads_complete_of_unread (footprint_during Session.unread_talk timed _ _ _ _ run)

/-- Only a session in user space writes its trace, and only if there is a reader. -/
def Records (campaign : Campaign) : Instruments.Request → Prop
  | .controller (.create config) =>
    config.snapshot = false ↔ config.domain = .user ∧ campaign.hasReader = true
  | _ => True

theorem allows_records (campaign : Campaign) : Allows campaign (Records campaign) := by
  constructor
  case userTalk =>
    intro number request talk
    fun_cases Records campaign request with
    | case1 config =>
        obtain rfl : config = campaign.userSession number := talk
        simp [userSession, Workspace.sessionConfig]
    | case2 => trivial
  case kernelTalk =>
    intro number events request talk
    fun_cases Records campaign request with
    | case1 config =>
        obtain rfl : config = campaign.kernelSession number events := talk
        simp [kernelSession, Workspace.sessionConfig]
    | case2 => trivial
  case runner | kernel | count | look | log => intros; trivial

theorem totals_of_records {benchmark : Benchmark} {base disabled enabled : List TimingRecord}
    {eventCount : Option UInt64} {measurement : UserMeasurement}
    (measured : UserMeasurement.ofRecords benchmark base disabled enabled eventCount =
      .ok measurement) :
    ∃ baseTotals disabledTotals enabledTotals : Totals,
      measurement.baseline = ⟨benchmark.baselineArguments, baseTotals.start, baseTotals.run⟩ ∧
      measurement.tracingDisabled = .ofTotals benchmark.instrumentedArguments disabledTotals
        baseTotals benchmark.eventCount none ∧
      measurement.tracingEnabled = .ofTotals benchmark.instrumentedArguments enabledTotals
        baseTotals benchmark.eventCount eventCount := by
  unfold UserMeasurement.ofRecords at measured
  obtain ⟨baseTotals, _, measured⟩ := exists_ok_of_bind measured
  obtain ⟨disabledTotals, _, measured⟩ := exists_ok_of_bind measured
  obtain ⟨enabledTotals, _, measured⟩ := exists_ok_of_bind measured
  obtain rfl := Except.ok.inj measured
  exact ⟨baseTotals, disabledTotals, enabledTotals, rfl, rfl, rfl⟩

/-- What a pass in user space says of the events that were counted. If there is a reader, the last
thing that was asked is the count of the pass's own trace. -/
def ReportsCount (campaign : Campaign) (number : Nat) (exchanges : List (Exchange instruments))
    (measurement : UserMeasurement) : Prop :=
  measurement.tracingDisabled.eventCount = none ∧
    (campaign.hasReader = false →
      measurement.tracingEnabled.eventCount = none ∧ Footprint Unread exchanges) ∧
    (campaign.hasReader = true → ∃ count earlier asked,
      measurement.tracingEnabled.eventCount = some count ∧
        exchanges = earlier ++ completeSession (campaign.userSession number) asked ++
          [reading (campaign.userSession number).tracePath (.ok count)])

/-- What a pass in user space that was made consists of. -/
theorem parts_of_user_pass {entry : SuiteEntry} {pass : Pass}
    (run : Run (campaign.userPass entry) before exchanges (.ok pass) after) :
    ∃ plainly base silently disabled session traced start measurement,
      Course (Runner.run campaign.runner entry.benchmark.baselineArguments).outcome plainly
        (.ok base) ∧
      Course (Runner.run campaign.runner entry.benchmark.instrumentedArguments).outcome silently
        (.ok disabled) ∧
      Run (Runner.runTraced campaign.runner entry.benchmark.instrumentedArguments
        (campaign.userSession before.nextTrace) campaign.hasReader) start session (.ok traced)
        after ∧
      UserMeasurement.ofRecords entry.benchmark base disabled traced.records traced.eventCount =
        .ok measurement ∧
      pass = ⟨entry.name, .user measurement⟩ ∧
      exchanges = plainly.map Exchange.onHost ++ (silently.map Exchange.onHost ++ session) := by
  obtain ⟨first, base, _, _, plain, others, rfl⟩ := parts_of_run_bind run
  obtain ⟨second, disabled, _, _, silent, session, rfl⟩ := parts_of_run_bind others
  obtain ⟨_, config, _, _, named, ran, rfl⟩ := parts_of_run_bind session
  obtain ⟨third, traced, _, _, tracing, computed, rfl⟩ := parts_of_run_bind ran
  obtain ⟨_, measurement, _, _, measured, ended, rfl⟩ := parts_of_run_bind computed
  obtain ⟨plainly, plainCourse, rfl, rfl⟩ := course_of_run_attempt plain
  obtain ⟨silently, silentCourse, rfl, rfl⟩ := course_of_run_attempt silent
  obtain ⟨rfl, same, rfl⟩ := run_next_session_iff.1 named
  obtain rfl := Except.ok.inj same
  obtain ⟨rfl, found, rfl⟩ := run_lift_iff.1 measured
  obtain ⟨rfl, same, rfl⟩ := run_pure_iff.1 ended
  obtain rfl := Except.ok.inj same
  refine ⟨plainly, base, silently, disabled, third, traced, _, measurement, plainCourse,
    silentCourse, tracing, found.symm, rfl, ?_⟩
  simp only [List.append_nil, List.nil_append]

theorem reports_count_of_run {entry : SuiteEntry} {pass : Pass}
    (run : Run (campaign.userPass entry) before exchanges (.ok pass) after) :
    ∃ measurement, pass = ⟨entry.name, .user measurement⟩ ∧
      ReportsCount campaign before.nextTrace exchanges measurement := by
  obtain ⟨plainly, base, silently, disabled, session, traced, _, measurement, _, _, tracing, found,
    rfl, rfl⟩ := parts_of_user_pass run
  obtain ⟨_, _, _, _, untraced, inSession⟩ := totals_of_records found
  have untold : measurement.tracingDisabled.eventCount = none := by rw [untraced]; rfl
  have told : measurement.tracingEnabled.eventCount = traced.eventCount := by rw [inSession]; rfl
  refine ⟨measurement, rfl, untold, ?_⟩
  rcases run_traced_cases tracing with ⟨⟨_, impossible⟩, _⟩ |
    ⟨asked, records, _, ⟨noReader, rfl, same⟩ | ⟨hasReader, count, rfl, same⟩⟩
  · contradiction
  · obtain rfl := Except.ok.inj same
    constructor
    · intro _
      refine ⟨told, ?_⟩
      have rules := footprint_composable Unread
      apply rules.append _ _ (unread_on_host plainly)
      exact rules.append _ _ (unread_on_host silently) (unread_complete_session _ asked)
    · intro hasReader
      rw [noReader] at hasReader
      contradiction
  · cases count with
    | error failure => contradiction
    | ok number =>
        obtain rfl := Except.ok.inj same
        constructor
        · intro noReader
          rw [hasReader] at noReader
          contradiction
        · intro _
          refine ⟨number, plainly.map Exchange.onHost ++ silently.map Exchange.onHost, asked, told, ?_⟩
          simp only [List.append_assoc]

theorem kernel_pass_of_run {bench : KernelBench} {loops : UInt64} {pass : Pass}
    (run : Run (campaign.kernelPass bench loops) before exchanges (.ok pass) after) :
    ∃ measurement, pass = ⟨"kernel", .kernel measurement⟩ := by
  obtain ⟨_, base, _, _, _, others, _⟩ := parts_of_run_bind run
  obtain ⟨_, events, _, _, _, session, _⟩ := parts_of_run_bind others
  obtain ⟨_, config, _, _, _, measured, _⟩ := parts_of_run_bind session
  obtain ⟨_, traced, _, _, _, ended, _⟩ := parts_of_run_bind measured
  obtain ⟨_, same, _⟩ := run_pure_iff.1 ended
  exact ⟨_, Except.ok.inj same⟩

theorem result_of_kernel_pass {bench : KernelBench} {loops : UInt64} {pass : Pass}
    (run : Run (campaign.kernelPass bench loops) before exchanges (.ok pass) after) :
    ∃ measurement, pass.result = .kernel measurement := by
  obtain ⟨measurement, rfl⟩ := kernel_pass_of_run run
  exact ⟨measurement, rfl⟩

/-- A read directly follows the session whose trace it reads: between it and any earlier read lies
the whole of that session, so no session is read twice. -/
theorem session_between_reads {first between last : List (Exchange instruments)}
    {path other : String} {count given : Except Error UInt64}
    (reads : ReadsComplete campaign
      (first ++ reading path count :: (between ++ reading other given :: last))) :
    EndsComplete campaign.runner other between := by
  have split : first ++ reading path count :: (between ++ reading other given :: last) =
      ((first ++ [reading path count]) ++ between) ++ reading other given :: last := by simp
  obtain ⟨_, earlier, config, arguments, asked, records, ran, same, recorded, user, whole⟩ :=
    reads _ _ _ _ split
  have outside : reading path count ∉ completeSession config asked :=
    fun member => unread_complete_session config asked _ member
  rcases List.append_eq_append_iff.1 whole with ⟨more, _, rfl⟩ | ⟨more, cut, inside⟩
  · exact ⟨more, config, arguments, asked, records, ran, same, recorded, user, rfl⟩
  · -- The session cannot have begun before the first read, which is no part of it.
    rcases List.eq_nil_or_concat more with rfl | ⟨front, final, rfl⟩
    · exact ⟨[], config, arguments, asked, records, ran, same, recorded, user, by simp [inside]⟩
    · rw [List.concat_eq_append] at cut inside
      rw [← List.append_assoc] at cut
      obtain rfl := List.singleton_inj.1 (List.append_inj_right' cut rfl)
      simp [inside] at outside

/-- Whatever is asked of a campaign and however it is answered, traces are read when they are
complete, and only those of sessions in user space that record to disk; and a pass reports the
number that was read from the trace of its own session. -/
theorem traces_read_when_complete (campaign : Campaign) :
    (∀ calls state exchanges, Course (campaign.life state calls) exchanges () →
      ReadsComplete campaign exchanges ∧
      (∀ first path count between other given last,
        exchanges = first ++ reading path count :: (between ++ reading other given :: last) →
        EndsComplete campaign.runner other between) ∧
      Footprint (Records campaign) exchanges) ∧
    (∀ entry before exchanges pass after,
      Run (campaign.userPass entry) before exchanges (.ok pass) after →
      ∃ measurement, pass = ⟨entry.name, .user measurement⟩ ∧
        ReportsCount campaign before.nextTrace exchanges measurement) ∧
    ∀ before exchanges passes after, Run campaign.runSuite before exchanges (.ok passes) after →
      ∀ pass ∈ passes, ∀ measurement, pass.result = .user measurement →
        ∃ number own, own <:+: exchanges ∧ ReportsCount campaign number own measurement := by
  refine ⟨?_, fun entry before exchanges pass after => reports_count_of_run, ?_⟩
  · intro calls state exchanges course
    have reads : ReadsComplete campaign exchanges := by
      apply law_of_course_life (reads_complete_suite campaign) _ _ calls course
      · intro asked
        exact reads_complete_of_unread (unread_on_host asked)
      · intro state closing closed
        apply reads_complete_of_unread
        exact allowed_of_course closed (asks_close state trivial trivial fun _ => trivial)
    refine ⟨reads, ?_, ?_⟩
    · rintro first path count between other given last rfl
      exact session_between_reads reads
    · apply law_of_course_life (footprint_suite (allows_records campaign)) _ _ calls course
      · intro asked exchange member
        obtain ⟨inside, _, rfl⟩ := List.mem_map.1 member
        trivial
      · intro state closing closed
        exact allowed_of_course closed (asks_close state trivial trivial fun _ => trivial)
  · intro before exchanges passes after run pass member measurement user
    rw [run_suite_eq_take_turns] at run
    obtain ⟨current, start, own, finish, within, made⟩ := run_of_pass (walk_of_run run) rfl member
    cases current with
    | user entry number count =>
        obtain ⟨reported, rfl, reports⟩ := reports_count_of_run made
        obtain rfl := PassResult.user.inj user
        exact ⟨start.nextTrace, own, within, reports⟩
    | kernel bench loops =>
        obtain ⟨other, kernel⟩ := result_of_kernel_pass made
        rw [user] at kernel
        contradiction

/-- One benchmark, run once, the events of which are counted. -/
def countedCampaign : Campaign := { smallCampaign with hasReader := true }

/-- The one trace is read in the life of the campaign, and its pass says what was counted. -/
theorem trace_read_of_counted_campaign :
    (∃ exchanges, Course (countedCampaign.life .initial [.runSuite]) exchanges () ∧
      reading (countedCampaign.workspace.tracePath 0) (.ok 0) ∈ exchanges ∧
      ReadsComplete countedCampaign exchanges ∧ Footprint (Records countedCampaign) exchanges) ∧
    ∃ exchanges pass after, Run countedCampaign.runSuite .initial exchanges (.ok [pass]) after ∧
      ∀ measurement, pass.result = .user measurement →
        ∃ number own, own <:+: exchanges ∧
          ReportsCount countedCampaign number own measurement := by
  constructor
  · have course := course_transcript (Instruments.obey [0x5b, 0x5d] []) []
      (countedCampaign.life .initial [.runSuite])
    obtain ⟨reads, _, records⟩ := (traces_read_when_complete countedCampaign).1 _ _ _ course
    exact ⟨_, course, List.mem_of_getElem? (i := 10) rfl, reads, records⟩
  · have run := run_trial (Instruments.obey [0x5b, 0x5d] []) [] countedCampaign.runSuite .initial
    obtain ⟨pass, ended⟩ : ∃ pass, (trial (Instruments.obey [0x5b, 0x5d] []) []
        countedCampaign.runSuite .initial).2.1 = .ok [pass] := ⟨_, rfl⟩
    rw [ended] at run
    exact ⟨_, pass, _, run,
      (traces_read_when_complete countedCampaign).2.2 _ _ _ _ run pass (List.mem_singleton.2 rfl)⟩

end Campaign

end TraceOverhead
