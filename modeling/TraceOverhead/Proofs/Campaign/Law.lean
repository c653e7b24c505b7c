import TraceOverhead.Proofs.Campaign.Run
import TraceOverhead.Proofs.Dialogue.Asks
/-!
Laws that the exchanges of a campaign abide by. A law that holds of two runs one after the other if
it holds of each is checked on the parts of a campaign once; that it then holds of whole suites and
sweeps, however often they loop and wherever they break off, is proved here for all such laws. A law
that is also about what a campaign remembers is a relation that its runs follow.
-/

namespace TraceOverhead.Campaign

open Dialogue

/-- Every run of the measurement leads from state to state as the relation says. -/
def Follows {α : Type} (relation : CampaignState → List (Exchange instruments) → CampaignState → Prop)
    (measuring : Measuring α) : Prop :=
  ∀ before exchanges outcome after, Run measuring before exchanges outcome after →
    relation before exchanges after

section Following

variable {α β : Type}
  {relation later : CampaignState → List (Exchange instruments) → CampaignState → Prop}

/-- What has been done when a measurement in two parts breaks off in the first is related already. -/
theorem follows_bind
    (composed : ∀ before first middle second after, relation before first middle →
      later middle second after → relation before (first ++ second) after)
    {measuring : Measuring β} {continuation : β → Measuring α}
    (left : Follows relation measuring) (right : ∀ value, Follows later (continuation value)) :
    Follows relation (measuring >>= continuation) := by
  intro before exchanges outcome after run
  rcases run_bind_iff.1 run with
    ⟨failure, started, _⟩ | ⟨first, value, middle, second, started, continued, rfl⟩
  · exact left _ _ _ _ started
  · exact composed _ _ _ _ _ (left _ _ _ _ started) (right value _ _ _ _ continued)

theorem follows_caught {measuring : Measuring α} (follows : Follows relation measuring) :
    Follows relation (caught measuring) := by
  intro before exchanges outcome after run
  obtain ⟨reached, held, _⟩ := run_caught_iff.1 run
  exact follows _ _ _ _ held

end Following

structure Composable (law : List (Exchange instruments) → Prop) : Prop where
  empty : law []
  append : ∀ first second, law first → law second → law (first ++ second)

/-- Every run of the measurement is within the law, however it ends. -/
def Abides {α : Type} (law : List (Exchange instruments) → Prop) (measuring : Measuring α) :
    Prop :=
  ∀ before exchanges outcome after, Run measuring before exchanges outcome after → law exchanges

section Parts

variable {α β : Type} {law : List (Exchange instruments) → Prop} (rules : Composable law)

include rules

theorem abides_pure (value : α) : Abides law (pure value) := by
  intro before exchanges outcome after run
  rw [(run_pure_iff.1 run).1]
  exact rules.empty

theorem abides_throw (failure : Error) : Abides law (throw failure : Measuring α) := by
  intro before exchanges outcome after run
  rw [(run_throw_iff.1 run).1]
  exact rules.empty

theorem abides_lift (value : Except Error α) : Abides law (liftM value) := by
  intro before exchanges outcome after run
  rw [(run_lift_iff.1 run).1]
  exact rules.empty

theorem abides_bind {measuring : Measuring β} {continuation : β → Measuring α}
    (first : Abides law measuring) (second : ∀ value, Abides law (continuation value)) :
    Abides law (measuring >>= continuation) :=
  follows_bind (fun _ first _ second _ => rules.append first second) first second

omit rules in
/-- The configuration of the next session is one of the workspace's. -/
theorem abides_next_session_bind {campaign : Campaign} {domain : Domain} {events : List String}
    {snapshot : Bool} {continuation : SessionConfig → Measuring α}
    (configured : ∀ number, Abides law
      (continuation (campaign.workspace.sessionConfig number domain events snapshot))) :
    Abides law (campaign.nextSession domain events snapshot >>= continuation) := by
  intro before exchanges outcome after run
  rcases run_bind_iff.1 run with
    ⟨failure, started, _⟩ | ⟨left, config, middle, right, started, continued, rfl⟩
  · exact absurd (run_next_session_iff.1 started).2.1 (by simp)
  · obtain ⟨rfl, same, _⟩ := run_next_session_iff.1 started
    rw [Except.ok.inj same] at continued
    exact configured before.nextTrace _ _ _ _ continued

/-- A traced run is within a law that its session and the count of its events are within. -/
theorem abides_run_traced {runner : String} {arguments : List String} {config : SessionConfig}
    {hasReader : Bool}
    (measured : Abides law (Session.during config
      (ExceptT.mk (liftM (Instruments.attemptOnHost (Runner.run runner arguments)).outcome))))
    (counted : ∀ path answer, law [⟨Instruments.Request.countEvents path, answer⟩]) :
    Abides law (Runner.runTraced runner arguments config hasReader) := by
  apply abides_bind rules measured
  intro records
  split
  · apply abides_bind rules
    · intro before exchanges outcome after run
      rw [course_request_iff.1 (run_instruments_iff.1 run).1]
      exact counted _ _
    · intro count
      exact abides_pure rules _
  · exact abides_pure rules _

/-- A pass in user space is within a law that its three runs are within. -/
theorem abides_user_pass {campaign : Campaign} (entry : SuiteEntry)
    (ran : ∀ arguments, Abides law (attempt (Runner.run campaign.runner arguments)))
    (traced : ∀ number arguments, Abides law (Runner.runTraced campaign.runner arguments
      (campaign.workspace.sessionConfig number .user ["*"] (!campaign.hasReader))
      campaign.hasReader)) :
    Abides law (campaign.userPass entry) := by
  apply abides_bind rules (ran _)
  intro base
  apply abides_bind rules (ran _)
  intro disabled
  apply abides_next_session_bind
  intro number
  apply abides_bind rules (traced number _)
  intro traced
  apply abides_bind rules (abides_lift rules _)
  intro measurement
  exact abides_pure rules _

/-- A pass in the kernel is within a law that its loop, its list of events and its session are
within. -/
theorem abides_kernel_pass {campaign : Campaign} {bench : KernelBench} {loops : UInt64}
    (timed : Abides law (withInserted (bench.benchmark loops)))
    (listed : Abides law (attempt bench.events))
    (measured : ∀ number events, Abides law (Session.during
      (campaign.workspace.sessionConfig number .kernel events true)
      (withInserted (bench.benchmark loops)))) :
    Abides law (campaign.kernelPass bench loops) := by
  apply abides_bind rules timed
  intro base
  apply abides_bind rules listed
  intro events
  apply abides_next_session_bind
  intro number
  apply abides_bind rules (measured number events)
  intro traced
  exact abides_pure rules _

end Parts

section Suites

variable {α : Type} {law : List (Exchange instruments) → Prop}

theorem abides_caught {measuring : Measuring α} (abides : Abides law measuring) :
    Abides law (caught measuring) := follows_caught abides

theorem abides_on_host {dialogue : Dialogue host α}
    (lawful : ∀ asked value, Course dialogue asked value → law (asked.map Exchange.onHost)) :
    Abides law (onHost dialogue) := by
  intro before exchanges outcome after run
  obtain ⟨value, course, _⟩ := run_on_host_iff.1 run
  obtain ⟨asked, held, rfl⟩ := course_on_host_iff.1 course
  exact lawful asked value held

theorem abides_attempt {attempted : Attempt host α}
    (lawful : ∀ asked outcome, Course attempted.outcome asked outcome →
      law (asked.map Exchange.onHost)) :
    Abides law (attempt attempted) := by
  intro before exchanges outcome after run
  obtain ⟨asked, held, rfl⟩ := course_on_host_iff.1 (run_attempt_iff.1 run).1
  exact lawful asked outcome held

/-- What a law has to hold of for it to hold of every suite that the campaign runs. -/
structure SuiteLaw (campaign : Campaign) (law : List (Exchange instruments) → Prop) : Prop
    extends Composable law where
  logged : ∀ level message, law [⟨Instruments.Request.host (.log level message), ()⟩]
  interrupt : ∀ answer, law [⟨Instruments.Request.host .interrupted, answer⟩]
  userPass : ∀ entry, Abides law (campaign.userPass entry)
  kernelPass : ∀ bench loops, campaign.kernel = some bench →
    Abides law (campaign.kernelPass bench loops)

variable {campaign : Campaign} (rules : SuiteLaw campaign law)

include rules

theorem abides_log (level : Host.Level) (message : String) :
    Abides law (onHost (Host.log level message)) := by
  apply abides_on_host
  intro asked answer course
  rw [course_request_iff.1 course]
  exact rules.logged level message

theorem abides_check_interrupted : Abides law checkInterrupted := by
  apply abides_bind rules.toComposable
  · apply abides_on_host
    intro asked answer course
    rw [course_request_iff.1 course]
    exact rules.interrupt answer
  · intro interrupted
    split
    · exact abides_throw rules.toComposable _
    · exact abides_pure rules.toComposable _

theorem abides_repeat_entry (entry : SuiteEntry) (count remaining : Nat) :
    Abides law (campaign.repeatEntry entry count remaining) := by
  induction remaining with
  | zero => exact abides_pure rules.toComposable _
  | succ remaining induction =>
      apply abides_bind rules.toComposable (abides_check_interrupted rules)
      intro _
      apply abides_bind rules.toComposable (abides_log rules _ _)
      intro _
      apply abides_bind rules.toComposable (rules.userPass entry)
      intro pass
      apply abides_bind rules.toComposable induction
      intro passes
      exact abides_pure rules.toComposable _

theorem abides_repeat_entries (entries : List SuiteEntry) :
    Abides law (campaign.repeatEntries entries) := by
  induction entries with
  | nil => exact abides_pure rules.toComposable _
  | cons entry entries induction =>
      apply abides_bind rules.toComposable (abides_repeat_entry rules entry _ _)
      intro first
      apply abides_bind rules.toComposable induction
      intro others
      exact abides_pure rules.toComposable _

theorem abides_kernel_turns {bench : KernelBench} (kernel : campaign.kernel = some bench)
    (loops : UInt64) (count : Nat) :
    Abides law (campaign.kernelTurns bench loops count) := by
  induction count with
  | zero => exact abides_pure rules.toComposable _
  | succ count induction =>
      apply abides_bind rules.toComposable (abides_check_interrupted rules)
      intro _
      apply abides_bind rules.toComposable (abides_caught (rules.kernelPass bench loops kernel))
      intro outcome
      split
      · apply abides_bind rules.toComposable induction
        intro passes
        exact abides_pure rules.toComposable _
      · exact abides_throw rules.toComposable _
      · apply abides_bind rules.toComposable (abides_log rules _ _)
        intro _
        exact abides_pure rules.toComposable _

theorem abides_run_suite : Abides law campaign.runSuite := by
  apply abides_bind rules.toComposable (abides_repeat_entries rules _)
  intro passes
  cases campaign.config.kernelLoops with
  | none => exact abides_pure rules.toComposable _
  | some loops =>
      cases kernel : campaign.kernel with
      | none => exact abides_pure rules.toComposable _
      | some bench =>
          apply abides_bind rules.toComposable (abides_kernel_turns rules kernel loops _)
          intro kernelPasses
          exact abides_pure rules.toComposable _

theorem abides_sweep_down {cpuRoot : String}
    (counts : ∀ count, Abides law (attempt (Hotplug.setCount cpuRoot count))) (count : Nat)
    (results : Results) : Abides law (campaign.sweepDown cpuRoot count results) := by
  induction count generalizing results with
  | zero => exact abides_pure rules.toComposable _
  | succ count induction =>
      apply abides_bind rules.toComposable (abides_caught (counts (count + 1)))
      intro outcome
      cases outcome with
      | error failure =>
          apply abides_bind rules.toComposable (abides_log rules _ _)
          intro _
          exact abides_pure rules.toComposable _
      | ok =>
          apply abides_bind rules.toComposable (abides_run_suite rules)
          intro passes
          exact induction _

/-- A law that what is done to the CPUs is within holds of whole sweeps. -/
theorem abides_sweep {cpuRoot : String} (listed : Abides law (attempt (Hotplug.online cpuRoot)))
    (counts : ∀ count, Abides law (attempt (Hotplug.setCount cpuRoot count)))
    (restored : ∀ saved, Abides law (onHost (Hotplug.restore cpuRoot saved)))
    (counted : Abides law (currentCount cpuRoot)) : Abides law (campaign.sweep cpuRoot) := by
  unfold sweep
  split
  · apply abides_bind rules.toComposable listed
    intro saved
    apply abides_bind rules.toComposable (abides_caught (abides_sweep_down rules counts _ _))
    intro outcome
    apply abides_bind rules.toComposable (restored saved)
    intro _
    exact abides_lift rules.toComposable outcome
  · apply abides_bind rules.toComposable counted
    intro count
    apply abides_bind rules.toComposable (abides_run_suite rules)
    intro passes
    exact abides_pure rules.toComposable _

theorem abides_sweep_of_hosted
    (hosted : ∀ asked : List (Exchange host), law (asked.map Exchange.onHost))
    (cpuRoot : String) : Abides law (campaign.sweep cpuRoot) := by
  have attempts : ∀ {β : Type} (attempted : Attempt host β), Abides law (attempt attempted) := by
    intro β attempted
    exact abides_attempt fun asked _ _ => hosted asked
  have dialogues : ∀ {β : Type} (dialogue : Dialogue host β), Abides law (onHost dialogue) := by
    intro β dialogue
    exact abides_on_host fun asked _ _ => hosted asked
  apply abides_sweep rules (attempts _) (fun count => attempts _) (fun saved => dialogues _)
  apply abides_bind rules.toComposable (abides_caught (attempts _))
  intro outcome
  cases outcome with
  | ok count => exact abides_pure rules.toComposable _
  | error failure =>
      apply abides_bind rules.toComposable (dialogues _)
      intro _
      exact dialogues _

/-- A law of every sweep that is asked for holds of whatever is asked of a campaign. -/
theorem law_of_perform_all {calls : List CampaignCall}
    (swept : ∀ cpuRoot, .sweep cpuRoot ∈ calls → Abides law (campaign.sweep cpuRoot))
    {state final : CampaignState} {exchanges : List (Exchange instruments)}
    (course : Course (campaign.performAll state calls) exchanges final) : law exchanges := by
  induction calls generalizing state exchanges with
  | nil =>
      obtain ⟨rfl, _⟩ := course_done_iff.1 course
      exact rules.empty
  | cons call calls induction =>
      obtain ⟨first, next, second, performed, rest, rfl⟩ := course_bind_iff.1 course
      apply rules.append first second _ (induction (fun root later => swept root (.tail _ later)) rest)
      cases call with
      | userPass entry =>
          obtain ⟨outcome, run⟩ := course_concluded_iff.1 performed
          exact rules.userPass entry _ _ _ _ run
      | runSuite =>
          obtain ⟨outcome, run⟩ := course_concluded_iff.1 performed
          exact abides_run_suite rules _ _ _ _ run
      | sweep cpuRoot =>
          obtain ⟨outcome, run⟩ := course_concluded_iff.1 performed
          exact swept cpuRoot (.head _) _ _ _ _ run

/-- Whatever is asked of a campaign, a law that leaves the operating system free holds of all that
comes before the closing. -/
theorem exists_closing_of_course_life
    (hosted : ∀ asked : List (Exchange host), law (asked.map Exchange.onHost))
    (calls : List CampaignCall) {state : CampaignState}
    {exchanges : List (Exchange instruments)} {done : Unit}
    (course : Course (campaign.life state calls) exchanges done) :
    ∃ first closing final, law first ∧ Course (campaign.close final) closing done ∧
      exchanges = first ++ closing := by
  rw [life_eq_perform_all] at course
  obtain ⟨first, final, closing, performed, closed, rfl⟩ := course_bind_iff.1 course
  have swept := abides_sweep_of_hosted rules hosted
  exact ⟨first, closing, final, law_of_perform_all rules (fun root _ => swept root) performed, closed, rfl⟩

/-- A law that leaves the operating system free and holds of the closing holds of the whole life. -/
theorem law_of_course_life
    (hosted : ∀ asked : List (Exchange host), law (asked.map Exchange.onHost))
    (closed : ∀ state exchanges, Course (campaign.close state) exchanges () → law exchanges)
    (calls : List CampaignCall) {state : CampaignState} {exchanges : List (Exchange instruments)}
    (course : Course (campaign.life state calls) exchanges ()) : law exchanges := by
  obtain ⟨first, closing, final, lawful, ending, rfl⟩ :=
    exists_closing_of_course_life rules hosted calls course
  exact rules.append first closing lawful (closed final closing ending)

end Suites

section Footprints

variable {α : Type} {allowed : Instruments.Request → Prop}
  {exchanges : List (Exchange instruments)}

/-- Nothing is asked but what is allowed. -/
def Footprint (allowed : Instruments.Request → Prop) (exchanges : List (Exchange instruments)) :
    Prop :=
  ∀ exchange ∈ exchanges, allowed exchange.request

theorem footprint_composable (allowed : Instruments.Request → Prop) :
    Composable (Footprint allowed) := by
  constructor
  · intro exchange impossible
    contradiction
  · intro first second left right exchange member
    rcases List.mem_append.1 member with before | after
    · exact left exchange before
    · exact right exchange after

theorem footprint_singleton {exchange : Exchange instruments} (fine : allowed exchange.request) :
    Footprint allowed [exchange] := by
  intro other member
  rw [List.mem_singleton.1 member]
  exact fine

theorem footprint_on_host {dialogue : Dialogue host α} {result : α}
    (course : Course (Instruments.onHost dialogue) exchanges result)
    (asks : Asks (fun request : Host.Request => allowed (.host request)) dialogue) :
    Footprint allowed exchanges :=
  allowed_of_course course (asks_on_host asks)

theorem footprint_attempt {attempted : Attempt host α}
    (asks : Asks (fun request : Host.Request => allowed (.host request)) attempted.outcome) :
    Abides (Footprint allowed) (attempt attempted) := by
  intro before exchanges outcome after run
  exact footprint_on_host (run_attempt_iff.1 run).1 asks

theorem footprint_dialogue {dialogue : Dialogue host α}
    (asks : Asks (fun request : Host.Request => allowed (.host request)) dialogue) :
    Abides (Footprint allowed) (onHost dialogue) := by
  intro before exchanges outcome after run
  obtain ⟨value, course, _⟩ := run_on_host_iff.1 run
  exact footprint_on_host course asks

theorem footprint_with_inserted {dialogue : Inserted → Dialogue host (Inserted × Except Error α)}
    (asks : ∀ inserted,
      Asks (fun request : Host.Request => allowed (.host request)) (dialogue inserted)) :
    Abides (Footprint allowed) (withInserted dialogue) := by
  intro before exchanges outcome after run
  obtain ⟨inserted, course, _⟩ := run_with_inserted_iff.1 run
  exact footprint_on_host course (asks _)

end Footprints

end TraceOverhead.Campaign
