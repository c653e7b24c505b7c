import TraceOverhead.Proofs.Campaign.Rounds
/-!
Interrupts. An interrupt arrives at some moment of a run and stays, so that no look before the
moment finds it and every look after does. Main statement: wherever in a suite or a sweep the moment
is, what follows belongs to the pass that is under way then, or measures nothing.
-/

namespace TraceOverhead

open Dialogue Hotplug

/-- What a look for an interrupt finds. -/
def look? : Exchange instruments → Option Bool
  | ⟨Instruments.Request.host .interrupted, arrived⟩ => some arrived
  | _ => none

/-- Every look for an interrupt finds the same. -/
def Looks (found : Bool) (exchanges : List (Exchange instruments)) : Prop :=
  ∀ arrived ∈ exchanges.filterMap look?, arrived = found

instance (found : Bool) (exchanges : List (Exchange instruments)) :
    Decidable (Looks found exchanges) :=
  inferInstanceAs (Decidable (∀ arrived ∈ exchanges.filterMap look?, arrived = found))

theorem looks_append_iff {found : Bool} {first second : List (Exchange instruments)} :
    Looks found (first ++ second) ↔ Looks found first ∧ Looks found second := by
  rw [Looks, List.filterMap_append, List.forall_mem_append]
  rfl

/-- An interrupt arrives between two parts of a run. -/
structure Arrives (first second : List (Exchange instruments)) : Prop where
  unseen : Looks false first
  seen : Looks true second

/-- What is asked while nothing is measured: whether an interrupt has arrived, and what it takes to
count and to switch CPUs. -/
def Idle (root : String) : Instruments.Request → Prop
  | .host .interrupted => True
  | .host request => CpuWork root request
  | _ => False

namespace Campaign

/-- What becomes of a suite once an interrupt has arrived and no pass is under way. If a pass is
still due, the look before it ends the suite. -/
inductive Stops : List DuePass → List (Exchange instruments) → List Pass →
    Except Error (List Pass) → Prop
  | finished (passes : List Pass) : Stops [] [] passes (.ok passes)
  | stopped (due : DuePass) (others : List DuePass) (passes : List Pass) :
      Stops (due :: others) [interruptLook true] passes (.error .interrupted)

/-- The moment of a suite at which an interrupt arrives: what was asked until then, what is left of
the pass that is under way, and what comes after that pass. A pass is under way from the look with
which its turn begins. -/
inductive SuiteMoment (campaign : Campaign) (before : CampaignState) : List DuePass →
    Except Error (List Pass) → List (Exchange instruments) → List (Exchange instruments) →
    List (Exchange instruments) → Prop
  /-- No pass is under way. -/
  | between {done remaining : List DuePass} {earlier rest : List (Exchange instruments)}
      {passes : List Pass} {middle : CampaignState} {outcome : Except Error (List Pass)}
      (made : Made campaign before done earlier passes middle)
      (stops : Stops remaining rest passes outcome) :
      SuiteMoment campaign before (done ++ remaining) outcome earlier [] rest
  /-- A pass is under way that will succeed. -/
  | succeeding {done remaining : List DuePass} {current : DuePass}
      {earlier exchanges begun left rest : List (Exchange instruments)}
      {passes : List Pass} {pass : Pass} {middle after : CampaignState}
      {outcome : Except Error (List Pass)}
      (made : Made campaign before done earlier passes middle)
      (run : Run (current.measure campaign) middle exchanges (.ok pass) after)
      (turn : current.turn exchanges = begun ++ left) (started : begun ≠ [])
      (stops : Stops remaining rest (passes ++ [pass]) outcome) :
      SuiteMoment campaign before (done ++ current :: remaining) outcome (earlier ++ begun) left rest
  /-- A pass is under way that will fail. -/
  | failing {done remaining : List DuePass} {current : DuePass}
      {earlier exchanges begun left : List (Exchange instruments)}
      {passes : List Pass} {failure : Error} {middle after : CampaignState}
      {outcome : Except Error (List Pass)}
      (made : Made campaign before done earlier passes middle)
      (run : Run (current.measure campaign) middle exchanges (.error failure) after)
      (turn : current.turn (exchanges ++ (current.afterFailure failure).1) = begun ++ left)
      (started : begun ≠ [])
      (ended : outcome = (current.afterFailure failure).2.map (passes ++ ·)) :
      SuiteMoment campaign before (done ++ current :: remaining) outcome (earlier ++ begun) left []

section Suites

variable {campaign : Campaign} {before after : CampaignState} {due : List DuePass}
  {first second left rest exchanges : List (Exchange instruments)}
  {outcome : Except Error (List Pass)} {passes : List Pass} {root : String}

/-- A turn begins with a look that finds nothing. -/
theorem not_seen_turn {current : DuePass} {asked : List (Exchange instruments)} :
    ¬ Looks true (current.turn asked) := by
  intro seen
  exact Bool.false_ne_true (seen false List.mem_cons_self)

/-- A walk that begins after the interrupt makes no pass. -/
theorem stops_of_walk (walk : Walk campaign due before exchanges outcome after)
    (seen : Looks true exchanges) : Stops due exchanges [] outcome := by
  cases walk with
  | nothing => exact .finished []
  | stopped due others => exact .stopped due others []
  | failed others run => exact absurd seen not_seen_turn
  | made run rest => exact absurd (looks_append_iff.1 seen).1 not_seen_turn

/-- Passes made before do not change that a suite stops. -/
theorem stops_after (earlier : List Pass) (stops : Stops due exchanges passes outcome) :
    Stops due exchanges (earlier ++ passes) (outcome.map (earlier ++ ·)) := by
  cases stops with
  | finished passes => exact .finished _
  | stopped due others passes => exact .stopped due others _

/-- An interrupt that a turn did not see arrives after the look with which the turn begins. -/
theorem started_of_turn {current : DuePass} {asked later : List (Exchange instruments)}
    (split : current.turn asked ++ later = first ++ second) (arrives : Arrives first second) :
    first ≠ [] := by
  rintro rfl
  have seen := arrives.seen
  rw [← List.nil_append second, ← split, looks_append_iff] at seen
  exact not_seen_turn seen.1

/-- The moment is the same if a pass has been made before. -/
theorem suite_moment_cons {made : DuePass} {middle : CampaignState} {pass : Pass}
    (run : Run (made.measure campaign) before exchanges (.ok pass) middle)
    (moment : SuiteMoment campaign middle due outcome first left rest) :
    SuiteMoment campaign before (made :: due) (outcome.map (pass :: ·))
      (made.turn exchanges ++ first) left rest := by
  cases moment with
  | between done stops => exact .between (.pass run done) (stops_after [pass] stops)
  | succeeding done current turn started stops =>
      rw [← List.append_assoc]
      exact .succeeding (.pass run done) current turn started (stops_after [pass] stops)
  | failing done current turn started ended =>
      rw [← List.append_assoc, ended, map_append_cons]
      exact .failing (.pass run done) current turn started rfl

theorem suite_moment_of_walk (walk : Walk campaign due before exchanges outcome after)
    (split : exchanges = first ++ second) (arrives : Arrives first second) :
    ∃ left rest, second = left ++ rest ∧
      SuiteMoment campaign before due outcome first left rest := by
  induction walk generalizing first with
  | nothing state =>
      obtain ⟨rfl, rfl⟩ := List.append_eq_nil_iff.1 split.symm
      exact ⟨[], [], rfl, .between (.none state) (.finished [])⟩
  | stopped due others state =>
      cases first with
      | nil => exact ⟨[], _, split.symm, .between (.none state) (.stopped due others [])⟩
      | cons look rest =>
          obtain ⟨rfl, _⟩ := List.cons.inj split
          exact absurd (arrives.unseen true List.mem_cons_self) (by decide)
  | @failed due others _ _ asked failure run =>
      have started := started_of_turn ((List.append_nil _).trans split) arrives
      have ended : (due.afterFailure failure).2 =
          (due.afterFailure failure).2.map (([] : List Pass) ++ ·) := by
        cases (due.afterFailure failure).2 <;> rfl
      exact ⟨second, [], (List.append_nil second).symm,
        .failing (.none _) run split started ended⟩
  | @made due others _ _ _ asked later pass reached run walk induction =>
      rcases List.append_eq_append_iff.1 split with ⟨begun, rfl, continued⟩ | ⟨left, turn, rfl⟩
      · -- The interrupt arrives after this pass.
        have unseen := (looks_append_iff.1 arrives.unseen).2
        obtain ⟨left, rest, parts, moment⟩ := induction continued ⟨unseen, arrives.seen⟩
        exact ⟨left, rest, parts, suite_moment_cons run moment⟩
      · have started := started_of_turn split arrives
        have seen := (looks_append_iff.1 arrives.seen).2
        have stops := stops_after [pass] (stops_of_walk walk seen)
        exact ⟨left, later, rfl, .succeeding (.none _) run turn started stops⟩

theorem idle_of_stops (stops : Stops due exchanges passes outcome) :
    Footprint (Idle root) exchanges := by
  cases stops with
  | finished passes => exact (footprint_composable _).empty
  | stopped due others passes => exact footprint_singleton trivial

theorem idle_of_suite_moment (moment : SuiteMoment campaign before due outcome first left rest) :
    Footprint (Idle root) rest := by
  cases moment with
  | between made stops => exact idle_of_stops stops
  | succeeding made run turn started stops => exact idle_of_stops stops
  | failing made run turn started ended => exact (footprint_composable _).empty

theorem suite_moment_of_run (run : Run campaign.runSuite before (first ++ second) outcome after)
    (arrives : Arrives first second) :
    ∃ left rest, second = left ++ rest ∧
      SuiteMoment campaign before campaign.due outcome first left rest := by
  rw [run_suite_eq_take_turns] at run
  exact suite_moment_of_walk (walk_of_run run) rfl arrives

end Suites

/-- A part of a sweep: CPUs are counted or switched, or the suite is run. -/
inductive Stage where
  | cpus (asked : List (Exchange host))
  | suite (exchanges : List (Exchange instruments)) (outcome : Except Error (List Pass))

namespace Stage

def exchanges : Stage → List (Exchange instruments)
  | cpus asked => asked.map Exchange.onHost
  | suite exchanges _ => exchanges

/-- The stage is one of a sweep with this outcome. A suite that fails decides what it is. -/
def Fits (campaign : Campaign) (root : String) (outcome : Except Error Results) : Stage → Prop
  | cpus asked => ∀ exchange ∈ asked, CpuWork root exchange.request
  | suite exchanges reached =>
    (∃ before after, Run campaign.runSuite before exchanges reached after) ∧
      ∀ failure, reached = .error failure → outcome = .error failure

/-- What a stage comes to that begins after the interrupt. -/
def Silenced (campaign : Campaign) (root : String) : Stage → Prop
  | cpus asked => ∀ exchange ∈ asked, CpuWork root exchange.request
  | suite exchanges outcome => Stops campaign.due exchanges [] outcome

end Stage

/-- The moment of a sweep at which an interrupt arrives. -/
inductive SweepMoment (campaign : Campaign) (root : String) (outcome : Except Error Results) :
    List (Exchange instruments) → List (Exchange instruments) → List (Exchange instruments) → Prop
  /-- No suite is under way. -/
  | between {earlier later : List Stage}
      (fits : ∀ stage ∈ earlier ++ later, stage.Fits campaign root outcome)
      (silenced : ∀ stage ∈ later, stage.Silenced campaign root) :
      SweepMoment campaign root outcome (earlier.flatMap Stage.exchanges) []
        (later.flatMap Stage.exchanges)
  /-- A suite is under way. -/
  | within {earlier later : List Stage} {begun left rest : List (Exchange instruments)}
      {before : CampaignState} {reached : Except Error (List Pass)}
      (fits : ∀ stage ∈ earlier ++ .suite (begun ++ (left ++ rest)) reached :: later,
        stage.Fits campaign root outcome)
      (moment : SuiteMoment campaign before campaign.due reached begun left rest)
      (silenced : ∀ stage ∈ later, stage.Silenced campaign root) :
      SweepMoment campaign root outcome (earlier.flatMap Stage.exchanges ++ begun) left
        (rest ++ later.flatMap Stage.exchanges)

section Sweeps

variable {campaign : Campaign} {root : String} {before after : CampaignState}
  {first second left rest exchanges : List (Exchange instruments)}
  {outcome : Except Error Results}

def roundStages (round : Round) : List Stage :=
  [.cpus round.setting, .suite round.suite (.ok round.passes)]

theorem exchanges_round_stages (rounds : List Round) :
    (rounds.flatMap roundStages).flatMap Stage.exchanges = rounds.flatMap Round.exchanges := by
  rw [List.flatMap_assoc]
  congr
  funext round
  simp [roundStages, Stage.exchanges, Round.exchanges]

theorem fits_cpus {asked : List (Exchange host)} {α : Type} {dialogue : Dialogue host α}
    {result : α} (course : Course dialogue asked result) (asks : Asks (CpuWork root) dialogue) :
    (Stage.cpus asked).Fits campaign root outcome :=
  allowed_of_course course asks

theorem fits_rounds {count last : Nat} {rounds : List Round}
    (run : Rounds campaign root count before rounds last after) :
    ∀ stage ∈ rounds.flatMap roundStages, stage.Fits campaign root outcome := by
  induction run with
  | none => simp
  | round set run rest induction =>
      rw [List.flatMap_cons, roundStages, List.forall_mem_append, List.forall_mem_cons,
        List.forall_mem_singleton]
      refine ⟨⟨fits_cpus set asks_set_count, ⟨_, _, run⟩, ?_⟩, induction⟩
      intro failure impossible
      contradiction

theorem fits_rounds_end {results : Results} {last : Nat}
    (ended : RoundsEnd campaign root results last before exchanges outcome after) :
    ∃ stages : List Stage, exchanges = stages.flatMap Stage.exchanges ∧
      ∀ stage ∈ stages, stage.Fits campaign root outcome := by
  cases ended with
  | finished => exact ⟨[], rfl, by simp⟩
  | @refused count _ setting failure set =>
      refine ⟨[.cpus (setting ++ [countSkipped (count + 1) failure])], by simp [Stage.exchanges], ?_⟩
      rw [List.forall_mem_singleton]
      have worked := allowed_of_course set asks_set_count
      exact List.forall_mem_append.2 ⟨worked, List.forall_mem_singleton.2 trivial⟩
  | @broken count _ _ setting suite failure set run =>
      refine ⟨[.cpus setting, .suite suite (.error failure)], by simp [Stage.exchanges], ?_⟩
      rw [List.forall_mem_cons, List.forall_mem_singleton]
      refine ⟨fits_cpus set asks_set_count, ⟨_, _, run⟩, ?_⟩
      intro other same
      rw [Except.error.inj same]

theorem cpu_work_of_counted {asked : List (Exchange host)} {count : Nat}
    (counted : Counted root asked count) : ∀ exchange ∈ asked, CpuWork root exchange.request := by
  cases counted with
  | read listing => exact List.forall_mem_singleton.2 (.inl rfl)
  | unread listing threads =>
      rw [List.forall_mem_cons, List.forall_mem_cons, List.forall_mem_singleton]
      exact ⟨.inl rfl, trivial, trivial⟩

/-- Every sweep falls into stages. -/
theorem stages_of_run (run : Run (campaign.sweep root) before exchanges outcome after) :
    ∃ stages : List Stage, exchanges = stages.flatMap Stage.exchanges ∧
      ∀ stage ∈ stages, stage.Fits campaign root outcome := by
  obtain ⟨restoring, parts⟩ := sweep_parts_of_run run
  cases parts with
  | unguarded disabled =>
      rw [sweep, if_neg (by simp [disabled])] at run
      rcases run_bind_iff.1 run with
        ⟨failure, counting, _⟩ | ⟨first, count, middle, suite, counting, measured, rfl⟩
      · obtain ⟨_, _, _, _, impossible, _⟩ := counted_of_run counting
        contradiction
      · obtain ⟨asked, number, counted, rfl, _⟩ := counted_of_run counting
        obtain ⟨reached, held, rfl⟩ := run_bind_pure_iff.1 measured
        refine ⟨[.cpus asked, .suite suite reached], by simp [Stage.exchanges], ?_⟩
        rw [List.forall_mem_cons, List.forall_mem_singleton]
        refine ⟨cpu_work_of_counted counted, ⟨_, _, held⟩, ?_⟩
        rintro failure rfl
        rfl
  | @unread reading _ enabled read =>
      refine ⟨[.cpus reading], by simp [Stage.exchanges], ?_⟩
      rw [List.forall_mem_singleton]
      exact fits_cpus read asks_online
  | @guarded reading _ _ saved _ _ enabled read lowered restored =>
      obtain ⟨rounds, last, middle, ending, steps, ended, rfl⟩ := rounds_of_run_sweep_down lowered
      obtain ⟨stages, rfl, fits⟩ := fits_rounds_end ended
      refine ⟨.cpus reading :: (rounds.flatMap roundStages ++ stages ++ [.cpus restoring]), ?_, ?_⟩
      · rw [List.flatMap_cons, List.flatMap_append, List.flatMap_append, exchanges_round_stages,
          List.flatMap_singleton]
        rfl
      · rw [List.forall_mem_cons, List.forall_mem_append, List.forall_mem_append,
          List.forall_mem_singleton]
        exact ⟨fits_cpus read asks_online, ⟨fits_rounds steps, fits⟩,
          fits_cpus restored (asks_restore saved)⟩

theorem silenced_of_fits {stage : Stage} (fits : stage.Fits campaign root outcome)
    (seen : Looks true stage.exchanges) :
    stage.Silenced campaign root := by
  cases stage with
  | cpus asked => exact fits
  | suite exchanges reached =>
      obtain ⟨⟨before, after, run⟩, _⟩ := fits
      rw [run_suite_eq_take_turns] at run
      exact stops_of_walk (walk_of_run run) seen

theorem silenced_stages {stages : List Stage}
    (fits : ∀ stage ∈ stages, stage.Fits campaign root outcome)
    (seen : Looks true (stages.flatMap Stage.exchanges)) :
    ∀ stage ∈ stages, stage.Silenced campaign root := by
  intro stage member
  apply silenced_of_fits (fits stage member)
  intro arrived found
  apply seen arrived
  obtain ⟨look, asked, same⟩ := List.mem_filterMap.1 found
  exact List.mem_filterMap.2 ⟨look, List.mem_flatMap.2 ⟨stage, member, asked⟩, same⟩

theorem idle_of_cpu_work {request : Host.Request} (work : CpuWork root request) :
    Idle root (.host request) := by
  cases request with
  | interrupted => trivial
  | _ => exact work

theorem idle_of_silenced {stage : Stage} (silenced : stage.Silenced campaign root) :
    Footprint (Idle root) stage.exchanges := by
  cases stage with
  | cpus asked =>
      intro exchange member
      obtain ⟨inside, there, rfl⟩ := List.mem_map.1 member
      exact idle_of_cpu_work (silenced inside there)
  | suite exchanges reached => exact idle_of_stops silenced

theorem idle_of_silenced_stages {stages : List Stage}
    (silenced : ∀ stage ∈ stages, stage.Silenced campaign root) :
    Footprint (Idle root) (stages.flatMap Stage.exchanges) := by
  intro exchange member
  obtain ⟨stage, inside, asked⟩ := List.mem_flatMap.1 member
  exact idle_of_silenced (silenced stage inside) exchange asked

theorem idle_of_sweep_moment (moment : SweepMoment campaign root outcome first left rest) :
    Footprint (Idle root) rest := by
  cases moment with
  | between fits silenced => exact idle_of_silenced_stages silenced
  | within fits moment silenced =>
      exact (footprint_composable _).append _ _ (idle_of_suite_moment moment)
        (idle_of_silenced_stages silenced)

/-- A cut through a sequence of stages goes through one of them, unless it is at the very end. -/
theorem cut_cases {stages : List Stage} (split : stages.flatMap Stage.exchanges = first ++ second) :
    (first = stages.flatMap Stage.exchanges ∧ second = []) ∨
      ∃ earlier current later begun left, stages = earlier ++ current :: later ∧
        current.exchanges = begun ++ left ∧ first = earlier.flatMap Stage.exchanges ++ begun ∧
        second = left ++ later.flatMap Stage.exchanges := by
  induction stages generalizing first with
  | nil =>
      obtain ⟨rfl, rfl⟩ := List.append_eq_nil_iff.1 split.symm
      exact .inl ⟨rfl, rfl⟩
  | cons stage stages induction =>
      rw [List.flatMap_cons] at split
      rcases List.append_eq_append_iff.1 split with ⟨begun, rfl, others⟩ | ⟨left, cut, rfl⟩
      · rcases induction others with
          ⟨rfl, rfl⟩ | ⟨earlier, current, later, begun, left, rfl, cut, rfl, rfl⟩
        · exact .inl ⟨rfl, rfl⟩
        · refine .inr ⟨stage :: earlier, current, later, begun, left, rfl, cut, ?_, rfl⟩
          rw [List.flatMap_cons, List.append_assoc]
      · exact .inr ⟨[], stage, stages, first, left, rfl, cut, rfl, rfl⟩

theorem sweep_moment_of_run (run : Run (campaign.sweep root) before (first ++ second) outcome after)
    (arrives : Arrives first second) :
    ∃ left rest, second = left ++ rest ∧ SweepMoment campaign root outcome first left rest := by
  obtain ⟨stages, split, fits⟩ := stages_of_run run
  rcases cut_cases split.symm with
    ⟨rfl, rfl⟩ | ⟨earlier, current, later, begun, left, rfl, cut, rfl, rfl⟩
  · rw [← List.append_nil stages] at fits
    exact ⟨[], [], rfl, .between fits (by simp)⟩
  · have parts := List.forall_mem_append.1 fits
    have following := List.forall_mem_cons.1 parts.2
    have seen := looks_append_iff.1 arrives.seen
    have silenced := silenced_stages following.2 seen.2
    cases current with
    | cpus asked =>
        -- The moment divides the stage into two of the same kind.
        obtain ⟨asked, others, rfl, rfl, rfl⟩ := List.map_eq_append_iff.1 cut
        have work := List.forall_mem_append.1 following.1
        have divided : ∀ stage ∈ (earlier ++ [.cpus asked]) ++ .cpus others :: later,
            stage.Fits campaign root outcome := by
          rw [List.forall_mem_append, List.forall_mem_append, List.forall_mem_singleton,
            List.forall_mem_cons]
          exact ⟨⟨parts.1, work.1⟩, work.2, following.2⟩
        have moment := SweepMoment.between divided (List.forall_mem_cons.2 ⟨work.2, silenced⟩)
        rw [List.flatMap_append, List.flatMap_singleton] at moment
        exact ⟨[], _, rfl, moment⟩
    | suite exchanges reached =>
        obtain ⟨⟨start, finish, suite⟩, _⟩ := following.1
        obtain rfl : exchanges = begun ++ left := cut
        have unseen := (looks_append_iff.1 arrives.unseen).2
        obtain ⟨left, rest, rfl, moment⟩ := suite_moment_of_run suite ⟨unseen, seen.1⟩
        refine ⟨left, rest ++ later.flatMap Stage.exchanges, List.append_assoc _ _ _, ?_⟩
        exact .within fits moment silenced

/-- Whenever an interrupt arrives, no other pass is begun than the one that is under way. -/
theorem no_pass_begins_after_interrupt (campaign : Campaign) (root : String)
    {before after : CampaignState} {first second : List (Exchange instruments)}
    (arrives : Arrives first second) :
    (∀ outcome, Run campaign.runSuite before (first ++ second) outcome after →
      ∃ left rest, second = left ++ rest ∧
        SuiteMoment campaign before campaign.due outcome first left rest ∧
        Footprint (Idle root) rest) ∧
    ∀ outcome, Run (campaign.sweep root) before (first ++ second) outcome after →
      ∃ left rest, second = left ++ rest ∧ SweepMoment campaign root outcome first left rest ∧
        Footprint (Idle root) rest := by
  constructor
  · intro outcome run
    obtain ⟨left, rest, parts, moment⟩ := suite_moment_of_run run arrives
    exact ⟨left, rest, parts, moment, idle_of_suite_moment moment⟩
  · intro outcome run
    obtain ⟨left, rest, parts, moment⟩ := sweep_moment_of_run run arrives
    exact ⟨left, rest, parts, moment, idle_of_sweep_moment moment⟩

/-- One benchmark, measured twice. -/
def twiceCampaign : Campaign :=
  { idleCampaign with suite := [⟨"basic", .fast, .ofPrograms "plain" "traced"⟩] }

/-- All goes well, and one CPU is listed, until after some requests an interrupt arrives. -/
def interruptedAfter (request : Instruments.Request) (remaining : Nat) :
    Instruments.Answer request × Nat :=
  Instruments.interrupt
    (fun request => (Instruments.obey [0x5b, 0x5d] [0x30, 0x0a] request []).1) request remaining

/-- The interrupt arrives in the first of two passes, of a suite and of a sweep. -/
theorem interrupted_in_first_pass :
    (∃ first second outcome after left rest, Arrives first second ∧
      Run twiceCampaign.runSuite .initial (first ++ second) outcome after ∧
      outcome = .error .interrupted ∧ second = left ++ rest ∧
      SuiteMoment twiceCampaign .initial twiceCampaign.due outcome first left rest ∧
      Footprint (Idle "cpu") rest) ∧
    ∃ first second outcome after left rest, Arrives first second ∧
      Run (twiceCampaign.sweep "cpu") .initial (first ++ second) outcome after ∧
      outcome = .error .interrupted ∧ second = left ++ rest ∧
      SweepMoment twiceCampaign "cpu" outcome first left rest ∧ Footprint (Idle "cpu") rest := by
  constructor
  · have run := run_trial interruptedAfter 3 twiceCampaign.runSuite .initial
    rw [← List.take_append_drop 5 (trial interruptedAfter 3 _ _).1] at run
    have arrives : Arrives ((trial interruptedAfter 3 twiceCampaign.runSuite .initial).1.take 5)
        ((trial interruptedAfter 3 twiceCampaign.runSuite .initial).1.drop 5) :=
      ⟨by decide, by decide⟩
    obtain ⟨left, rest, parts, moment, idle⟩ :=
      (no_pass_begins_after_interrupt twiceCampaign "cpu" arrives).1 _ run
    exact ⟨_, _, _, _, left, rest, arrives, run, rfl, parts, moment, idle⟩
  · have run := run_trial interruptedAfter 7 (twiceCampaign.sweep "cpu") .initial
    rw [← List.take_append_drop 8 (trial interruptedAfter 7 _ _).1] at run
    have arrives : Arrives ((trial interruptedAfter 7 (twiceCampaign.sweep "cpu") .initial).1.take 8)
        ((trial interruptedAfter 7 (twiceCampaign.sweep "cpu") .initial).1.drop 8) :=
      ⟨by decide, by decide⟩
    obtain ⟨left, rest, parts, moment, idle⟩ :=
      (no_pass_begins_after_interrupt twiceCampaign "cpu" arrives).2 _ run
    exact ⟨_, _, _, _, left, rest, arrives, run, rfl, parts, moment, idle⟩

end Sweeps

end Campaign

end TraceOverhead
