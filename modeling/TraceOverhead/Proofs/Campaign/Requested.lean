import TraceOverhead.Proofs.Campaign.Reading
import TraceOverhead.Proofs.Campaign.Skipping
/-!
Suites and the passes that are asked for. Every entry of the suite is to be repeated as often as its
group says, the looping benchmarks first, and then the benchmark in the kernel. Main statement: a
suite that ends well made exactly these passes in this order, but for those in the kernel from the
first that failed on; and the first pass in user space that fails is the last thing a suite does.
-/

namespace TraceOverhead

open Dialogue

namespace Campaign

/-- An entry with the numbers of its repetitions. -/
def repeated (count : Nat) (entry : SuiteEntry) : List (SuiteEntry × Nat) :=
  (List.range' 1 count).map fun number => (entry, number)

/-- The passes in user space that a suite is asked for. -/
def requested (campaign : Campaign) : List (SuiteEntry × Nat) :=
  (campaign.suite.filter fun entry => entry.group = .full).flatMap
      (repeated campaign.config.fullPasses) ++
    (campaign.suite.filter fun entry => entry.group = .fast).flatMap
      (repeated campaign.config.fastPasses)

def userDue (campaign : Campaign) (request : SuiteEntry × Nat) : DuePass :=
  .user request.1 request.2 (campaign.config.passes request.1.group)

/-- The runner ran a program, for better or worse. -/
def ran (campaign : Campaign) (arguments : List String) (output : Host.Output) : Exchange host :=
  ⟨Host.Request.run campaign.runner arguments, .ok output⟩

/-- A pass that was made in user space: three runs, of which only the last is in a session, and the
count of that session's trace if there is a reader. -/
inductive UserPassMade (campaign : Campaign) (entry : SuiteEntry) (trace : Nat) :
    List (Exchange instruments) → Pass → Prop
  | made (plain silent traced : Host.Output) (counted : Option UInt64)
      {measurement : UserMeasurement}
      (started : Benchmark.StartedWith entry.benchmark.baseline entry.benchmark.loops
          entry.benchmark.baselineArguments ∧
        Benchmark.StartedWith entry.benchmark.instrumented entry.benchmark.loops
          entry.benchmark.instrumentedArguments)
      (read : counted.isSome = campaign.hasReader)
      (baseline : measurement.baseline.arguments = entry.benchmark.baselineArguments)
      (disabled : measurement.tracingDisabled.arguments = entry.benchmark.instrumentedArguments)
      (enabled : measurement.tracingEnabled.arguments = entry.benchmark.instrumentedArguments) :
      UserPassMade campaign entry trace
        ((campaign.ran entry.benchmark.baselineArguments plain).onHost ::
          (campaign.ran entry.benchmark.instrumentedArguments silent).onHost ::
          (completeSession (campaign.userSession trace)
              [campaign.ran entry.benchmark.instrumentedArguments traced] ++
            (counted.map fun count =>
              reading (campaign.userSession trace).tracePath (.ok count)).toList))
        ⟨entry.name, .user measurement⟩

/-- The passes that were made in user space, each in its turn. -/
inductive UserPasses (campaign : Campaign) : CampaignState → List (SuiteEntry × Nat) →
    List (Exchange instruments) → List Pass → CampaignState → Prop
  | none (state : CampaignState) : UserPasses campaign state [] [] [] state
  | pass {request : SuiteEntry × Nat} {requests : List (SuiteEntry × Nat)}
      {before middle after : CampaignState} {own later : List (Exchange instruments)}
      {pass : Pass} {passes : List Pass}
      (run : Run (campaign.userPass request.1) before own (.ok pass) middle)
      (made : UserPassMade campaign request.1 before.nextTrace own pass)
      (rest : UserPasses campaign middle requests later passes after) :
      UserPasses campaign before (request :: requests) ((campaign.userDue request).turn own ++ later)
        (pass :: passes) after

inductive KernelPasses (campaign : Campaign) (bench : KernelBench) (loops : UInt64) :
    CampaignState → List (Exchange instruments) → List Pass → CampaignState → Prop
  | none (state : CampaignState) : KernelPasses campaign bench loops state [] [] state
  | pass {before middle after : CampaignState} {own later : List (Exchange instruments)}
      {measurement : KernelMeasurement} {passes : List Pass}
      (run : Run (campaign.kernelPass bench loops) before own
        (.ok ⟨"kernel", .kernel measurement⟩) middle)
      (rest : KernelPasses campaign bench loops middle later passes after) :
      KernelPasses campaign bench loops before ((DuePass.kernel bench loops).turn own ++ later)
        (⟨"kernel", .kernel measurement⟩ :: passes) after

/-- What becomes of the benchmark in the kernel in a suite that ends well. Its passes are fewer than
asked for only if the next one failed, and then nothing more is done. -/
inductive KernelShare (campaign : Campaign) : CampaignState → List (Exchange instruments) →
    List Pass → CampaignState → Prop
  | disabled (off : campaign.config.kernelLoops = none ∨ campaign.kernel = none)
      (state : CampaignState) : KernelShare campaign state [] [] state
  | complete {bench : KernelBench} {loops : UInt64} {before after : CampaignState}
      {asked : List (Exchange instruments)} {passes : List Pass}
      (looping : campaign.config.kernelLoops = some loops) (given : campaign.kernel = some bench)
      (made : KernelPasses campaign bench loops before asked passes after)
      (all : passes.length = campaign.config.fullPasses) :
      KernelShare campaign before asked passes after
  | skipped {bench : KernelBench} {loops : UInt64} {before middle after : CampaignState}
      {asked broken : List (Exchange instruments)} {passes : List Pass} {failure : Error}
      (looping : campaign.config.kernelLoops = some loops) (given : campaign.kernel = some bench)
      (made : KernelPasses campaign bench loops before asked passes middle)
      (fewer : passes.length < campaign.config.fullPasses)
      (failed : Run (campaign.kernelPass bench loops) middle broken (.error failure) after)
      (other : failure ≠ .interrupted) :
      KernelShare campaign before
        (asked ++ (DuePass.kernel bench loops).turn (broken ++ [DuePass.skipped failure]))
        passes after

/-- How a turn goes that is the last of its walk: an interrupt is seen before the pass begins, or the
pass fails. -/
inductive LastTurn (campaign : Campaign) (current : DuePass) : CampaignState →
    List (Exchange instruments) → Except Error (List Pass) → CampaignState → Prop
  | stopped (state : CampaignState) :
      LastTurn campaign current state [interruptLook true] (.error .interrupted) state
  | failed {before after : CampaignState} {asked : List (Exchange instruments)} {failure : Error}
      (run : Run (current.measure campaign) before asked (.error failure) after) :
      LastTurn campaign current before
        (current.turn (asked ++ (current.afterFailure failure).1))
        (current.afterFailure failure).2 after

/-- How a suite ends badly, in the turn of a pass in user space or in one of the kernel. All passes
before it were made, and nothing more is asked after it. -/
inductive BadEnd (campaign : Campaign) (before : CampaignState) : List (Exchange instruments) →
    Error → CampaignState → Prop
  | user {done remaining : List (SuiteEntry × Nat)} {request : SuiteEntry × Nat}
      {asked last : List (Exchange instruments)} {passes : List Pass}
      {middle after : CampaignState} {failure : Error}
      (split : campaign.requested = done ++ request :: remaining)
      (made : UserPasses campaign before done asked passes middle)
      (turn : LastTurn campaign (campaign.userDue request) middle last (.error failure) after) :
      BadEnd campaign before (asked ++ last) failure after
  | kernel {bench : KernelBench} {loops : UInt64}
      {asked kernelAsked last : List (Exchange instruments)} {passes kernelPasses : List Pass}
      {middle reached after : CampaignState} {failure : Error}
      (looping : campaign.config.kernelLoops = some loops) (given : campaign.kernel = some bench)
      (made : UserPasses campaign before campaign.requested asked passes middle)
      (kernelMade : KernelPasses campaign bench loops middle kernelAsked kernelPasses reached)
      (fewer : kernelPasses.length < campaign.config.fullPasses)
      (turn : LastTurn campaign (.kernel bench loops) reached last (.error failure) after) :
      BadEnd campaign before (asked ++ (kernelAsked ++ last)) failure after

variable {campaign : Campaign} {before middle after : CampaignState}
  {exchanges asked : List (Exchange instruments)} {passes : List Pass}

section UserPasses

theorem ran_of_course {arguments : List String} {asked : List (Exchange host)}
    {records : List TimingRecord}
    (course : Course (Runner.run campaign.runner arguments).outcome asked (.ok records)) :
    ∃ output, asked = [campaign.ran arguments output] := by
  obtain ⟨reached, running, read⟩ := course_outcome_bind_lift_iff.1 course
  obtain ⟨answer, rfl, rfl⟩ := Host.course_output_iff.1 running
  cases answer with
  | error cause => contradiction
  | ok output => exact ⟨output, rfl⟩

theorem user_pass_made_of_run {entry : SuiteEntry} {pass : Pass}
    (run : Run (campaign.userPass entry) before exchanges (.ok pass) after) :
    UserPassMade campaign entry before.nextTrace exchanges pass := by
  obtain ⟨plainly, base, silently, disabled, session, traced, _, measurement, plain, silent,
    tracing, found, rfl, rfl⟩ := parts_of_user_pass run
  obtain ⟨_, _, _, baselineResult, untracedResult, tracedResult⟩ := totals_of_records found
  have baseline : measurement.baseline.arguments = entry.benchmark.baselineArguments := by
    rw [baselineResult]
  have untraced : measurement.tracingDisabled.arguments = entry.benchmark.instrumentedArguments := by
    rw [untracedResult]
    rfl
  have inSession : measurement.tracingEnabled.arguments = entry.benchmark.instrumentedArguments := by
    rw [tracedResult]
    rfl
  have started := entry.benchmark.started_with_arguments
  obtain ⟨plainOutput, rfl⟩ := ran_of_course plain
  obtain ⟨silentOutput, rfl⟩ := ran_of_course silent
  rcases run_traced_cases tracing with ⟨⟨_, impossible⟩, _⟩ |
    ⟨asked, records, course, ⟨noReader, rfl, _⟩ | ⟨hasReader, count, rfl, same⟩⟩
  · contradiction
  · obtain ⟨tracedOutput, rfl⟩ := ran_of_course course
    rw [← List.append_nil (completeSession _ _)]
    exact .made plainOutput silentOutput tracedOutput none started noReader.symm baseline untraced
      inSession
  · obtain ⟨tracedOutput, rfl⟩ := ran_of_course course
    cases count with
    | error failure => contradiction
    | ok number =>
        exact .made plainOutput silentOutput tracedOutput (some number) started hasReader.symm
          baseline untraced inSession

theorem user_passes_iff {requests : List (SuiteEntry × Nat)} :
    UserPasses campaign before requests asked passes after ↔
      Made campaign before (requests.map campaign.userDue) asked passes after := by
  constructor
  · intro made
    induction made with
    | none state => exact .none state
    | pass run _ _ induction => exact .pass run induction
  · intro made
    induction requests generalizing before asked passes with
    | nil => cases made; exact .none _
    | cons request requests induction =>
        cases made with
        | pass run rest => exact .pass run (user_pass_made_of_run run) (induction rest)

theorem names_of_user_passes {requests : List (SuiteEntry × Nat)}
    (made : UserPasses campaign before requests asked passes after) :
    passes.map Pass.name = requests.map fun request => request.1.name := by
  induction made with
  | none => rfl
  | pass _ made _ induction =>
      cases made
      rw [List.map_cons, List.map_cons, induction]

end UserPasses

section KernelPasses

variable {bench : KernelBench} {loops : UInt64}

theorem kernel_passes_of_made {count : Nat}
    (made : Made campaign before (List.replicate count (.kernel bench loops)) asked passes after) :
    KernelPasses campaign bench loops before asked passes after ∧ passes.length = count := by
  induction count generalizing before asked passes with
  | zero => cases made; exact ⟨.none _, rfl⟩
  | succ count induction =>
      cases made with
      | pass run rest =>
          obtain ⟨others, length⟩ := induction rest
          obtain ⟨measurement, rfl⟩ := kernel_pass_of_run run
          exact ⟨.pass run others, congrArg (· + 1) length⟩

theorem names_of_kernel_passes (made : KernelPasses campaign bench loops before asked passes after) :
    passes.map Pass.name = List.replicate passes.length "kernel" := by
  induction made with
  | none => rfl
  | pass _ _ induction => rw [List.map_cons, List.length_cons, List.replicate_succ, induction]

theorem names_of_kernel_share (share : KernelShare campaign before asked passes after) :
    passes.map Pass.name = List.replicate passes.length "kernel" ∧
      passes.length ≤ campaign.config.fullPasses := by
  cases share with
  | disabled => exact ⟨rfl, Nat.zero_le _⟩
  | complete _ _ made all => exact ⟨names_of_kernel_passes made, all.le⟩
  | skipped _ _ made fewer => exact ⟨names_of_kernel_passes made, fewer.le⟩

end KernelPasses

section Turns

/-- The first passes of a walk are all made, or one of them has the last turn. -/
theorem walk_append_cases {first second : List DuePass} {outcome : Except Error (List Pass)}
    (walk : Walk campaign (first ++ second) before exchanges outcome after) :
    (∃ earlier passes middle rest reached, Made campaign before first earlier passes middle ∧
      Walk campaign second middle rest reached after ∧ exchanges = earlier ++ rest ∧
      outcome = reached.map (passes ++ ·)) ∨
    ∃ done current remaining earlier passes middle last reached,
      first = done ++ current :: remaining ∧ Made campaign before done earlier passes middle ∧
      LastTurn campaign current middle last reached after ∧ exchanges = earlier ++ last ∧
      outcome = reached.map (passes ++ ·) := by
  have unchanged : ∀ outcome : Except Error (List Pass), outcome = outcome.map ([] ++ ·) := by
    intro outcome
    cases outcome <;> rfl
  induction first generalizing before exchanges outcome with
  | nil => exact .inl ⟨[], [], before, exchanges, outcome, .none _, walk, rfl, unchanged _⟩
  | cons current others induction =>
      cases walk with
      | stopped =>
          exact .inr ⟨[], current, others, [], [], _, _, _, rfl, .none _, .stopped _, rfl, rfl⟩
      | failed _ run =>
          exact .inr ⟨[], current, others, [], [], _, _, _, rfl, .none _, .failed run, rfl,
            unchanged _⟩
      | made run walked =>
          rcases induction walked with
            ⟨earlier, passes, middle, rest, reached, made, going, rfl, rfl⟩ |
            ⟨done, last, remaining, earlier, passes, middle, asked, reached, rfl, made, turn, rfl,
              rfl⟩
          · exact .inl ⟨_, _, middle, rest, reached, .pass run made, going,
              (List.append_assoc ..).symm, map_append_cons ..⟩
          · exact .inr ⟨_, last, remaining, _, _, middle, asked, reached, rfl, .pass run made, turn,
              (List.append_assoc ..).symm, map_append_cons ..⟩

end Turns

section Suites

theorem due_eq : campaign.due = campaign.requested.map campaign.userDue ++ campaign.kernelDue := by
  have numbered : ∀ entry, campaign.entryDue entry =
      (repeated (campaign.config.passes entry.group) entry).map campaign.userDue := by
    intro entry
    rw [entryDue, DuePass.repetitions, Nat.sub_self, repeated, List.map_map]
    rfl
  have grouped : ∀ group, (campaign.entries group).flatMap campaign.entryDue =
      ((campaign.entries group).flatMap (repeated (campaign.config.passes group))).map
        campaign.userDue := by
    intro group
    rw [List.map_flatMap]
    apply List.flatMap_congr
    intro entry member
    have same : entry.group = group := by simpa using (List.mem_filter.1 member).2
    rw [numbered, same]
  rw [due, schedule, List.flatMap_append, grouped, grouped, ← List.map_append]
  rfl

theorem kernel_due_cases (campaign : Campaign) :
    ((campaign.config.kernelLoops = none ∨ campaign.kernel = none) ∧ campaign.kernelDue = []) ∨
      ∃ loops bench, campaign.config.kernelLoops = some loops ∧ campaign.kernel = some bench ∧
        campaign.kernelDue = List.replicate campaign.config.fullPasses (.kernel bench loops) := by
  unfold kernelDue
  cases looping : campaign.config.kernelLoops with
  | none => exact .inl ⟨.inl rfl, rfl⟩
  | some loops =>
      cases given : campaign.kernel with
      | none => exact .inl ⟨.inr rfl, rfl⟩
      | some bench => exact .inr ⟨loops, bench, rfl, rfl, rfl⟩

theorem kernel_walk_cases {bench : KernelBench} {loops : UInt64} {count : Nat}
    {outcome : Except Error (List Pass)}
    (walk : Walk campaign (List.replicate count (.kernel bench loops)) before exchanges outcome
      after) :
    ∃ earlier passes middle, KernelPasses campaign bench loops before earlier passes middle ∧
      ((exchanges = earlier ∧ outcome = .ok passes ∧ after = middle ∧ passes.length = count) ∨
        passes.length < count ∧ ∃ last reached,
          LastTurn campaign (.kernel bench loops) middle last reached after ∧
          exchanges = earlier ++ last ∧ outcome = reached.map (passes ++ ·)) := by
  rw [← List.append_nil (List.replicate _ _)] at walk
  rcases walk_append_cases walk with
    ⟨earlier, passes, middle, rest, reached, made, walked, rfl, rfl⟩ |
    ⟨done, current, remaining, earlier, passes, middle, last, reached, split, made, turn, rfl, rfl⟩
  · cases walked
    obtain ⟨kernelMade, length⟩ := kernel_passes_of_made made
    exact ⟨earlier, passes, _, kernelMade, .inl ⟨List.append_nil _,
      congrArg Except.ok (List.append_nil _), rfl, length⟩⟩
  · have members : ∀ due ∈ done ++ current :: remaining, due = .kernel bench loops := by
      rw [← split]
      exact fun due member => (List.mem_replicate.1 member).2
    obtain rfl : current = .kernel bench loops := members _ (by simp)
    have same : done = List.replicate done.length (.kernel bench loops) :=
      List.eq_replicate_iff.2 ⟨rfl, fun due member => members due (by simp [member])⟩
    rw [same] at made
    obtain ⟨kernelMade, length⟩ := kernel_passes_of_made made
    have fewer : passes.length < count := by
      have total := congrArg List.length split
      simp only [List.length_replicate, List.length_append, List.length_cons] at total
      omega
    exact ⟨earlier, passes, middle, kernelMade, .inr ⟨fewer, last, reached, turn, rfl, rfl⟩⟩

theorem kernel_share_of_walk {outcome : Except Error (List Pass)}
    (walk : Walk campaign campaign.kernelDue before exchanges outcome after)
    (ended : outcome = .ok passes) : KernelShare campaign before exchanges passes after := by
  rcases kernel_due_cases campaign with ⟨off, nothing⟩ | ⟨loops, bench, looping, given, due⟩
  · rw [nothing] at walk
    cases walk
    obtain rfl := Except.ok.inj ended
    exact .disabled off _
  · rw [due] at walk
    obtain ⟨earlier, made, middle, kernelMade, whole | ⟨fewer, last, reached, turn, rfl, rfl⟩⟩ :=
      kernel_walk_cases walk
    · obtain ⟨rfl, rfl, rfl, length⟩ := whole
      obtain rfl := Except.ok.inj ended
      exact .complete looping given kernelMade length
    · cases turn with
      | stopped => contradiction
      | @failed _ broken failure run =>
          by_cases same : failure = .interrupted
          · subst same
            contradiction
          · rw [DuePass.after_kernel_failure same] at ended ⊢
            obtain rfl := Except.ok.inj ended
            change KernelShare campaign before _ (made ++ []) after
            rw [List.append_nil]
            exact .skipped looping given kernelMade fewer run same

theorem bad_end_of_kernel_walk {outcome : Except Error (List Pass)} {failure : Error}
    (made : UserPasses campaign before campaign.requested asked passes middle)
    (walk : Walk campaign campaign.kernelDue middle exchanges outcome after)
    (ended : outcome = .error failure) : BadEnd campaign before (asked ++ exchanges) failure after := by
  rcases kernel_due_cases campaign with ⟨off, nothing⟩ | ⟨loops, bench, looping, given, due⟩
  · rw [nothing] at walk
    cases walk
    contradiction
  · rw [due] at walk
    obtain ⟨earlier, _, _, kernelMade, whole | ⟨fewer, last, reached, turn, rfl, rfl⟩⟩ :=
      kernel_walk_cases walk
    · obtain ⟨_, rfl, _⟩ := whole
      contradiction
    · cases reached with
      | ok => contradiction
      | error cause =>
          obtain rfl := Except.error.inj ended
          exact .kernel looping given made kernelMade fewer turn

/-- A suite comes to its passes in the kernel after all of those in user space, or not at all. -/
theorem suite_cases {outcome : Except Error (List Pass)}
    (run : Run campaign.runSuite before exchanges outcome after) :
    (∃ asked passes middle rest reached,
      UserPasses campaign before campaign.requested asked passes middle ∧
      Walk campaign campaign.kernelDue middle rest reached after ∧ exchanges = asked ++ rest ∧
      outcome = reached.map (passes ++ ·)) ∨
    ∃ failure, outcome = .error failure ∧ BadEnd campaign before exchanges failure after := by
  rw [run_suite_eq_take_turns, due_eq] at run
  rcases walk_append_cases (walk_of_run run) with
    ⟨asked, passes, middle, rest, reached, made, walk, rfl, rfl⟩ |
    ⟨done, current, remaining, asked, passes, middle, last, reached, split, made, turn, rfl, rfl⟩
  · exact .inl ⟨asked, passes, middle, rest, reached, user_passes_iff.2 made, walk, rfl, rfl⟩
  · obtain ⟨doneRequests, others, whole, rfl, mapped⟩ := List.map_eq_append_iff.1 split
    obtain ⟨request, remainingRequests, rfl, rfl, rfl⟩ := List.map_eq_cons_iff.1 mapped
    have made := user_passes_iff.2 made
    right
    cases turn with
    | stopped => exact ⟨_, rfl, .user whole made (.stopped _)⟩
    | failed run => exact ⟨_, rfl, .user whole made (.failed run)⟩

/-- The first pass in user space that fails is the last thing a suite does. -/
theorem suite_of_failed_user_pass {done remaining : List (SuiteEntry × Nat)}
    {request : SuiteEntry × Nat} {broken rest : List (Exchange instruments)} {failure : Error}
    {reached : CampaignState} {outcome : Except Error (List Pass)}
    (split : campaign.requested = done ++ request :: remaining)
    (made : UserPasses campaign before done asked passes middle)
    (failed : Run (campaign.userPass request.1) middle broken (.error failure) reached)
    (run : Run campaign.runSuite before (asked ++ (campaign.userDue request).turn (broken ++ rest))
      outcome after) :
    outcome = .error failure ∧ rest = [] ∧ after = reached := by
  -- What was asked and answered fixes how far the walk has come, so the given pass is its last turn.
  rw [run_suite_eq_take_turns, due_eq, split, List.map_append, List.append_assoc] at run
  obtain ⟨ending, walk, rfl⟩ := walk_after_made (user_passes_iff.1 made) (walk_of_run run)
  generalize same : (campaign.userDue request).turn (broken ++ rest) = last at walk
  cases walk with
  | stopped => exact absurd same DuePass.turn_ne_stopped
  | @failed _ _ _ _ asked other run =>
      obtain ⟨rfl, ends, rfl⟩ := run_cut_unique failed run (DuePass.turn_inj same)
      obtain rfl := Except.error.inj ends
      exact ⟨rfl, rfl, rfl⟩
  | @made _ _ _ _ _ asked later pass reached held walked =>
      rw [DuePass.turn_append] at same
      have ends := (run_cut_unique failed held (DuePass.turn_inj same)).2.1
      contradiction

/-- A suite that ends well made every pass in user space as often as it was asked for, in order, and
then those in the kernel up to the first that failed. One that ends badly ends with the failure; and
a pass in user space that fails always ends it so. -/
theorem passes_made_as_requested (campaign : Campaign) {outcome : Except Error (List Pass)}
    (run : Run campaign.runSuite before exchanges outcome after) :
    (∀ passes, outcome = .ok passes →
      ∃ userPasses kernelPasses asked kernelAsked middle,
        passes = userPasses ++ kernelPasses ∧ exchanges = asked ++ kernelAsked ∧
        UserPasses campaign before campaign.requested asked userPasses middle ∧
        KernelShare campaign middle kernelAsked kernelPasses after ∧
        kernelPasses.length ≤ campaign.config.fullPasses ∧
        passes.map Pass.name = campaign.requested.map (fun request => request.1.name) ++
          List.replicate kernelPasses.length "kernel") ∧
    (∀ failure, outcome = .error failure → BadEnd campaign before exchanges failure after) ∧
    ∀ done request remaining asked passes middle broken failure reached rest,
      campaign.requested = done ++ request :: remaining →
      UserPasses campaign before done asked passes middle →
      Run (campaign.userPass request.1) middle broken (.error failure) reached →
      exchanges = asked ++ (campaign.userDue request).turn (broken ++ rest) →
      outcome = .error failure ∧ rest = [] ∧ after = reached := by
  refine ⟨?_, ?_, ?_⟩
  · rintro passes rfl
    rcases suite_cases run with
      ⟨asked, userPasses, middle, rest, reached, made, walk, rfl, ended⟩ | ⟨_, impossible, _⟩
    · cases reached with
      | error failure => contradiction
      | ok kernelPasses =>
          obtain rfl := Except.ok.inj ended
          have share := kernel_share_of_walk walk rfl
          obtain ⟨names, within⟩ := names_of_kernel_share share
          refine ⟨userPasses, kernelPasses, asked, rest, middle, rfl, rfl, made, share, within, ?_⟩
          rw [List.map_append, names_of_user_passes made, names]
    · contradiction
  · rintro failure rfl
    rcases suite_cases run with
      ⟨asked, userPasses, middle, rest, reached, made, walk, rfl, ended⟩ | ⟨_, same, bad⟩
    · cases reached with
      | error other =>
          obtain rfl := Except.error.inj ended
          exact bad_end_of_kernel_walk made walk rfl
      | ok kernelPasses => contradiction
    · obtain rfl := Except.error.inj same
      exact bad
  · rintro done request remaining asked passes middle broken failure reached rest split made failed
      rfl
    exact suite_of_failed_user_pass split made failed run

/-- A benchmark without a loop stands before one that is to be repeated, and there is one in the
kernel. -/
def mixedCampaign : Campaign :=
  { runner := "runner"
    workspace := ⟨"scratch", "bench"⟩
    suite := [⟨"start", .fast, .ofPrograms "plain" "traced"⟩,
      ⟨"loop", .full, (Benchmark.ofPrograms "plain" "traced").withLoops 5⟩]
    config := { Config.ofProfile .quick with fullPasses := 2, fastPasses := 1 }
    hasReader := true
    kernel := some smallKernelBench }

/-- The kernel tells no time, so its benchmark is skipped; and where the runner says nothing that
can be read, the suite fails with its first pass. -/
theorem mixed_suite_as_requested :
    (∃ exchanges passes after userPasses kernelPasses asked kernelAsked middle,
      Run mixedCampaign.runSuite .initial exchanges (.ok passes) after ∧
      passes = userPasses ++ kernelPasses ∧ exchanges = asked ++ kernelAsked ∧
      UserPasses mixedCampaign .initial mixedCampaign.requested asked userPasses middle ∧
      KernelShare mixedCampaign middle kernelAsked kernelPasses after ∧
      passes.map Pass.name = ["loop", "loop", "start"]) ∧
    ∃ request remaining broken rest failure reached outcome after,
      mixedCampaign.requested = request :: remaining ∧
      Run (mixedCampaign.userPass request.1) .initial broken (.error failure) reached ∧
      Run mixedCampaign.runSuite .initial
        ((mixedCampaign.userDue request).turn (broken ++ rest)) outcome after ∧
      outcome = .error failure ∧ rest = [] ∧ after = reached := by
  constructor
  · have run := run_trial (Instruments.obey [0x5b, 0x5d] []) [] mixedCampaign.runSuite .initial
    obtain ⟨first, second, third, ended⟩ : ∃ first second third,
        (trial (Instruments.obey [0x5b, 0x5d] []) [] mixedCampaign.runSuite .initial).2.1 =
          .ok [⟨"loop", first⟩, ⟨"loop", second⟩, ⟨"start", third⟩] := ⟨_, _, _, rfl⟩
    rw [ended] at run
    obtain ⟨userPasses, kernelPasses, asked, kernelAsked, middle, passes, parts, made, share, _⟩ :=
      (passes_made_as_requested mixedCampaign run).1 _ rfl
    exact ⟨_, _, _, userPasses, kernelPasses, asked, kernelAsked, middle, run, passes, parts, made,
      share, rfl⟩
  · have failed := run_trial (Instruments.obey [] []) []
      (mixedCampaign.userPass mixedCampaign.suite[1]) .initial
    have run := run_trial (Instruments.obey [] []) [] mixedCampaign.runSuite .initial
    have ended := (passes_made_as_requested mixedCampaign run).2.2 [] (mixedCampaign.suite[1], 1) _
      [] [] _ _ .json _ [] rfl (.none _) failed rfl
    exact ⟨_, _, _, _, _, _, _, _, rfl, failed, run, ended⟩

end Suites

end Campaign
end TraceOverhead
