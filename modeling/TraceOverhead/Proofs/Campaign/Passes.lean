import TraceOverhead.Proofs.Campaign.Run
/-!
Suites as lists of the passes that are due. The repetitions of all entries and then of the loop in
the kernel are one walk over such a list, in which every pass has its turn: it begins unless an
interrupt has arrived by then. Main statements: a suite is the walk over its passes, and the runs
of a walk are known from those of its first turn and of the rest.
-/

namespace TraceOverhead

open Dialogue

/-- A pass that a suite has still to make. -/
inductive DuePass where
  | user (entry : SuiteEntry) (number count : Nat)
  | kernel (bench : KernelBench) (loops : UInt64)

/-- Whether an interrupt has arrived is looked at, and this is found. -/
def interruptLook (arrived : Bool) : Exchange instruments :=
  ⟨Instruments.Request.host .interrupted, arrived⟩

namespace DuePass

def measure (campaign : Campaign) : DuePass → Measuring Pass
  | .user entry _ _ => campaign.userPass entry
  | .kernel bench loops => campaign.kernelPass bench loops

def announced : DuePass → List (Exchange instruments)
  | .user entry number count =>
    [⟨Instruments.Request.host (.log .info (Campaign.announcement entry number count)), ()⟩]
  | .kernel .. => []

/-- The turn of a pass that begins, with what is asked in it. -/
def turn (due : DuePass) (asked : List (Exchange instruments)) : List (Exchange instruments) :=
  interruptLook false :: (due.announced ++ asked)

def skipped (failure : Error) : Exchange instruments :=
  ⟨Instruments.Request.host
    (.log .warn ("failed to run kernel benchmark, skipping: " ++ failure.message)), ()⟩

/-- What is still said after a pass that failed, and what becomes of the suite. -/
def afterFailure : DuePass → Error → List (Exchange instruments) × Except Error (List Pass)
  | .user .., failure => ([], .error failure)
  | .kernel .., .interrupted => ([], .error .interrupted)
  | .kernel .., failure => ([skipped failure], .ok [])

theorem after_kernel_failure {bench : KernelBench} {loops : UInt64} {failure : Error}
    (other : failure ≠ .interrupted) :
    (kernel bench loops).afterFailure failure = ([skipped failure], .ok []) := by
  cases failure with
  | interrupted => contradiction
  | tracing | spawn | commandFailed | json | missingField | cpu | traceNotReady | io => rfl

/-- The repetitions of an entry, of which only the last `remaining` are due. -/
def repetitions (entry : SuiteEntry) (count remaining : Nat) : List DuePass :=
  (List.range' (count - remaining + 1) remaining).map fun number => .user entry number count

theorem repetitions_succ (entry : SuiteEntry) {count remaining : Nat} (within : remaining < count) :
    repetitions entry count (remaining + 1) =
      .user entry (count - remaining) count :: repetitions entry count remaining := by
  have first : count - (remaining + 1) + 1 = count - remaining := by omega
  rw [repetitions, repetitions, first, List.range'_succ, List.map_cons]

end DuePass

namespace Campaign

def kernelDue (campaign : Campaign) : List DuePass :=
  match campaign.config.kernelLoops, campaign.kernel with
  | some loops, some bench => List.replicate campaign.config.fullPasses (.kernel bench loops)
  | _, _ => []

def entryDue (campaign : Campaign) (entry : SuiteEntry) : List DuePass :=
  let count := campaign.config.passes entry.group
  DuePass.repetitions entry count count

/-- All passes of a suite, in order. -/
def due (campaign : Campaign) : List DuePass :=
  campaign.schedule.flatMap campaign.entryDue ++ campaign.kernelDue

/-- Makes one pass after the other. A pass in the kernel that fails ends the walk early but not
badly. -/
def takeTurns (campaign : Campaign) : List DuePass → Measuring (List Pass)
  | [] => pure []
  | .user entry number count :: due => do
    checkInterrupted
    onHost (Host.info (announcement entry number count))
    let pass ← campaign.userPass entry
    let passes ← campaign.takeTurns due
    return pass :: passes
  | .kernel bench loops :: due => do
    checkInterrupted
    match ← caught (campaign.kernelPass bench loops) with
    | .ok pass => do
      let passes ← campaign.takeTurns due
      return pass :: passes
    | .error .interrupted => throw .interrupted
    | .error failure => do
      onHost (Host.warn ("failed to run kernel benchmark, skipping: " ++ failure.message))
      return []

variable {campaign : Campaign}

section Walks

theorem take_turns_repetitions (entry : SuiteEntry) {count remaining : Nat}
    (within : remaining ≤ count) (due : List DuePass) :
    campaign.takeTurns (DuePass.repetitions entry count remaining ++ due) = do
      let first ← campaign.repeatEntry entry count remaining
      let others ← campaign.takeTurns due
      return first ++ others := by
  induction remaining with
  | zero => simp [DuePass.repetitions, repeatEntry]
  | succ remaining induction =>
      rw [DuePass.repetitions_succ entry within, List.cons_append, takeTurns,
        induction (Nat.le_of_succ_le within), repeatEntry]
      simp only [bind_assoc, pure_bind, List.cons_append]

theorem take_turns_entries (entries : List SuiteEntry) (due : List DuePass) :
    campaign.takeTurns (entries.flatMap campaign.entryDue ++ due) = do
      let first ← campaign.repeatEntries entries
      let others ← campaign.takeTurns due
      return first ++ others := by
  induction entries with
  | nil => simp [repeatEntries]
  | cons entry entries induction =>
      rw [List.flatMap_cons, List.append_assoc, entryDue, take_turns_repetitions entry (Nat.le_refl _),
        induction, repeatEntries]
      simp only [bind_assoc, pure_bind, List.append_assoc]

theorem take_turns_kernel (bench : KernelBench) (loops : UInt64) (count : Nat) :
    campaign.takeTurns (List.replicate count (.kernel bench loops)) =
      campaign.kernelTurns bench loops count := by
  induction count with
  | zero => rfl
  | succ count induction =>
      rw [List.replicate_succ, takeTurns, induction]
      rfl

/-- A suite is the walk over the passes that are due. -/
theorem run_suite_eq_take_turns : campaign.runSuite = campaign.takeTurns campaign.due := by
  rw [due, take_turns_entries, kernelDue, runSuite]
  congr
  funext passes
  cases campaign.config.kernelLoops with
  | none => simp [takeTurns]
  | some loops =>
      cases campaign.kernel with
      | none => simp [takeTurns]
      | some bench => rw [take_turns_kernel]

end Walks

/-- The ways in which a walk over passes can go. -/
inductive Walk (campaign : Campaign) : List DuePass → CampaignState →
    List (Exchange instruments) → Except Error (List Pass) → CampaignState → Prop
  | nothing (state : CampaignState) : Walk campaign [] state [] (.ok []) state
  | stopped (due : DuePass) (others : List DuePass) (state : CampaignState) :
      Walk campaign (due :: others) state [interruptLook true] (.error .interrupted) state
  | failed {due : DuePass} (others : List DuePass) {before after : CampaignState}
      {exchanges : List (Exchange instruments)} {failure : Error}
      (run : Run (due.measure campaign) before exchanges (.error failure) after) :
      Walk campaign (due :: others) before (due.turn (exchanges ++ (due.afterFailure failure).1))
        (due.afterFailure failure).2 after
  | made {due : DuePass} {others : List DuePass} {before middle after : CampaignState}
      {exchanges later : List (Exchange instruments)} {pass : Pass}
      {outcome : Except Error (List Pass)}
      (run : Run (due.measure campaign) before exchanges (.ok pass) middle)
      (rest : Walk campaign others middle later outcome after) :
      Walk campaign (due :: others) before (due.turn exchanges ++ later)
        (outcome.map (pass :: ·)) after

/-- Passes that were made, one after the other. -/
inductive Made (campaign : Campaign) : CampaignState → List DuePass →
    List (Exchange instruments) → List Pass → CampaignState → Prop
  | none (state : CampaignState) : Made campaign state [] [] [] state
  | pass {due : DuePass} {others : List DuePass} {before middle after : CampaignState}
      {exchanges later : List (Exchange instruments)} {pass : Pass} {passes : List Pass}
      (run : Run (due.measure campaign) before exchanges (.ok pass) middle)
      (rest : Made campaign middle others later passes after) :
      Made campaign before (due :: others) (due.turn exchanges ++ later) (pass :: passes) after

section Turns

variable {due : DuePass} {others : List DuePass} {before after : CampaignState}
  {exchanges : List (Exchange instruments)} {outcome : Except Error (List Pass)}

theorem map_append_cons (pass : Pass) (passes : List Pass) :
    (outcome.map (passes ++ ·)).map (pass :: ·) = outcome.map (pass :: passes ++ ·) := by
  cases outcome <;> rfl

theorem run_check_interrupted_bind_iff {α : Type} {continuation : Unit → Measuring α}
    {outcome : Except Error α} :
    Run (checkInterrupted >>= continuation) before exchanges outcome after ↔
      (exchanges = [interruptLook true] ∧ outcome = .error .interrupted ∧ after = before) ∨
      ∃ rest, Run (continuation ()) before rest outcome after ∧
        exchanges = interruptLook false :: rest := by
  rw [checkInterrupted, bind_assoc, run_on_host_bind_iff]
  constructor
  · intro parts
    obtain ⟨asked, arrived, rest, looked, continued, rfl⟩ := parts
    rw [course_request_iff.1 looked]
    cases arrived with
    | true =>
        rcases run_bind_iff.1 continued with ⟨failure, stopped, rfl⟩ | ⟨_, _, _, _, impossible, _⟩
        · obtain ⟨rfl, same, rfl⟩ := run_throw_iff.1 stopped
          obtain rfl := Except.error.inj same
          exact .inl ⟨rfl, rfl, rfl⟩
        · exact absurd (run_throw_iff.1 impossible).2.1 (by simp)
    | false => exact .inr ⟨rest, continued, rfl⟩
  · intro parts
    rcases parts with ⟨rfl, rfl, rfl⟩ | ⟨rest, continued, rfl⟩
    · exact ⟨_, true, [], course_request_iff.2 rfl,
        run_bind_iff.2 (.inl ⟨_, run_throw_iff.2 ⟨rfl, rfl, rfl⟩, rfl⟩), rfl⟩
    · exact ⟨_, false, rest, course_request_iff.2 rfl, continued, rfl⟩

/-- A step that makes something of a value without asking. -/
theorem run_bind_pure_iff {α β : Type} {measuring : Measuring α} {finish : α → β}
    {outcome : Except Error β} :
    Run (measuring >>= fun value => pure (finish value)) before exchanges outcome after ↔
      ∃ reached, Run measuring before exchanges reached after ∧ outcome = reached.map finish := by
  rw [run_bind_iff]
  constructor
  · intro parts
    rcases parts with ⟨failure, stopped, rfl⟩ | ⟨first, value, middle, second, held, ended, rfl⟩
    · exact ⟨.error failure, stopped, rfl⟩
    · obtain ⟨rfl, rfl, rfl⟩ := run_pure_iff.1 ended
      rw [List.append_nil]
      exact ⟨.ok value, held, rfl⟩
  · intro parts
    obtain ⟨reached, held, rfl⟩ := parts
    cases reached with
    | error failure => exact .inl ⟨failure, held, rfl⟩
    | ok value =>
        exact .inr ⟨exchanges, value, after, [], held, run_pure_iff.2 ⟨rfl, rfl, rfl⟩,
          (List.append_nil exchanges).symm⟩

theorem run_log_bind_iff {α : Type} {level : Host.Level} {message : String}
    {continuation : Unit → Measuring α} {outcome : Except Error α} :
    Run (onHost (Host.log level message) >>= continuation) before exchanges outcome after ↔
      ∃ rest, Run (continuation ()) before rest outcome after ∧
        exchanges = ⟨Instruments.Request.host (.log level message), ()⟩ :: rest := by
  rw [run_on_host_bind_iff]
  constructor
  · intro parts
    obtain ⟨asked, _, rest, logged, continued, rfl⟩ := parts
    rw [course_request_iff.1 logged]
    exact ⟨rest, continued, rfl⟩
  · intro parts
    obtain ⟨rest, continued, rfl⟩ := parts
    exact ⟨_, (), rest, course_request_iff.2 rfl, continued, rfl⟩

theorem walk_of_run {due : List DuePass}
    (run : Run (campaign.takeTurns due) before exchanges outcome after) :
    Walk campaign due before exchanges outcome after := by
  induction due generalizing before exchanges outcome with
  | nil =>
      obtain ⟨rfl, rfl, rfl⟩ := run_pure_iff.1 run
      exact .nothing _
  | cons due others induction =>
      cases due with
      | user entry number count =>
          rw [takeTurns, run_check_interrupted_bind_iff] at run
          rcases run with ⟨rfl, rfl, rfl⟩ | ⟨rest, begun, rfl⟩
          · exact .stopped _ _ _
          · obtain ⟨rest, announced, rfl⟩ := run_log_bind_iff.1 begun
            rcases run_bind_iff.1 announced with
              ⟨failure, failed, rfl⟩ | ⟨first, pass, middle, later, held, continued, rfl⟩
            · have walk : Walk campaign (.user entry number count :: others) before _ _ after :=
                .failed others failed
              simpa [DuePass.turn, DuePass.announced, DuePass.afterFailure] using walk
            · obtain ⟨reached, walked, rfl⟩ := run_bind_pure_iff.1 continued
              have walk : Walk campaign (.user entry number count :: others) before _ _ after :=
                .made held (induction walked)
              exact walk
      | kernel bench loops =>
          rw [takeTurns, run_check_interrupted_bind_iff] at run
          rcases run with ⟨rfl, rfl, rfl⟩ | ⟨rest, begun, rfl⟩
          · exact .stopped _ _ _
          · obtain ⟨first, reached, middle, later, held, continued, rfl⟩ :=
              run_caught_bind_iff.1 begun
            cases reached with
            | ok pass =>
                obtain ⟨reached, walked, rfl⟩ := run_bind_pure_iff.1 continued
                have walk : Walk campaign (.kernel bench loops :: others) before _ _ after :=
                  .made held (induction walked)
                exact walk
            | error failure =>
                have failed : Walk campaign (.kernel bench loops :: others) before _ _ middle :=
                  .failed others held
                by_cases same : failure = .interrupted
                · subst same
                  obtain ⟨rfl, rfl, rfl⟩ := run_throw_iff.1 continued
                  exact failed
                · have ended : Run (onHost (Host.warn ("failed to run kernel benchmark, skipping: " ++
                      failure.message)) >>= fun _ => pure []) middle later outcome after := by
                    cases failure with
                    | interrupted => contradiction
                    | tracing | spawn | commandFailed | json | missingField | cpu
                      | traceNotReady | io => exact continued
                  obtain ⟨last, done, rfl⟩ := run_log_bind_iff.1 ended
                  obtain ⟨rfl, rfl, rfl⟩ := run_pure_iff.1 done
                  rw [DuePass.after_kernel_failure same] at failed
                  exact failed

theorem no_pass_after_failure {due : DuePass} {failure : Error} {passes : List Pass}
    (ended : (due.afterFailure failure).2 = .ok passes) : passes = [] := by
  cases due with
  | user => contradiction
  | kernel bench loops =>
      by_cases same : failure = .interrupted
      · subst same
        contradiction
      · rw [DuePass.after_kernel_failure same] at ended
        exact (Except.ok.inj ended).symm

/-- Every pass of a walk that ends well was made in a run of its own. -/
theorem run_of_pass {due : List DuePass} {passes : List Pass} {pass : Pass}
    (walk : Walk campaign due before exchanges outcome after) (ended : outcome = .ok passes)
    (member : pass ∈ passes) :
    ∃ current start own finish, own <:+: exchanges ∧
      Run (DuePass.measure campaign current) start own (.ok pass) finish := by
  induction walk generalizing passes with
  | nothing => 
      obtain rfl := Except.ok.inj ended
      contradiction
  | stopped => contradiction
  | failed others run =>
      obtain rfl := no_pass_after_failure ended
      contradiction
  | @made due others _ _ _ own later made reached run rest induction =>
      cases reached with
      | error failure => contradiction
      | ok rest =>
          obtain rfl := Except.ok.inj ended
          rcases List.mem_cons.1 member with rfl | other
          · refine ⟨due, _, own, _, ⟨interruptLook false :: due.announced, later, ?_⟩, run⟩
            simp [DuePass.turn]
          · obtain ⟨current, start, inside, finish, within, held⟩ := induction rfl other
            exact ⟨current, start, inside, finish, within.trans (List.suffix_append _ _).isInfix, held⟩

end Turns

end Campaign
end TraceOverhead
