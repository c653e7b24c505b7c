import TraceOverhead.Proofs.Campaign.Interrupt
/-!
Passes in the kernel that fail. What was asked and answered fixes how far a suite has come, so a run
of a suite is known from the passes it made and the one that broke. Main statement: what becomes of
the suite depends on nothing but the error of that pass; whether an interrupt had arrived by then is
not looked at.
-/

namespace TraceOverhead

open Dialogue

namespace DuePass

variable {due : DuePass} {first second : List (Exchange instruments)}

theorem turn_append : due.turn first ++ second = due.turn (first ++ second) := by
  rw [turn, turn, List.cons_append, List.append_assoc]

theorem turn_inj (same : due.turn first = due.turn second) : first = second :=
  List.append_cancel_left (List.cons.inj same).2

theorem turn_ne_stopped : due.turn first ≠ [interruptLook true] := by
  intro same
  have head := (List.cons.inj same).1
  have look := eq_of_heq (Exchange.mk.inj head).2
  exact Bool.false_ne_true look

end DuePass

namespace Campaign

variable {campaign : Campaign} {before middle after : CampaignState}
  {done remaining : List DuePass} {earlier rest exchanges : List (Exchange instruments)}
  {passes : List Pass} {outcome : Except Error (List Pass)}

theorem run_cut_unique {α : Type} {measuring : Measuring α}
    {first second others : List (Exchange instruments)} {result final : Except Error α}
    {left right : CampaignState} (one : Run measuring before first result left)
    (other : Run measuring before second final right) (same : first ++ rest = second ++ others) :
    rest = others ∧ result = final ∧ left = right := by
  obtain ⟨_, follows, ends⟩ := course_cut_unique one other same
  exact ⟨follows, Prod.mk.inj ends⟩

/-- How a walk goes on after its first passes, whose making is known. -/
theorem walk_after_made (made : Made campaign before done earlier passes middle)
    (walk : Walk campaign (done ++ remaining) before (earlier ++ rest) outcome after) :
    ∃ reached, Walk campaign remaining middle rest reached after ∧
      outcome = reached.map (passes ++ ·) := by
  induction made generalizing outcome with
  | none state =>
      refine ⟨outcome, walk, ?_⟩
      cases outcome <;> rfl
  | @pass due others _ _ _ asked later pass passes run made induction =>
      rw [List.append_assoc, DuePass.turn_append, List.cons_append] at walk
      generalize split : due.turn (asked ++ (later ++ rest)) = exchanges at walk
      cases walk with
      | stopped => exact absurd split DuePass.turn_ne_stopped
      | @failed _ _ _ _ given failure broken =>
          have same := DuePass.turn_inj split
          have ends := (run_cut_unique run broken same).2.1
          contradiction
      | @made _ _ _ _ _ given following other reached held walked =>
          rw [DuePass.turn_append] at split
          obtain ⟨follows, ends, rfl⟩ := run_cut_unique run held (DuePass.turn_inj split)
          subst follows
          obtain rfl := Except.ok.inj ends
          obtain ⟨reached, continued, rfl⟩ := induction walked
          exact ⟨reached, continued, map_append_cons pass passes⟩

/-- A suite whose kernel pass fails is over, and goes by the error alone: the pass is skipped unless
the error itself is the interrupt. -/
theorem suite_of_failed_kernel_pass {bench : KernelBench} {loops : UInt64}
    (due : campaign.due = done ++ .kernel bench loops :: remaining)
    (made : Made campaign before done earlier passes middle)
    {pass : List (Exchange instruments)} {failure : Error} {broken : CampaignState}
    (failed : Run (campaign.kernelPass bench loops) middle pass (.error failure) broken)
    (run : Run campaign.runSuite before
      (earlier ++ (DuePass.kernel bench loops).turn (pass ++ rest)) outcome after) :
    (failure = .interrupted → outcome = .error .interrupted ∧ rest = []) ∧
      (failure ≠ .interrupted → outcome = .ok passes ∧ rest = [DuePass.skipped failure]) := by
  rw [run_suite_eq_take_turns, due] at run
  obtain ⟨reached, walk, rfl⟩ := walk_after_made made (walk_of_run run)
  generalize split : (DuePass.kernel bench loops).turn (pass ++ rest) = exchanges at walk
  cases walk with
  | stopped => exact absurd split DuePass.turn_ne_stopped
  | @failed _ _ _ _ asked other run =>
      obtain ⟨rfl, same, rfl⟩ := run_cut_unique failed run (DuePass.turn_inj split)
      obtain rfl := Except.error.inj same
      constructor
      · rintro rfl
        exact ⟨rfl, rfl⟩
      · intro distinct
        rw [DuePass.after_kernel_failure distinct]
        exact ⟨congrArg Except.ok (List.append_nil passes), rfl⟩
  | @made _ _ _ _ _ asked later pass reached held walked =>
      rw [DuePass.turn_append] at split
      have same := (run_cut_unique failed held (DuePass.turn_inj split)).2.1
      contradiction

def smallKernelBench : KernelBench := ⟨⟨"main.ko", "modules"⟩, ⟨"probe.ko", "modules"⟩, "sys"⟩

/-- Nothing but one pass in the kernel. -/
def kernelCampaign : Campaign := { idleCampaign with kernel := some smallKernelBench }

/-- No module is loaded, and an interrupt kills the programs that are run. -/
def interruptedTools : (request : Instruments.Request) → Instruments.Answer request
  | .host (.pathExists _) => false
  | .host (.run ..) => .ok ⟨.killed 2, [], []⟩
  | request => (Instruments.obey [] [] request []).1

def killed : Error := .commandFailed "insmod" (.killed 2) (Text.trim (Text.ofBytesLossy []))

/-- The interrupt arrives while the modules are looked for. -/
def killedPass : List (Exchange instruments) × Except Error Pass × CampaignState :=
  trial (Instruments.interrupt interruptedTools) 1
    (kernelCampaign.kernelPass smallKernelBench 1000000) .initial

theorem run_killed_pass : Run (kernelCampaign.kernelPass smallKernelBench 1000000) .initial
    killedPass.1 (.error killed) .initial :=
  run_trial (Instruments.interrupt interruptedTools) 1
    (kernelCampaign.kernelPass smallKernelBench 1000000) .initial

theorem run_killed_suite : Run kernelCampaign.runSuite .initial
    ((DuePass.kernel smallKernelBench 1000000).turn (killedPass.1 ++ [DuePass.skipped killed]))
    (.ok []) .initial :=
  run_trial (Instruments.interrupt interruptedTools) 1 kernelCampaign.runSuite .initial

theorem suite_of_killed_pass :
    ∃ pass failure rest outcome,
      Run (kernelCampaign.kernelPass smallKernelBench 1000000) .initial pass (.error failure)
        .initial ∧
      Run kernelCampaign.runSuite .initial
        ((DuePass.kernel smallKernelBench 1000000).turn (pass ++ rest)) outcome .initial ∧
      outcome = .ok [] ∧ rest = [DuePass.skipped failure] := by
  have ended := (suite_of_failed_kernel_pass rfl (.none _) run_killed_pass run_killed_suite).2
    (fun same => by cases same)
  exact ⟨_, _, _, _, run_killed_pass, run_killed_suite, ended⟩

/-- The interrupt arrives before the first program is run, which it kills, and the suite still ends
well. -/
theorem interrupted_kernel_pass_skipped :
    ∃ begun left failure, left ≠ [] ∧
      Arrives ((DuePass.kernel smallKernelBench 1000000).turn begun)
        (left ++ [DuePass.skipped failure]) ∧
      Run (kernelCampaign.kernelPass smallKernelBench 1000000) .initial (begun ++ left)
        (.error failure) .initial ∧
      Run kernelCampaign.runSuite .initial ((DuePass.kernel smallKernelBench 1000000).turn
        ((begun ++ left) ++ [DuePass.skipped failure])) (.ok []) .initial := by
  refine ⟨killedPass.1.take 1, killedPass.1.drop 1, killed, ?_, ?_, ?_, ?_⟩
  · decide
  · exact ⟨by decide, by decide⟩
  · rw [List.take_append_drop]
    exact run_killed_pass
  · rw [List.take_append_drop]
    exact run_killed_suite

end Campaign

end TraceOverhead
