import TraceOverhead.Proofs.Kernel.Record
/-!
What a removal that fails leaves behind. The module is off the record by then and, being loaded, is
not inserted again either. Main statement: it is the only one that is forgotten, but it is forgotten
for good, so it is still loaded when the benchmark has been dropped.
-/

namespace TraceOverhead

open Dialogue
open scoped List

namespace KernelBench

section Failing

variable {bench : KernelBench} {asked : List (Exchange host)} {states : ModuleStates}
  {inserted reached left : Inserted} {outcome : Except Error Unit} {failed : KernelModule}

/-- What comes before the failing removal is worked off to its end. -/
theorem failing_unloading {failure : Error} (unloading : Unloading inserted asked left outcome)
    (ended : outcome = .error failure) :
    ∃ removed failed answer front, inserted = removed ++ failed :: left ∧
      asked = front ++ [failed.look true, failed.remove answer] ∧ Host.ranWell answer = false ∧
      Unloading removed front [] (.ok ()) := by
  induction unloading with
  | done => contradiction
  | absent module rest induction =>
      obtain ⟨removed, failed, answer, front, rfl, rfl, badly, before⟩ := induction ended
      exact ⟨module :: removed, failed, answer, _, rfl, rfl, badly, .absent module before⟩
  | removed module well rest induction =>
      obtain ⟨removed, failed, answer, front, rfl, rfl, badly, before⟩ := induction ended
      exact ⟨module :: removed, failed, answer, _, rfl, rfl, badly, .removed module well before⟩
  | @failed module inserted answer failure badly =>
      exact ⟨[], module, answer, [], rfl, rfl, badly, .done⟩

theorem upright_of_unloading (distinct : bench.Distinct)
    (known : ∀ module ∈ inserted, module ∈ bench.modules)
    (unloading : Unloading inserted asked left outcome) (upright : Upright states inserted) :
    Upright (states.after asked) left := by
  obtain ⟨taken, rfl, removed⟩ := taken_of_unloading unloading
  obtain ⟨nodup, loaded⟩ := upright
  obtain ⟨_, once, apart⟩ := List.nodup_append.1 nodup
  refine ⟨once, ?_⟩
  intro module member
  apply ModuleStates.loaded_of_not_removed (loaded module (List.mem_append_right taken member))
  intro asking
  obtain ⟨other, there, same⟩ := List.mem_map.1 (removed.mem asking)
  have found := eq_of_name_eq distinct (known other (List.mem_append_left left there))
    (known module (List.mem_append_right taken member)) same
  exact apart other there module member found

/-- A module that is loaded is not put on record. -/
theorem not_recorded_of_loading {modules : List KernelModule}
    (loading : Loading modules inserted asked reached outcome)
    (listed : ∀ module ∈ modules, module ∈ bench.modules)
    (faithful : states.Faithful bench.modules asked) (loaded : states failed.name = true)
    (missing : failed ∉ inserted) : failed ∉ reached := by
  induction loading generalizing states with
  | done | failed => exact missing
  | present module rest induction =>
      exact induction (fun _ later => listed _ (.tail _ later)) faithful.2 loaded missing
  | @added module _ inserted _ _ _ answer well rest induction =>
      have gone := ModuleStates.shown faithful.1 (listed module (.head _))
      have apart : failed ≠ module := by
        intro same
        rw [same, gone] at loaded
        contradiction
      have stays : states.after [module.look false, module.insert answer, module.tell "loaded "]
          failed.name = true := ModuleStates.loaded_of_not_removed loaded (by simp)
      exact induction (fun _ later => listed _ (.tail _ later)) faithful.2.2.2 stays
        (by simp [apart, missing])

end Failing

section Uses

variable {bench : KernelBench} {history : List (Exchange host)} {states : ModuleStates}
  {inserted reached left : Inserted} {failed : KernelModule} {use : Use} {uses : List Use}

theorem upright_of_use (distinct : bench.Distinct)
    (course : Course (bench.perform inserted use.call) use.asked (reached, use.outcome))
    (known : ∀ module ∈ inserted, module ∈ bench.modules)
    (faithful : states.Faithful bench.modules use.asked) (upright : Upright states inserted) :
    Upright (states.after use.asked) reached := by
  obtain ⟨first, rest, ended, aloof, same, loading | ⟨unloading, _⟩⟩ := perform_cases course
  · rw [same, ModuleStates.faithful_append] at faithful
    have loaded := upright_of_loading loading (fun _ listed => listed) faithful.1 upright
    simpa [same, ModuleStates.after_of_aloof aloof] using loaded
  · have unloaded := upright_of_unloading distinct known unloading upright
    simpa [same, ModuleStates.after_of_aloof aloof] using unloaded

theorem upright_of_usage (distinct : bench.Distinct) (usage : bench.Usage inserted uses left)
    (kept : bench.Kept history inserted) (faithful : states.Faithful bench.modules (requests uses))
    (upright : Upright states inserted) : Upright (states.after (requests uses)) left := by
  induction usage generalizing history states with
  | none => exact upright
  | next course rest induction =>
      simp only [requests, List.flatMap_cons, ModuleStates.faithful_append,
        ModuleStates.after_append] at faithful ⊢
      exact induction (kept_of_use distinct course kept) faithful.2
        (upright_of_use distinct course kept.known faithful.1 upright)

/-- A loaded module that is not on record is not taken up, and so it stays loaded. -/
theorem spared_of_use (distinct : bench.Distinct) (member : failed ∈ bench.modules)
    (course : Course (bench.perform inserted use.call) use.asked (reached, use.outcome))
    (known : ∀ module ∈ inserted, module ∈ bench.modules)
    (faithful : states.Faithful bench.modules use.asked) (loaded : states failed.name = true)
    (missing : failed ∉ inserted) : failed.name ∉ removals use.asked ∧ failed ∉ reached := by
  constructor
  · obtain ⟨taken, part, removed⟩ := taken_of_use course
    rw [removed]
    intro asking
    obtain ⟨module, there, same⟩ := List.mem_map.1 asking
    rw [eq_of_name_eq distinct (known module (part.mem there)) member same] at there
    exact missing (part.mem there)
  · obtain ⟨first, rest, ended, aloof, same, loading | ⟨unloading, _⟩⟩ := perform_cases course
    · rw [same, ModuleStates.faithful_append] at faithful
      exact not_recorded_of_loading loading (fun _ listed => listed) faithful.1 loaded missing
    · obtain ⟨taken, rfl, _⟩ := taken_of_unloading unloading
      exact mt (List.mem_append_right taken) missing

theorem spared_of_usage (distinct : bench.Distinct) (member : failed ∈ bench.modules)
    (usage : bench.Usage inserted uses left) (kept : bench.Kept history inserted)
    (faithful : states.Faithful bench.modules (requests uses)) (loaded : states failed.name = true)
    (missing : failed ∉ inserted) : failed.name ∉ removals (requests uses) := by
  induction usage generalizing history states with
  | none => simp [requests]
  | next course rest induction =>
      simp only [requests, List.flatMap_cons, ModuleStates.faithful_append, removals_append,
        List.mem_append, not_or] at faithful ⊢
      have first := spared_of_use distinct member course kept.known faithful.1 loaded missing
      refine ⟨first.1, induction (kept_of_use distinct course kept) faithful.2 ?_ first.2⟩
      exact ModuleStates.loaded_of_not_removed loaded first.1

end Uses

/-- A removal that fails ends the work on the record. The module that could not be removed is off
the record, and all that come after it stay on it; nothing else that is still loaded is forgotten.
But the one that was is never taken up again, so it stays loaded whatever is called later. -/
theorem failed_module_forgotten {bench : KernelBench} (distinct : bench.Distinct)
    {earlier : List Use} {inserted left : Inserted} {asked : List (Exchange host)} {failure : Error}
    (usage : bench.Usage [] earlier inserted)
    (course : Course (unload inserted) asked (left, .error failure)) :
    ∃ removed failed answer front, inserted = removed ++ failed :: left ∧
      asked = front ++ [failed.look true, failed.remove answer] ∧ Host.ranWell answer = false ∧
      ∀ states : ModuleStates, states.Faithful bench.modules (requests earlier ++ asked) →
        ((∀ use ∈ earlier, use.Sound) → ∀ module ∈ bench.modules,
          module.path ∈ insertions (requests earlier ++ asked) →
          states.after (requests earlier ++ asked) module.name = true → module ∈ failed :: left) ∧
        failed ∉ left ∧
        ∀ later final, bench.Usage left later final →
          states.Faithful bench.modules (requests earlier ++ asked ++ requests later) →
          failed.name ∉ removals (requests later) ∧
            states.after (requests earlier ++ asked ++ requests later) failed.name = true := by
  have unloading := unloading_of_course course
  have kept : bench.Kept (requests earlier) inserted := kept_of_usage distinct usage (kept_nil bench)
  have left_kept := kept_of_unloading unloading kept
  obtain ⟨removed, failed, answer, front, rfl, rfl, badly, before⟩ := failing_unloading unloading rfl
  have known : failed ∈ bench.modules := kept.known failed (by simp)
  refine ⟨removed, failed, answer, front, rfl, rfl, badly, ?_⟩
  intro states faithful
  rw [ModuleStates.faithful_append] at faithful
  have upright := upright_of_usage distinct usage (kept_nil bench) faithful.1 ⟨.nil, by simp⟩
  have missing : failed ∉ left := by
    have once := (List.nodup_append.1 upright.nodup).2.1
    exact (List.nodup_cons.1 once).1
  have worked := faithful.2
  rw [ModuleStates.faithful_append, ModuleStates.faithful_cons] at worked
  have loaded := ModuleStates.shown worked.2.1 known
  refine ⟨?_, missing, ?_⟩
  · intro sound
    have tracked := tracked_of_usage distinct usage sound (by simpa using faithful.1)
      (kept_nil bench) (by simp [Tracked])
    have rest : bench.Tracked (requests earlier ++ front) _ (failed :: left) :=
      tracked_of_unloading (fun module member => kept.known module (List.mem_append_left _ member))
        before rfl worked.1 (by simpa using tracked)
    simpa [Tracked, badly] using rest
  · intro later final others fine
    rw [ModuleStates.faithful_append] at fine
    have stays : states.after (requests earlier ++ (front ++
        [failed.look true, failed.remove answer])) failed.name = true := by
      simpa [badly] using loaded
    have spared := spared_of_usage distinct known others left_kept fine.2 stays missing
    refine ⟨spared, ?_⟩
    rw [ModuleStates.after_append]
    exact ModuleStates.loaded_of_not_removed stays spared

/-- Both modules are inserted, and the probe cannot be removed at first. -/
def busyMeasured : Use := (smallUse [] (.benchmark 1) [false, true, false, true]).1

def busyUnloaded : Use := (smallUse [smallBench.probe, smallBench.main] .unload [true, false]).1

def busyDropped : Use := (smallUse [smallBench.main] .drop [true, true]).1

/-- What the failing removal of the probe leaves, when the benchmark is dropped after it. -/
theorem busy_probe_forgotten :
    ∃ removed failed answer front, [smallBench.probe, smallBench.main] =
        removed ++ failed :: [smallBench.main] ∧
      busyUnloaded.asked = front ++ [failed.look true, failed.remove answer] ∧
      failed.name ∉ removals (requests [busyDropped]) := by
  have usage : smallBench.Usage [] [busyMeasured] [smallBench.probe, smallBench.main] :=
    .next (course_small_use _ _ _) (.none _)
  have dropped : smallBench.Usage [smallBench.main] [busyDropped] [] :=
    .next (course_small_use _ _ _) (.none _)
  have faithful : ModuleStates.Faithful smallBench.modules (fun _ => false)
      (requests [busyMeasured] ++ busyUnloaded.asked ++ requests [busyDropped]) := by decide +kernel
  obtain ⟨removed, failed, answer, front, cut, last, _, forgotten⟩ := failed_module_forgotten
    small_bench_distinct usage (course_small_use [smallBench.probe, smallBench.main] .unload [true, false])
  obtain ⟨_, _, abandoned⟩ := forgotten _ (ModuleStates.faithful_append.1 faithful).1
  exact ⟨removed, failed, answer, front, cut, last, (abandoned _ _ dropped faithful).1⟩

/-- The probe is still loaded when the benchmark has been dropped, and nobody has tried to remove it
a second time. -/
theorem busy_probe_left_loaded :
    ∃ states : ModuleStates, smallBench.Distinct ∧
      smallBench.Usage [] [busyMeasured, busyUnloaded] [smallBench.main] ∧
      smallBench.Usage [] [busyMeasured, busyUnloaded, busyDropped] [] ∧
      states.Faithful smallBench.modules (requests [busyMeasured, busyUnloaded, busyDropped]) ∧
      busyUnloaded.call = .unload ∧ busyUnloaded.outcome.isOk = false ∧
      smallBench.probe.path ∈ insertions (requests [busyMeasured, busyUnloaded]) ∧
      states.after (requests [busyMeasured, busyUnloaded]) smallBench.probe.name = true ∧
      smallBench.probe ∉ [smallBench.main] ∧ busyDropped.call = .drop ∧
      removals (requests [busyMeasured, busyUnloaded, busyDropped]) =
        [smallBench.probe.name, smallBench.main.name] ∧
      states.after (requests [busyMeasured, busyUnloaded, busyDropped]) smallBench.probe.name =
        true := by
  refine ⟨fun _ => false, small_bench_distinct, ?_, ?_, by decide +kernel, rfl, rfl,
    by decide +kernel, by decide +kernel, by decide, rfl, by decide +kernel, by decide +kernel⟩
  · exact .next (course_small_use _ _ _) (.next (course_small_use _ _ _) (.none _))
  · exact .next (course_small_use _ _ _) (.next (course_small_use _ _ _)
      (.next (course_small_use _ _ _) (.none _)))

end KernelBench

end TraceOverhead
