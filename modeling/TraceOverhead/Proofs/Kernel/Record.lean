import TraceOverhead.Proofs.Dialogue.Transcript
import TraceOverhead.Proofs.Kernel.Presence
/-!
The record of the inserted modules, over any number of calls of the benchmark. Main statement:
whatever the programs and the system answer, a module is taken up for removal at most as often as it
was inserted, and in the reverse order; and where the system shows what is loaded, nothing that was
inserted is loaded after a removal that ends well.
-/

namespace TraceOverhead

open Dialogue
open scoped List

namespace KernelBench

/-- What can be asked of the benchmark in the kernel. Nothing is asked of it after it is dropped. -/
inductive Call where
  | benchmark (count : UInt64)
  | unload
  | drop

/-- Answers a call; what a drop comes to is not told. -/
def perform (bench : KernelBench) (inserted : Inserted) :
    Call → Dialogue host (Inserted × Except Error Unit)
  | .benchmark count => do
    let (inserted, time) ← bench.benchmark count inserted
    pure (inserted, time.map fun _ => ())
  | .unload => unload inserted
  | .drop => do
    let inserted ← release inserted
    pure (inserted, .ok ())

/-- A call with what was asked for it and how it ended. -/
structure Use where
  call : Call
  asked : List (Exchange host)
  outcome : Except Error Unit

/-- One call after the other, each with the record that the one before it left. -/
inductive Usage (bench : KernelBench) : Inserted → List Use → Inserted → Prop
  | none (inserted : Inserted) : Usage bench inserted [] inserted
  | next {inserted reached left : Inserted} {use : Use} {uses : List Use}
      (course : Course (bench.perform inserted use.call) use.asked (reached, use.outcome))
      (rest : Usage bench reached uses left) : Usage bench inserted (use :: uses) left

def requests (uses : List Use) : List (Exchange host) := uses.flatMap Use.asked

/-- What is known of the record, given all that was asked before. -/
structure Kept (bench : KernelBench) (history : List (Exchange host)) (inserted : Inserted) :
    Prop where
  known : ∀ module ∈ inserted, module ∈ bench.modules
  ordered : inserted.map KernelModule.path <+ (insertions history).reverse
  balanced : ∀ module ∈ bench.modules, (removals history).count module.name +
    (inserted.map KernelModule.name).count module.name ≤ (insertions history).count module.path

section Steps

variable {bench : KernelBench} {history first second asked : List (Exchange host)}
  {inserted reached left : Inserted} {outcome : Except Error Unit}

theorem kept_nil (bench : KernelBench) : bench.Kept [] [] := by
  constructor <;> simp

theorem kept_of_loading {modules : List KernelModule} (distinct : bench.Distinct)
    (loading : Loading modules inserted asked reached outcome)
    (listed : ∀ module ∈ modules, module ∈ bench.modules) (kept : bench.Kept history inserted) :
    bench.Kept (history ++ asked) reached := by
  induction loading generalizing history with
  | done => simpa using kept
  | failed module modules inserted failure badly =>
      obtain ⟨known, ordered, balanced⟩ := kept
      exact ⟨known, by simpa [badly] using ordered, by simpa [badly] using balanced⟩
  | present module rest induction =>
      have looked : bench.Kept (history ++ [module.look true]) _ :=
        ⟨kept.known, by simpa using kept.ordered, by simpa using kept.balanced⟩
      simpa using induction (fun other member => listed other (.tail _ member)) looked
  | @added module _ inserted _ _ _ answer well rest induction =>
      have pushed : bench.Kept (history ++ [module.look false, module.insert answer,
          module.tell "loaded "]) (module :: inserted) := by
        constructor
        · exact List.forall_mem_cons.2 ⟨listed module List.mem_cons_self, kept.known⟩
        · simpa [well] using kept.ordered
        · intro other member
          have before := kept.balanced other member
          by_cases same : module = other
          · simp [same, well]
            omega
          · have named := mt (eq_of_name_eq distinct (listed module List.mem_cons_self) member) same
            simpa [well, named, mt name_eq_of_path_eq named] using before
      simpa using induction (fun other member => listed other (.tail _ member)) pushed

theorem removals_of_loading {modules : List KernelModule}
    (loading : Loading modules inserted asked reached outcome) : removals asked = [] := by
  induction loading <;> simp_all

theorem insertions_of_unloading (unloading : Unloading inserted asked left outcome) :
    insertions asked = [] := by
  induction unloading <;> simp_all

/-- What is taken up comes off the top of the record, and only what is taken up is removed. -/
theorem taken_of_unloading (unloading : Unloading inserted asked left outcome) :
    ∃ taken, inserted = taken ++ left ∧ removals asked <+ taken.map KernelModule.name := by
  induction unloading with
  | done => exact ⟨[], by simp⟩
  | absent module rest induction =>
      obtain ⟨taken, rfl, removed⟩ := induction
      exact ⟨module :: taken, rfl, by simpa using removed.cons module.name⟩
  | removed module well rest induction =>
      obtain ⟨taken, rfl, removed⟩ := induction
      exact ⟨module :: taken, rfl, by simpa using removed⟩
  | failed module inserted => exact ⟨[module], by simp⟩

theorem kept_of_unloading (unloading : Unloading inserted asked left outcome)
    (kept : bench.Kept history inserted) : bench.Kept (history ++ asked) left := by
  obtain ⟨taken, rfl, removed⟩ := taken_of_unloading unloading
  have nothing := insertions_of_unloading unloading
  constructor
  · exact fun module member => kept.known module (List.mem_append_right taken member)
  · have part : left.map KernelModule.path <+ (taken ++ left).map KernelModule.path := by simp
    simpa [nothing] using part.trans kept.ordered
  · intro module member
    have before := kept.balanced module member
    have bound := removed.count_le module.name
    simp only [List.map_append, List.count_append, removals_append, insertions_append, nothing,
      List.append_nil] at before ⊢
    omega

theorem kept_append_of_aloof (aloof : ∀ exchange ∈ second, Aloof exchange.request)
    (kept : bench.Kept first inserted) : bench.Kept (first ++ second) inserted := by
  obtain ⟨known, ordered, balanced⟩ := kept
  constructor <;> simpa [insertions_of_aloof aloof, removals_of_aloof aloof]

/-- A module is inserted only where it is found not to be loaded. -/
theorem not_inserted_of_loading {modules : List KernelModule} {module : KernelModule}
    (distinct : bench.Distinct) (member : module ∈ bench.modules)
    (loading : Loading modules inserted asked reached outcome)
    (listed : ∀ other ∈ modules, other ∈ bench.modules) (present : module.place ∉ absences asked) :
    module.path ∉ insertions asked := by
  induction loading with
  | done => simp
  | failed other modules inserted failure badly => simp [badly]
  | present other rest induction =>
      simpa using induction (fun _ later => listed _ (.tail _ later)) (by simpa using present)
  | @added other _ _ _ _ _ _ well rest induction =>
      simp only [absences_absent, absences_insert, absences_tell, List.mem_cons, not_or] at present
      have apart : other ≠ module := fun same => present.1 (same ▸ rfl)
      have named := mt (eq_of_name_eq distinct (listed other (.head _)) member) apart
      have unlisted := induction (fun _ later => listed _ (.tail _ later)) present.2
      simpa [well, unlisted] using fun same => named (name_eq_of_path_eq same).symm

end Steps

section Uses

variable {bench : KernelBench} {history asked : List (Exchange host)}
  {inserted reached left : Inserted} {outcome : Except Error Unit} {call : Call}
  {uses earlier later : List Use}

/-- A call either loads the modules or works off the record; what else it does is nothing to the
modules. -/
theorem perform_cases (course : Course (bench.perform inserted call) asked (reached, outcome)) :
    ∃ first rest ended, (∀ exchange ∈ rest, Aloof exchange.request) ∧ asked = first ++ rest ∧
      (Loading bench.modules inserted first reached ended ∨
        Unloading inserted first reached ended ∧
          (call = .unload ∧ outcome = ended ∨ call = .drop)) := by
  cases call with
  | benchmark count =>
      obtain ⟨⟨_, time⟩, measured, same⟩ := course_bind_done_iff.1 course
      obtain ⟨rfl, _⟩ := Prod.mk.inj same
      obtain ⟨first, ended, rest, loading, aloof, rfl⟩ := loading_of_benchmark measured
      exact ⟨first, rest, ended, aloof, rfl, .inl loading⟩
  | unload =>
      exact ⟨asked, [], outcome, by simp, (List.append_nil asked).symm,
        .inr ⟨unloading_of_course course, .inl ⟨rfl, rfl⟩⟩⟩
  | drop =>
      obtain ⟨kept, released, same⟩ := course_bind_done_iff.1 course
      obtain ⟨rfl, _⟩ := Prod.mk.inj same
      obtain ⟨first, rest, ended, unloading, aloof, rfl⟩ := unloading_of_release released
      exact ⟨first, rest, ended, aloof, rfl, .inr ⟨unloading, .inr rfl⟩⟩

theorem kept_of_use (distinct : bench.Distinct)
    (course : Course (bench.perform inserted call) asked (reached, outcome))
    (kept : bench.Kept history inserted) : bench.Kept (history ++ asked) reached := by
  obtain ⟨first, rest, ended, aloof, rfl, loading | ⟨unloading, _⟩⟩ := perform_cases course
  · have loaded := kept_of_loading distinct loading (fun _ member => member) kept
    rw [← List.append_assoc]
    exact kept_append_of_aloof aloof loaded
  · rw [← List.append_assoc]
    exact kept_append_of_aloof aloof (kept_of_unloading unloading kept)

theorem taken_of_use (course : Course (bench.perform inserted call) asked (reached, outcome)) :
    ∃ taken, taken <+ inserted ∧ removals asked = taken.map KernelModule.name := by
  obtain ⟨first, rest, ended, aloof, rfl, loading | ⟨unloading, _⟩⟩ := perform_cases course
  · exact ⟨[], by simp [removals_of_loading loading, removals_of_aloof aloof]⟩
  · obtain ⟨taken, rfl, removed⟩ := taken_of_unloading unloading
    obtain ⟨tried, part, same⟩ := List.sublist_map_iff.1 removed
    exact ⟨tried, part.trans (List.sublist_append_left taken reached),
      by simp [same, removals_of_aloof aloof]⟩

theorem usage_append_iff : Usage bench inserted (earlier ++ later) left ↔
    ∃ reached, Usage bench inserted earlier reached ∧ Usage bench reached later left := by
  constructor
  · intro usage
    induction earlier generalizing inserted with
    | nil => exact ⟨inserted, .none inserted, usage⟩
    | cons use earlier induction =>
        cases usage with
        | next course rest =>
            obtain ⟨reached, before, after⟩ := induction rest
            exact ⟨reached, .next course before, after⟩
  · rintro ⟨reached, before, after⟩
    induction before with
    | none => exact after
    | next course rest induction => exact .next course (induction after)

theorem kept_of_usage (distinct : bench.Distinct) (usage : bench.Usage inserted uses left)
    (kept : bench.Kept history inserted) : bench.Kept (history ++ requests uses) left := by
  induction usage generalizing history with
  | none => simpa [requests] using kept
  | next course rest induction =>
      simpa [requests] using induction (kept_of_use distinct course kept)

/-- The counts are right at every moment, also in the middle of a call. -/
theorem removals_le_insertions {first second : List (Exchange host)} {module : KernelModule}
    (distinct : bench.Distinct) (usage : bench.Usage inserted uses left)
    (kept : bench.Kept history inserted) (member : module ∈ bench.modules)
    (cut : requests uses = first ++ second) :
    (removals (history ++ first)).count module.name ≤
      (insertions (history ++ first)).count module.path := by
  induction usage generalizing history first with
  | none =>
      obtain ⟨rfl, rfl⟩ := List.append_eq_nil_iff.1 cut.symm
      have bound := kept.balanced module member
      rw [List.append_nil]
      omega
  | @next _ _ _ use uses course rest induction =>
      rcases List.append_eq_append_iff.1 cut with ⟨more, rfl, others⟩ | ⟨more, within, rfl⟩
      · rw [← List.append_assoc]
        exact induction (kept_of_use distinct course kept) others
      · obtain ⟨taken, part, removed⟩ := taken_of_use course
        have bound := kept.balanced module member
        have top := (part.map KernelModule.name).count_le module.name
        have so_far : (removals first).count module.name ≤
            (taken.map KernelModule.name).count module.name := by
          rw [← removed, within, removals_append, List.count_append]
          exact Nat.le_add_right _ _
        simp only [removals_append, insertions_append, List.count_append]
        omega

theorem not_inserted_of_usage {module : KernelModule} (distinct : bench.Distinct)
    (usage : bench.Usage inserted uses left) (member : module ∈ bench.modules)
    (present : module.place ∉ absences (requests uses)) :
    module.path ∉ insertions (requests uses) := by
  induction usage with
  | none => simp [requests]
  | @next _ _ _ use uses course rest induction =>
      have split : requests (use :: uses) = use.asked ++ requests uses := List.flatMap_cons
      rw [split, absences_append, List.mem_append, not_or] at present
      rw [split, insertions_append, List.mem_append, not_or]
      refine ⟨?_, induction present.2⟩
      obtain ⟨first, others, ended, aloof, same, loading | ⟨unloading, _⟩⟩ := perform_cases course
      · rw [same, absences_append, List.mem_append, not_or] at present
        rw [same, insertions_append, insertions_of_aloof aloof, List.append_nil]
        exact not_inserted_of_loading distinct member loading (fun _ listed => listed) present.1.1
      · simp [same, insertions_of_unloading unloading, insertions_of_aloof aloof]

/-- A value that is not dropped yet and of which no removal has failed. -/
def Use.Sound (use : Use) : Prop :=
  use.call ≠ .drop ∧ (use.call = .unload → use.outcome = .ok ())

theorem tracked_append_of_aloof {states : ModuleStates} {first second : List (Exchange host)}
    (aloof : ∀ exchange ∈ second, Aloof exchange.request)
    (tracked : bench.Tracked first (states.after first) inserted) :
    bench.Tracked (first ++ second) (states.after (first ++ second)) inserted := by
  simpa [Tracked, insertions_of_aloof aloof, ModuleStates.after_of_aloof aloof] using tracked

theorem tracked_of_use {states : ModuleStates} {use : Use} (distinct : bench.Distinct)
    (course : Course (bench.perform inserted use.call) use.asked (reached, use.outcome))
    (sound : use.Sound) (known : ∀ module ∈ inserted, module ∈ bench.modules)
    (faithful : (states.after history).Faithful bench.modules use.asked)
    (tracked : bench.Tracked history (states.after history) inserted) :
    bench.Tracked (history ++ use.asked) (states.after (history ++ use.asked)) reached := by
  obtain ⟨first, rest, ended, aloof, same, loading | ⟨unloading, ⟨unload, rfl⟩ | drop⟩⟩ :=
    perform_cases course
  · have loaded := tracked_of_loading distinct (fun _ listed => listed) loading tracked
    rw [same, ← List.append_assoc]
    apply tracked_append_of_aloof aloof
    simpa using loaded
  · rw [same, ModuleStates.faithful_append] at faithful
    have nothing : bench.Tracked (history ++ first) (states.after (history ++ first)) [] := by
      rw [ModuleStates.after_append]
      exact tracked_of_unloading known unloading (sound.2 unload) faithful.1 (by simpa using tracked)
    rw [same, ← List.append_assoc]
    apply tracked_append_of_aloof aloof
    intro module member present loaded
    exact absurd (nothing module member present loaded) (by simp)
  · exact absurd drop sound.1

theorem tracked_of_usage {states : ModuleStates} (distinct : bench.Distinct)
    (usage : bench.Usage inserted uses left) (sound : ∀ use ∈ uses, use.Sound)
    (faithful : (states.after history).Faithful bench.modules (requests uses))
    (kept : bench.Kept history inserted)
    (tracked : bench.Tracked history (states.after history) inserted) :
    bench.Tracked (history ++ requests uses) (states.after (history ++ requests uses)) left := by
  induction usage generalizing history with
  | none => simpa [requests] using tracked
  | @next _ _ _ use uses course rest induction =>
      have split : requests (use :: uses) = use.asked ++ requests uses := List.flatMap_cons
      rw [List.forall_mem_cons] at sound
      rw [split, ModuleStates.faithful_append, ← ModuleStates.after_append] at faithful
      have reached := tracked_of_use distinct course sound.1 kept.known faithful.1 tracked
      rw [split, ← List.append_assoc]
      exact induction sound.2 faithful.2 (kept_of_use distinct course kept) reached

end Uses

/-- The modules of others are left alone. At every moment each module was taken up for removal at
most as often as it had been inserted, so one that is always found loaded is never taken up; the
removals of one call come in the reverse order of the insertions; and as long as no removal has
failed, nothing that was inserted is loaded after one that ends well, if nothing but insertions and
removals decides what is loaded. -/
theorem only_inserted_removed {bench : KernelBench} (distinct : bench.Distinct) {uses : List Use}
    {left : Inserted} (usage : bench.Usage [] uses left) :
    (∀ first second, requests uses = first ++ second → ∀ module ∈ bench.modules,
      (removals first).count module.name ≤ (insertions first).count module.path) ∧
    (∀ module ∈ bench.modules, module.place ∉ absences (requests uses) →
      module.name ∉ removals (requests uses)) ∧
    ∀ earlier use later, uses = earlier ++ use :: later →
      (∃ taken : List KernelModule, removals use.asked = taken.map KernelModule.name ∧
        taken.map KernelModule.path <+ (insertions (requests earlier)).reverse) ∧
      ∀ states : ModuleStates, states.Faithful bench.modules (requests (earlier ++ [use])) →
        (∀ other ∈ earlier, other.Sound) → use.call = .unload → use.outcome = .ok () →
        ∀ module ∈ bench.modules, module.path ∈ insertions (requests (earlier ++ [use])) →
          states.after (requests (earlier ++ [use])) module.name = false := by
  have counted : ∀ first second, requests uses = first ++ second → ∀ module ∈ bench.modules,
      (removals first).count module.name ≤ (insertions first).count module.path := by
    intro first second cut module member
    simpa using removals_le_insertions distinct usage (kept_nil bench) member cut
  refine ⟨counted, ?_, ?_⟩
  · intro module member present
    have bound := counted (requests uses) [] (List.append_nil _).symm module member
    have never := not_inserted_of_usage distinct usage member present
    rw [List.count_eq_zero_of_not_mem never] at bound
    exact List.count_eq_zero.1 (Nat.le_zero.1 bound)
  · rintro earlier use later rfl
    obtain ⟨inserted, before, after⟩ := usage_append_iff.1 usage
    have kept : bench.Kept (requests earlier) inserted := kept_of_usage distinct before (kept_nil bench)
    cases after with
    | next course rest =>
        obtain ⟨taken, part, removed⟩ := taken_of_use course
        refine ⟨⟨taken, removed, (part.map KernelModule.path).trans kept.ordered⟩, ?_⟩
        intro states faithful sound unload ended module member present
        have split : requests (earlier ++ [use]) = requests earlier ++ use.asked := by
          simp [requests]
        rw [split, ModuleStates.faithful_append] at faithful
        have tracked := tracked_of_usage distinct before sound (by simpa using faithful.1)
          (kept_nil bench) (by simp [Tracked])
        rw [unload] at course
        have nothing : bench.Tracked (requests earlier ++ use.asked) _ [] :=
          tracked_of_unloading kept.known (unloading_of_course course) ended faithful.2
            (by simpa using tracked)
        rw [split] at present ⊢
        rw [ModuleStates.after_append]
        exact Bool.eq_false_iff.2 fun loaded =>
          List.not_mem_nil (nothing module member present loaded)

def smallBench : KernelBench := ⟨⟨"k/main.ko", "modules"⟩, ⟨"k/probe.ko", "modules"⟩, "sys"⟩

theorem small_bench_distinct : smallBench.Distinct := by
  unfold Distinct
  decide +kernel

/-- A call on a machine where it is laid down what looks show and which programs end well. -/
def smallUse (inserted : Inserted) (call : Call) (answers : List Bool) : Use × Inserted :=
  let reached := transcript Host.follow answers (smallBench.perform inserted call)
  (⟨call, reached.1, reached.2.2⟩, reached.2.1)

theorem course_small_use (inserted : Inserted) (call : Call) (answers : List Bool) :
    Course (smallBench.perform inserted call) (smallUse inserted call answers).1.asked
      ((smallUse inserted call answers).2, (smallUse inserted call answers).1.outcome) := by
  have course := course_transcript Host.follow answers (smallBench.perform inserted call)
  exact course

/-- The main module was there before and stays, the other one is inserted and removed again. -/
theorem only_probe_removed :
    ∃ (measured unloaded : Use) (states : ModuleStates), smallBench.Distinct ∧
      smallBench.Usage [] [measured, unloaded] [] ∧
      states.Faithful smallBench.modules (requests [measured, unloaded]) ∧
      insertions (requests [measured, unloaded]) = [smallBench.probe.path] ∧
      removals (requests [measured, unloaded]) = [smallBench.probe.name] ∧
      smallBench.main.name ∉ removals (requests [measured, unloaded]) ∧
      states.after (requests [measured, unloaded]) smallBench.probe.name = false := by
  have usage : smallBench.Usage [] [(smallUse [] (.benchmark 1) [true, false, true]).1,
      (smallUse [smallBench.probe] .unload [true, true]).1] [] :=
    .next (course_small_use _ _ _) (.next (course_small_use _ _ _) (.none []))
  have faithful : ModuleStates.Faithful smallBench.modules (· == "main")
      (requests [(smallUse [] (.benchmark 1) [true, false, true]).1,
        (smallUse [smallBench.probe] .unload [true, true]).1]) := by decide +kernel
  obtain ⟨_, spared, calls⟩ := only_inserted_removed small_bench_distinct usage
  refine ⟨_, _, _, small_bench_distinct, usage, faithful, by decide +kernel, by decide +kernel, ?_, ?_⟩
  · exact spared smallBench.main (by decide) (by decide +kernel)
  · obtain ⟨_, unloaded⟩ := calls [_] _ [] rfl
    exact unloaded _ faithful (by simp [Use.Sound, smallUse]) rfl rfl smallBench.probe (by decide)
      (by decide +kernel)

end KernelBench

end TraceOverhead
