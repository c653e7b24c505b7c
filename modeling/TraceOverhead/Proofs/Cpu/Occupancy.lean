import TraceOverhead.Proofs.Cpu.Arranging
/-!
The states that a machine goes through while CPUs are rearranged. What is to go off goes off before
anything comes on. So a CPU stays online all the time if one that is online is to stay so; if none
is, the machine is without any CPU in between, or one could not be switched off and none comes on.
-/

namespace TraceOverhead.Hotplug

open Dialogue Host

/-- Some CPU is online. -/
def Occupied (states : CpuStates) : Prop := ∃ cpu, states cpu = some true

/-- The states after some first part of what was asked, which may be nothing or all of it. -/
def PassesThrough (root : String) (start : CpuStates) (asked : List (Exchange host))
    (middle : CpuStates) : Prop := ∃ first, first <+: asked ∧ CpuRun root start first middle

def StaysOccupied (root : String) (start : CpuStates) (asked : List (Exchange host)) : Prop :=
  ∀ middle, PassesThrough root start asked middle → Occupied middle

variable {root : String} {start middle finish : CpuStates} {asked : List (Exchange host)}
  {outcome : Except Error Unit} {wanted : Nat → Bool} {cpu : Nat}

section Moments

/-- A CPU that no exchange is about stays as it is. -/
theorem state_of_ignored
    (ignored : ∀ exchange ∈ asked, ∀ states, switched root states exchange cpu = states cpu)
    (run : CpuRun root start asked finish) : finish cpu = start cpu := by
  induction run with
  | stay states => rfl
  | step truthful rest induction =>
      obtain ⟨other, later⟩ := List.forall_mem_cons.1 ignored
      rw [induction later, other]

theorem switched_switching {on : Bool} {other : Nat} {answer : Except IoFailure Unit}
    (spared : answer = .ok () → other ≠ cpu) (states : CpuStates) :
    switched root states (switching root on other answer) cpu = states cpu := by
  cases answer with
  | error cause => rfl
  | ok =>
      have apart := spared rfl
      rw [switching, switched_switch, withStates, if_neg (by simpa using apart.symm)]

theorem stays_occupied_of_ignored (on : start cpu = some true)
    (ignored : ∀ exchange ∈ asked, ∀ states, switched root states exchange cpu = states cpu) :
    StaysOccupied root start asked := by
  intro middle passed
  obtain ⟨first, before, run⟩ := passed
  refine ⟨cpu, ?_⟩
  rw [state_of_ignored (fun exchange member => ignored exchange (before.mem member)) run, on]

/-- The CPU that could not be switched is spared, as each is switched only once. -/
theorem exists_spared_of_switches {on : Bool} {cpus : List Nat} {failure : Error}
    (switches : Switches root on cpus asked (.error failure)) (once : cpus.Nodup) :
    ∃ cpu ∈ cpus, ∀ exchange ∈ asked, ∀ states,
      switched root states exchange cpu = states cpu := by
  cases switches with
  | @cut made fine cpu answer failure failed rest =>
      have before : cpu ∉ made.map Prod.fst := by
        intro again
        exact (List.nodup_append.1 once).2.2 cpu again cpu List.mem_cons_self rfl
      refine ⟨cpu, by simp, List.forall_mem_append.2 ⟨?_, ?_⟩⟩
      · intro exchange member states
        obtain ⟨turn, there, rfl⟩ := List.mem_map.1 member
        apply switched_switching
        rintro - rfl
        exact before (List.mem_map_of_mem there)
      · intro exchange member states
        obtain rfl := List.mem_singleton.1 member
        apply switched_switching
        rintro rfl
        contradiction

theorem look_offline_not_mem_switches {on : Bool} {cpus : List Nat}
    (switches : Switches root on cpus asked outcome) (answer : Except IoFailure Bytes) :
    lookOffline root answer ∉ asked := by
  obtain ⟨made, _, rfl, _⟩ := switches.exists_asked
  intro member
  obtain ⟨turn, _, same⟩ := List.mem_map.1 member
  cases same

theorem look_online_ne_look_offline (answer other : Except IoFailure Bytes) :
    lookOffline root other ≠ lookOnline root answer := by
  intro same
  exact online_ne_offline root (Host.Request.readFile.inj (Exchange.mk.inj same).1).symm

end Moments

section Rearranging

/-- A CPU that is online and is to stay so is never written to. -/
theorem stays_occupied_of_kept (arranged : Arranged root wanted asked outcome)
    (run : CpuRun root start asked finish) (on : start cpu = some true)
    (kept : wanted cpu = true) : StaysOccupied root start asked := by
  obtain ⟨moved, written, moves⟩ := moves_of_arranged arranged run
  -- Whatever is written to had the other state when all began.
  have unwritten : ∀ write ∈ writes asked, write.1 ≠ switchPath root cpu := by
    intro write member same
    rw [written] at member
    obtain ⟨move, there, rfl⟩ := List.mem_map.1 member
    obtain rfl := switch_path_inj same
    have lacking := moves.lacking move there
    rw [on, ← moves.needed move there, kept] at lacking
    contradiction
  intro middle passed
  obtain ⟨first, before, reached⟩ := passed
  refine ⟨cpu, ?_⟩
  rw [state_of_unwritten _ reached, on]
  intro write member
  exact unwritten write ((before.filterMap write?).mem member)

/-- All that are online are switched off if none of them is to stay. -/
theorem emptied_of_lowered {answer : Except IoFailure Bytes} {current : CpuSet}
    {lowering rest : List (Exchange host)} (online : ∀ cpu, cpu ∈ current ↔ start cpu = some true)
    (lowered : Switches root false (current.toList.filter fun cpu => !wanted cpu) lowering (.ok ()))
    (run : CpuRun root start (lookOnline root answer :: (lowering ++ rest)) finish)
    (none : ∀ cpu, start cpu = some true → wanted cpu = false) :
    ∃ middle, PassesThrough root start (lookOnline root answer :: (lowering ++ rest)) middle ∧
      ¬ Occupied middle := by
  obtain ⟨truthful, switching⟩ := cpu_run_cons_iff.1 run
  obtain ⟨middle, reached, _⟩ := cpu_run_append_iff.1 switching
  refine ⟨middle, ⟨lookOnline root answer :: lowering, by simp, .step truthful reached⟩, ?_⟩
  rintro ⟨cpu, on⟩
  rw [states_of_switches lowered reached, withStates] at on
  split at on
  · obtain ⟨_, _, off⟩ := Option.map_eq_some_iff.1 on
    contradiction
  · rename_i left
    exact left ((mem_lowered_iff online cpu).2 ⟨on, none cpu on⟩)

/-- Whether the CPUs that are offline are looked for, before any of them is switched on. -/
def Looked (root : String) (asked : List (Exchange host)) : Prop :=
  ∃ answer, lookOffline root answer ∈ asked

/-- A rearranging that does not come to look for the CPUs that are offline has failed, with none
switched on and some CPU online throughout. -/
theorem ended_of_not_looked (arranged : Arranged root wanted asked outcome)
    (run : CpuRun root start asked finish) (occupied : Occupied start)
    (unlooked : ¬ Looked root asked) : (∃ failure, outcome = .error failure) ∧
      StaysOccupied root start asked ∧ ∀ cpu, finish cpu = some true → start cpu = some true := by
  cases arranged with
  | @onlineUnlisted answer failure unlisted =>
      obtain ⟨cpu, on⟩ := occupied
      refine ⟨⟨failure, rfl⟩, stays_occupied_of_ignored on ?_, ?_⟩
      · intro exchange member states
        obtain rfl := List.mem_singleton.1 member
        rfl
      · exact fun cpu => was_on_of_unraised (fun write member => absurd member List.not_mem_nil) run
  | @halted answer current lowering failure found lowered =>
      obtain ⟨rest, online, _⟩ := look_online_of_cpu_run run
      obtain ⟨cpu, member, spared⟩ := exists_spared_of_switches lowered (current.nodup.filter _)
      have on := ((mem_lowered_iff (online _ found) cpu).1 member).1
      refine ⟨⟨failure, rfl⟩, stays_occupied_of_ignored on ?_, ?_⟩
      · exact List.forall_mem_cons.2 ⟨fun states => rfl, spared⟩
      · exact fun cpu => was_on_of_unraised (unraised_of_switches lowered) rest
  | @offlineUnlisted answer other => exact absurd ⟨other, by simp⟩ unlooked
  | @raised answer other => exact absurd ⟨other, by simp⟩ unlooked

theorem emptied_of_looked (arranged : Arranged root wanted asked outcome)
    (run : CpuRun root start asked finish)
    (none : ∀ cpu, start cpu = some true → wanted cpu = false) (looked : Looked root asked) :
    ∃ middle, PassesThrough root start asked middle ∧ ¬ Occupied middle := by
  obtain ⟨other, member⟩ := looked
  cases arranged with
  | onlineUnlisted unlisted =>
      exact absurd (List.mem_singleton.1 member) (look_online_ne_look_offline _ _)
  | halted found lowered =>
      rcases List.mem_cons.1 member with same | later
      · exact absurd same (look_online_ne_look_offline _ _)
      · exact absurd later (look_offline_not_mem_switches lowered other)
  | offlineUnlisted found lowered | raised found lowered =>
      obtain ⟨_, online, _⟩ := look_online_of_cpu_run run
      exact emptied_of_lowered (online _ found) lowered run none

end Rearranging

/-- While CPUs are rearranged one is online all the time exactly if one that is online is to stay so
or the CPUs that are offline are not even looked for, and then the request has failed and switched
none on. -/
theorem occupied_while_rearranged {root : String} {on : Bool} {cpus : CpuSet}
    {start finish : CpuStates} {asked : List (Exchange host)} {outcome : Except Error Unit}
    (course : Course (keep root on cpus).outcome asked outcome)
    (run : CpuRun root start asked finish) (occupied : Occupied start) :
    (StaysOccupied root start asked ↔
      (∃ cpu, start cpu = some true ∧ (cpu ∈ cpus ↔ on = true)) ∨ ¬ Looked root asked) ∧
    (¬ Looked root asked → (∃ failure, outcome = .error failure) ∧
      ∀ cpu, finish cpu = some true → start cpu = some true) := by
  have arranged := course_keep_iff.1 course
  have wanted : ∀ cpu, (cpus.contains cpu == on) = true ↔ (cpu ∈ cpus ↔ on = true) := by
    intro cpu
    rw [beq_iff_eq, Bool.eq_iff_iff, Std.TreeSet.contains_iff_mem]
  refine ⟨⟨?leaves, ?stays⟩, ?fails⟩
  case leaves =>
    intro stays
    by_contra neither
    obtain ⟨left, looked⟩ := not_or.1 neither
    have none : ∀ cpu, start cpu = some true → (cpus.contains cpu == on) = false := by
      intro cpu online
      rw [← Bool.not_eq_true, wanted]
      exact fun kept => left ⟨cpu, online, kept⟩
    obtain ⟨middle, passed, empty⟩ := emptied_of_looked arranged run none (not_not.1 looked)
    exact empty (stays middle passed)
  case stays =>
    rintro (⟨cpu, online, kept⟩ | unlooked)
    · exact stays_occupied_of_kept arranged run online ((wanted cpu).2 kept)
    · exact (ended_of_not_looked arranged run occupied unlooked).2.1
  case fails =>
    intro unlooked
    obtain ⟨failed, _, unraised⟩ := ended_of_not_looked arranged run occupied unlooked
    exact ⟨failed, unraised⟩

/-- Of two CPUs the first one is on. -/
def firstOfTwo : CpuStates := fun cpu =>
  if cpu = 0 then some true else if cpu = 1 then some false else none

theorem lists_first_of_two : Lists firstOfTwo true [0x30, 0x0a] := by
  apply lists_of_parse "0\n" [0] rfl rfl
  intro cpu
  simp only [firstOfTwo]
  split_ifs <;> simp_all

/-- A request for some CPUs to be online. -/
def among (cpus : List Nat) : CpuSet := (∅ : CpuSet).insertMany cpus

theorem occupied_first_of_two : Occupied firstOfTwo := ⟨0, rfl⟩

/-- With the first CPU among those that are to be online it stays so while the second one comes on.
Where the second one alone is to be online the request fails if the kernel does not let the first
one go. -/
theorem first_of_two_stays :
    (∃ asked finish, Course (keep "cpu" true (among [0, 1])).outcome asked (.ok ()) ∧
      CpuRun "cpu" firstOfTwo asked finish ∧ finish 1 = some true ∧
      StaysOccupied "cpu" firstOfTwo asked) ∧
    ∃ asked outcome finish, Course (keep "cpu" true (among [1])).outcome asked outcome ∧
      CpuRun "cpu" firstOfTwo asked finish ∧ ¬ Looked "cpu" asked ∧
      StaysOccupied "cpu" firstOfTwo asked ∧ ∃ failure, outcome = .error failure := by
  constructor
  · have lost : Lists firstOfTwo false [0x31, 0x0a] := by
      apply lists_of_parse "1\n" [1] rfl rfl
      intro cpu
      simp only [firstOfTwo]
      split_ifs <;> simp_all
    have course : Course (keep "cpu" true (among [0, 1])).outcome
        [lookOnline "cpu" (.ok [0x30, 0x0a]), lookOffline "cpu" (.ok [0x31, 0x0a]),
          switching "cpu" true 1 (.ok ())] (.ok ()) :=
      .ask _ (.ask _ (.ask _ (.done _)))
    have run : CpuRun "cpu" firstOfTwo _ (withStates true [1] firstOfTwo) :=
      .step (truthful_online lists_first_of_two)
        (.step (truthful_offline lost) (cpu_run_switch true 1 (.stay _)))
    have wanted : 0 ∈ among [0, 1] := by decide
    refine ⟨_, _, course, run, rfl, ?_⟩
    exact (occupied_while_rearranged course run occupied_first_of_two).1.2
      (.inl ⟨0, rfl, iff_of_true wanted rfl⟩)
  · have course : Course (keep "cpu" true (among [1])).outcome
        [lookOnline "cpu" (.ok [0x30, 0x0a]), switching "cpu" false 0 (.error .permissionDenied)]
        (.error (.io .permissionDenied)) :=
      .ask _ (.ask _ (.done _))
    have run : CpuRun "cpu" firstOfTwo [lookOnline "cpu" (.ok [0x30, 0x0a]),
        switching "cpu" false 0 (.error .permissionDenied)] firstOfTwo :=
      .step (truthful_online lists_first_of_two) (.step trivial (.stay _))
    have unlooked : ¬ Looked "cpu" [lookOnline "cpu" (.ok [0x30, 0x0a]),
        switching "cpu" false 0 (.error .permissionDenied)] := by
      rintro ⟨answer, member⟩
      rcases List.mem_cons.1 member with same | member
      · exact look_online_ne_look_offline _ _ same
      · cases List.mem_singleton.1 member
    have ended := occupied_while_rearranged course run occupied_first_of_two
    exact ⟨_, _, _, course, run, unlooked, ended.1.2 (.inr unlooked), (ended.2 unlooked).1⟩

/-- Where the second CPU is to be online in place of the first one, both are off in between. -/
theorem both_off_in_between :
    ∃ asked middle finish, Occupied firstOfTwo ∧
      (∃ cpu ∈ among [1], (firstOfTwo cpu).isSome) ∧
      Course (setOnline "cpu" (among [1])).outcome asked (.ok ()) ∧
      CpuRun "cpu" firstOfTwo asked finish ∧ (∀ exchange ∈ asked, Succeeded exchange) ∧
      PassesThrough "cpu" firstOfTwo asked middle ∧ ∀ cpu, middle cpu ≠ some true := by
  have both : Lists (withStates false [0] firstOfTwo) false [0x30, 0x2d, 0x31, 0x0a] := by
    apply lists_of_parse "0-1\n" [0, 1] rfl rfl
    intro cpu
    simp only [withStates, firstOfTwo, List.mem_singleton]
    split_ifs <;> simp_all
  have course : Course (setOnline "cpu" (among [1])).outcome
      [lookOnline "cpu" (.ok [0x30, 0x0a]), switching "cpu" false 0 (.ok ()),
        lookOffline "cpu" (.ok [0x30, 0x2d, 0x31, 0x0a]), switching "cpu" true 1 (.ok ())]
      (.ok ()) :=
    .ask _ (.ask _ (.ask _ (.ask _ (.done _))))
  have run : CpuRun "cpu" firstOfTwo _ (withStates true [1] (withStates false [0] firstOfTwo)) :=
    .step (truthful_online lists_first_of_two) (cpu_run_switch false 0
      (.step (truthful_offline both) (cpu_run_switch true 1 (.stay _))))
  have begun : CpuRun "cpu" firstOfTwo
      [lookOnline "cpu" (.ok [0x30, 0x0a]), switching "cpu" false 0 (.ok ())]
      (withStates false [0] firstOfTwo) :=
    .step (truthful_online lists_first_of_two) (cpu_run_switch false 0 (.stay _))
  refine ⟨_, _, _, occupied_first_of_two, ⟨1, by decide, rfl⟩, course, run, ?_,
    ⟨_, List.prefix_append _ _, begun⟩, ?_⟩
  · simp [lookOnline, lookOffline, switching, Succeeded]
  · intro cpu
    simp only [withStates, firstOfTwo, List.mem_singleton]
    split_ifs <;> simp

end TraceOverhead.Hotplug
