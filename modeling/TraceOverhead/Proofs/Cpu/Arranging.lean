import Mathlib.Data.List.Nodup
import TraceOverhead.Proofs.Cpu.Listing
import TraceOverhead.Proofs.Cpu.Switching
/-!
Just the requested CPUs in one state. A CPU is written to once at most and only if it is not as it
is wanted, so the same request leaves nothing to write the second time, and requesting some CPUs in
one state is requesting all others in the other. Main statement: the request is met if nothing
fails, and no CPU is switched on if another one could not be switched off.
-/

namespace TraceOverhead.Hotplug

open Dialogue Host

/-- Leaves just the given CPUs in one state. -/
def keep (root : String) (on : Bool) (cpus : CpuSet) : Attempt host Unit :=
  if on then setOnline root cpus else setOffline root cpus

/-- What is written, and to which file. -/
def write? : Exchange host → Option (String × Bytes)
  | ⟨Host.Request.writeFile path content, _⟩ => some (path, content)
  | _ => none

def writes (asked : List (Exchange host)) : List (String × Bytes) := asked.filterMap write?

/-- The write that switches a CPU to a state. -/
def order (root : String) (move : Nat × Bool) : String × Bytes :=
  (switchPath root move.1, Text.toBytes (if move.2 then "1" else "0"))

variable {root : String} {start finish : CpuStates} {asked : List (Exchange host)}
  {outcome : Except Error Unit} {wanted : Nat → Bool}

section Writes

variable {answer : Except IoFailure Bytes}

@[simp] theorem writes_look_online :
    writes (lookOnline root answer :: asked) = writes asked := rfl

@[simp] theorem writes_look_offline :
    writes (lookOffline root answer :: asked) = writes asked := rfl

@[simp] theorem writes_append (first second : List (Exchange host)) :
    writes (first ++ second) = writes first ++ writes second := List.filterMap_append

theorem writes_cons (exchange : Exchange host) (asked : List (Exchange host)) :
    writes (exchange :: asked) = writes [exchange] ++ writes asked := writes_append [exchange] asked

/-- A CPU whose switch is not written stays as it is. -/
theorem state_of_unwritten {cpu : Nat}
    (unwritten : ∀ write ∈ writes asked, write.1 ≠ switchPath root cpu)
    (run : CpuRun root start asked finish) : finish cpu = start cpu := by
  induction run with
  | stay states => rfl
  | @step states final exchange exchanges truthful rest induction =>
      rw [writes_cons, List.forall_mem_append] at unwritten
      obtain ⟨other, later⟩ := unwritten
      rw [induction later]
      fun_cases switched root states exchange with
      | case1 path content => exact if_neg (other (path, content) List.mem_cons_self)
      | case2 => rfl

/-- Where nothing is switched on, nothing comes on. -/
theorem was_on_of_unraised {cpu : Nat}
    (unraised : ∀ write ∈ writes asked, write.2 ≠ Text.toBytes "1")
    (run : CpuRun root start asked finish) (on : finish cpu = some true) :
    start cpu = some true := by
  induction run with
  | stay states => exact on
  | @step states final exchange exchanges truthful rest induction =>
      rw [writes_cons, List.forall_mem_append] at unraised
      obtain ⟨other, later⟩ := unraised
      have after := induction later on
      revert after
      fun_cases switched root states exchange with
      | case1 path content =>
          have silent : command? content ≠ some true := by
            rw [command?, if_neg (other (path, content) List.mem_cons_self)]
            split <;> simp
          dsimp only
          split
          · cases states cpu with
            | none => simp
            | some state => cases state <;> cases said : command? content <;> simp_all
          · exact id
      | case2 => exact id

end Writes

section Moves

variable {on : Bool} {cpus : List Nat}

/-- Every CPU that is ordered is ordered once, into the state that is wanted and that it lacks. -/
structure Moves (start : CpuStates) (wanted : Nat → Bool) (moved : List (Nat × Bool)) : Prop where
  once : (moved.map Prod.fst).Nodup
  lacking : ∀ move ∈ moved, start move.1 = some (!move.2)
  needed : ∀ move ∈ moved, wanted move.1 = move.2

theorem paths_of_moves {moved : List (Nat × Bool)}
    (written : writes asked = moved.map (order root)) :
    (writes asked).map Prod.fst = (moved.map Prod.fst).map (switchPath root) := by
  rw [written, List.map_map, List.map_map]
  rfl

theorem Moves.append {lowered raised : List (Nat × Bool)} (down : Moves start wanted lowered)
    (up : Moves start wanted raised) (off : ∀ move ∈ lowered, move.2 = false)
    (on : ∀ move ∈ raised, move.2 = true) : Moves start wanted (lowered ++ raised) := by
  refine ⟨?_, List.forall_mem_append.2 ⟨down.lacking, up.lacking⟩,
    List.forall_mem_append.2 ⟨down.needed, up.needed⟩⟩
  rw [List.map_append, List.nodup_append]
  refine ⟨down.once, up.once, ?_⟩
  intro first left second right same
  obtain ⟨move, member, rfl⟩ := List.mem_map.1 left
  obtain ⟨other, there, rfl⟩ := List.mem_map.1 right
  have states : move.2 = other.2 :=
    (down.needed move member).symm.trans ((congrArg wanted same).trans (up.needed other there))
  rw [off move member, on other there] at states
  contradiction

/-- Of the switches that are meant the first ones are written. -/
theorem writes_of_switches (switches : Switches root on cpus asked outcome) :
    ∃ tried, tried <+: cpus ∧ writes asked = (tried.map fun cpu => (cpu, on)).map (order root) := by
  obtain ⟨made, first, rfl, _⟩ := switches.exists_asked
  refine ⟨made.map Prod.fst, first, ?_⟩
  rw [writes, List.filterMap_map, List.map_map, List.map_map]
  exact List.filterMap_eq_map_iff_forall_eq_some.2 fun turn _ => rfl

theorem moves_of_switches (switches : Switches root on cpus asked outcome) (once : cpus.Nodup)
    (due : ∀ cpu ∈ cpus, start cpu = some (!on) ∧ wanted cpu = on) :
    ∃ moved, writes asked = moved.map (order root) ∧ Moves start wanted moved ∧
      ∀ move ∈ moved, move.2 = on := by
  obtain ⟨tried, first, written⟩ := writes_of_switches switches
  refine ⟨_, written, ⟨?_, ?_, ?_⟩, ?_⟩
  · have names : (Prod.fst ∘ fun cpu => (cpu, on)) = (id : Nat → Nat) := rfl
    rw [List.map_map, names, List.map_id]
    exact once.sublist first.sublist
  · intro move member
    obtain ⟨cpu, there, rfl⟩ := List.mem_map.1 member
    exact (due cpu (first.mem there)).1
  · intro move member
    obtain ⟨cpu, there, rfl⟩ := List.mem_map.1 member
    exact (due cpu (first.mem there)).2
  · simp

/-- Whatever an arrangement comes to, it moves only what is to be moved. -/
theorem moves_of_arranged (arranged : Arranged root wanted asked outcome)
    (run : CpuRun root start asked finish) :
    ∃ moved, writes asked = moved.map (order root) ∧ Moves start wanted moved := by
  have lowering : ∀ {current : CpuSet} {lowering : List (Exchange host)}
      {outcome : Except Error Unit}, (∀ cpu, cpu ∈ current ↔ start cpu = some true) →
      Switches root false (current.toList.filter fun cpu => !wanted cpu) lowering outcome →
      ∃ moved, writes lowering = moved.map (order root) ∧ Moves start wanted moved ∧
        ∀ move ∈ moved, move.2 = false := by
    intro current lowering outcome online lowered
    exact moves_of_switches lowered (current.nodup.filter _) fun cpu =>
      (mem_lowered_iff online cpu).1
  cases arranged with
  | onlineUnlisted unlisted => exact ⟨[], rfl, .nil, by simp, by simp⟩
  | halted found lowered =>
      obtain ⟨_, online, _⟩ := look_online_of_cpu_run run
      obtain ⟨moved, written, moves, _⟩ := lowering (online _ found) lowered
      exact ⟨moved, written, moves⟩
  | offlineUnlisted found lowered unlisted =>
      obtain ⟨_, online, _⟩ := look_online_of_cpu_run run
      obtain ⟨moved, written, moves, _⟩ := lowering (online _ found) lowered
      refine ⟨moved, ?_, moves⟩
      rw [writes_look_online, writes_append, written]
      exact List.append_nil _
  | @raised answer other current missing lowered raised outcome found down lost up =>
      obtain ⟨rest, online, _⟩ := look_online_of_cpu_run run
      obtain ⟨middle, switched, rest⟩ := cpu_run_append_iff.1 rest
      obtain rfl := states_of_switches down switched
      obtain ⟨_, offline, _⟩ := look_offline_of_cpu_run rest
      obtain ⟨first, written, moves, off⟩ := lowering (online _ found) down
      obtain ⟨second, others, more, on⟩ := moves_of_switches up (missing.nodup.filter _) fun cpu =>
        (mem_raised_iff (online _ found) (offline _ lost) cpu).1
      refine ⟨first ++ second, ?_, moves.append more off on⟩
      rw [writes_look_online, writes_append, writes_look_offline, written, others, List.map_append]

end Moves

section Failing

variable {path : String} {content : Bytes} {failure : IoFailure}

/-- The one switch that fails is the last, and its failure is the outcome. -/
theorem outcome_of_failed_switch {on : Bool} {cpus : List Nat}
    (switches : Switches root on cpus asked outcome)
    (failed : (⟨Host.Request.writeFile path content, .error failure⟩ : Exchange host) ∈ asked) :
    content = Text.toBytes (if on then "1" else "0") ∧ outcome = .error (.io failure) := by
  have heard : ∀ made : List (Nat × Except IoFailure Unit),
      (∀ turn ∈ made, heeded turn.1 turn.2 = .ok ()) →
      (⟨Host.Request.writeFile path content, .error failure⟩ : Exchange host) ∉
        made.map fun turn => switching root on turn.1 turn.2 := by
    intro made fine member
    obtain ⟨⟨cpu, answer⟩, there, same⟩ := List.mem_map.1 member
    obtain rfl := heeded_eq_ok_iff.1 (fine _ there)
    cases same
  cases switches with
  | all made fine => exact absurd failed (heard made fine)
  | @cut made fine cpu answer cause broken rest =>
      rcases List.mem_append.1 failed with before | last
      · exact absurd before (heard made fine)
      · cases List.mem_singleton.1 last
        obtain rfl := Except.error.inj broken
        exact ⟨rfl, rfl⟩

theorem unraised_of_switches {cpus : List Nat} (lowered : Switches root false cpus asked outcome) :
    ∀ write ∈ writes asked, write.2 ≠ Text.toBytes "1" := by
  obtain ⟨tried, _, written⟩ := writes_of_switches lowered
  intro write member
  rw [written] at member
  obtain ⟨move, there, rfl⟩ := List.mem_map.1 member
  obtain ⟨cpu, _, rfl⟩ := List.mem_map.1 there
  have zero : Text.toBytes "0" ≠ Text.toBytes "1" := by decide
  simpa [order] using zero

/-- An arrangement that could not switch a CPU off stops there, before any is switched on. -/
theorem unraised_of_failed (arranged : Arranged root wanted asked outcome)
    (failed : (⟨Host.Request.writeFile path (Text.toBytes "0"), .error failure⟩ : Exchange host) ∈
      asked) :
    outcome = .error (.io failure) ∧ ∀ write ∈ writes asked, write.2 ≠ Text.toBytes "1" := by
  cases arranged with
  | onlineUnlisted unlisted => cases List.mem_singleton.1 failed
  | halted found lowered =>
      rcases List.mem_cons.1 failed with look | failed
      · cases look
      obtain ⟨_, stopped⟩ := outcome_of_failed_switch lowered failed
      rw [writes_look_online]
      exact ⟨stopped, unraised_of_switches lowered⟩
  | offlineUnlisted found lowered unlisted =>
      rcases List.mem_cons.1 failed with look | failed
      · cases look
      rcases List.mem_append.1 failed with failed | look
      · obtain ⟨_, impossible⟩ := outcome_of_failed_switch lowered failed
        contradiction
      · cases List.mem_singleton.1 look
  | raised found lowered lost raised =>
      rcases List.mem_cons.1 failed with look | failed
      · cases look
      rcases List.mem_append.1 failed with failed | failed
      · obtain ⟨_, impossible⟩ := outcome_of_failed_switch lowered failed
        contradiction
      rcases List.mem_cons.1 failed with look | failed
      · cases look
      · obtain ⟨impossible, _⟩ := outcome_of_failed_switch raised failed
        exact absurd impossible (by decide)

end Failing

section Requests

variable {on : Bool} {cpus : CpuSet}

theorem keep_eq (root : String) (on : Bool) (cpus : CpuSet) :
    keep root on cpus = arrange root fun cpu => cpus.contains cpu == on := by
  cases on with
  | true =>
      simp only [beq_true]
      exact set_online_eq root cpus
  | false =>
      simp only [beq_false]
      exact set_offline_eq root cpus

theorem course_keep_iff :
    Course (keep root on cpus).outcome asked outcome ↔
      Arranged root (fun cpu => cpus.contains cpu == on) asked outcome := by
  rw [keep_eq, course_arrange_iff]

/-- What is wanted of numbers without a CPU makes no difference. -/
theorem Arranged.congr {other : Nat → Bool} (arranged : Arranged root wanted asked outcome)
    (run : CpuRun root start asked finish)
    (agree : ∀ cpu, (start cpu).isSome → wanted cpu = other cpu) :
    Arranged root other asked outcome := by
  have lowered : ∀ current : CpuSet, (∀ cpu, cpu ∈ current ↔ start cpu = some true) →
      (current.toList.filter fun cpu => !wanted cpu) =
        current.toList.filter fun cpu => !other cpu := by
    intro current online
    apply List.filter_congr
    intro cpu member
    have state := (online cpu).1 (Std.TreeSet.mem_toList.1 member)
    rw [agree cpu (by simp [state])]
  cases arranged with
  | onlineUnlisted unlisted => exact .onlineUnlisted unlisted
  | halted found down =>
      obtain ⟨_, online, _⟩ := look_online_of_cpu_run run
      rw [lowered _ (online _ found)] at down
      exact .halted found down
  | offlineUnlisted found down unlisted =>
      obtain ⟨_, online, _⟩ := look_online_of_cpu_run run
      rw [lowered _ (online _ found)] at down
      exact .offlineUnlisted found down unlisted
  | @raised answer again current missing lowering raising outcome found down lost up =>
      obtain ⟨rest, online, _⟩ := look_online_of_cpu_run run
      obtain ⟨middle, switched, rest⟩ := cpu_run_append_iff.1 rest
      obtain ⟨_, offline, _⟩ := look_offline_of_cpu_run rest
      have raised : missing.toList.filter wanted = missing.toList.filter other := by
        apply List.filter_congr
        intro cpu member
        have state := (offline _ lost cpu).1 (Std.TreeSet.mem_toList.1 member)
        apply agree
        rw [← is_some_of_cpu_run switched cpu, state]
        rfl
      rw [lowered _ (online _ found)] at down
      rw [raised] at up
      exact .raised found down lost up

/-- What holds once a request for some CPUs in one state is met. -/
structure Met (root : String) (on : Bool) (cpus : CpuSet) (start finish : CpuStates)
    (asked : List (Exchange host)) (outcome : Except Error Unit) : Prop where
  done : outcome = .ok ()
  reached : ∀ cpu, finish cpu = some on ↔ cpu ∈ cpus ∧ (start cpu).isSome
  present : ∀ cpu, (finish cpu).isSome = (start cpu).isSome
  written : ∀ cpu, switchPath root cpu ∈ (writes asked).map Prod.fst ↔ finish cpu ≠ start cpu
  settled : ∀ again other final, Course (keep root on cpus).outcome again other →
    CpuRun root finish again final → writes again = []

/-- A request is met if nothing fails. The same request again finds everything as it is wanted. -/
theorem met_of_keep (course : Course (keep root on cpus).outcome asked outcome)
    (run : CpuRun root start asked finish) (succeeded : ∀ exchange ∈ asked, Succeeded exchange) :
    Met root on cpus start finish asked outcome := by
  have arranged := course_keep_iff.1 course
  obtain ⟨done, states⟩ := arranged_done arranged run succeeded
  obtain ⟨moved, written, moves⟩ := moves_of_arranged arranged run
  refine ⟨done, ?_, is_some_of_cpu_run run, ?_, ?_⟩
  · intro cpu
    rw [states, ← Std.TreeSet.contains_iff_mem]
    dsimp only
    cases start cpu <;> cases cpus.contains cpu <;> cases on <;> simp
  · intro cpu
    constructor
    · intro member
      rw [paths_of_moves written] at member
      obtain ⟨other, there, same⟩ := List.mem_map.1 member
      obtain ⟨move, ordered, rfl⟩ := List.mem_map.1 there
      obtain rfl := switch_path_inj same
      simp [states, moves.lacking move ordered, moves.needed move ordered]
    · intro changed
      by_contra unwritten
      refine changed (state_of_unwritten ?_ run)
      intro write member same
      exact unwritten (same ▸ List.mem_map_of_mem member)
  · intro again other final repeated further
    obtain ⟨moved, written, moves⟩ := moves_of_arranged (course_keep_iff.1 repeated) further
    rw [written, List.map_eq_nil_iff, List.eq_nil_iff_forall_not_mem]
    intro move member
    have lacking := moves.lacking move member
    simp [states, moves.needed move member] at lacking

end Requests

/-- Requesting CPUs in one state switches each CPU at most once and only out of the other state, and
leaves just these CPUs in that state. The others could as well be requested in the other state. -/
theorem requested_cpus_reached {root : String} {on : Bool} {cpus : CpuSet}
    {start finish : CpuStates} {asked : List (Exchange host)} {outcome : Except Error Unit}
    (course : Course (keep root on cpus).outcome asked outcome)
    (run : CpuRun root start asked finish) :
    ((writes asked).map Prod.fst).Nodup ∧
      (∀ write ∈ writes asked, ∃ cpu state, write = order root (cpu, state) ∧
        start cpu = some (!state)) ∧
      ((∀ exchange ∈ asked, Succeeded exchange) → Met root on cpus start finish asked outcome) ∧
      (∀ others : CpuSet, (∀ cpu, cpu ∈ others ↔ (start cpu).isSome ∧ cpu ∉ cpus) →
        Course (keep root (!on) others).outcome asked outcome) ∧
      ∀ path failure,
        (⟨Host.Request.writeFile path (Text.toBytes "0"), .error failure⟩ : Exchange host) ∈ asked →
          outcome = .error (.io failure) ∧ (∀ write ∈ writes asked, write.2 ≠ Text.toBytes "1") ∧
            ∀ cpu, finish cpu = some true → start cpu = some true := by
  have arranged := course_keep_iff.1 course
  obtain ⟨moved, written, moves⟩ := moves_of_arranged arranged run
  refine ⟨?_, ?_, met_of_keep course run, ?_, ?_⟩
  · rw [paths_of_moves written]
    exact moves.once.map fun _ _ => switch_path_inj
  · intro write member
    rw [written] at member
    obtain ⟨move, there, rfl⟩ := List.mem_map.1 member
    exact ⟨move.1, move.2, rfl, moves.lacking move there⟩
  · intro others rest
    refine course_keep_iff.2 (arranged.congr run ?_)
    intro cpu present
    have apart : others.contains cpu = !cpus.contains cpu := by
      rw [Bool.eq_iff_iff, Bool.not_eq_true', Std.TreeSet.contains_iff_mem, rest,
        ← Bool.not_eq_true, Std.TreeSet.contains_iff_mem]
      exact and_iff_right present
    rw [apart]
    cases cpus.contains cpu <;> cases on <;> rfl
  · intro path failure failed
    obtain ⟨stopped, unraised⟩ := unraised_of_failed arranged failed
    exact ⟨stopped, unraised, fun cpu => was_on_of_unraised unraised run⟩

/-- Of three CPUs the last one is off. -/
def threeCpus : CpuStates := fun cpu =>
  if cpu < 2 then some true else if cpu = 2 then some false else none

def requestedCpus : CpuSet := (∅ : CpuSet).insertMany [1, 2, 7]

/-- In order to have CPUs 1, 2 and 7, CPU 0 is switched off and CPU 2 on; not so if CPU 0 cannot be
switched off. -/
theorem three_cpus_reached :
    (∃ asked outcome finish, Course (keep "cpu" true requestedCpus).outcome asked outcome ∧
      CpuRun "cpu" threeCpus asked finish ∧
      Met "cpu" true requestedCpus threeCpus finish asked outcome) ∧
    ∃ asked outcome, Course (keep "cpu" true requestedCpus).outcome asked outcome ∧
      CpuRun "cpu" threeCpus asked threeCpus ∧ outcome = .error (.io .permissionDenied) ∧
      ∀ write ∈ writes asked, write.2 ≠ Text.toBytes "1" := by
  have twoOnline : Lists threeCpus true [0x30, 0x2d, 0x31, 0x0a] := by
    apply lists_of_parse "0-1\n" [0, 1] rfl rfl
    intro cpu
    simp only [threeCpus]
    split_ifs <;> simp <;> omega
  have twoOffline : Lists (withStates false [0] threeCpus) false [0x30, 0x2c, 0x32, 0x0a] := by
    apply lists_of_parse "0,2\n" [0, 2] rfl rfl
    intro cpu
    simp only [withStates, threeCpus, List.mem_singleton]
    split_ifs <;> simp <;> omega
  constructor
  · have course : Course (keep "cpu" true requestedCpus).outcome
        [lookOnline "cpu" (.ok [0x30, 0x2d, 0x31, 0x0a]), switching "cpu" false 0 (.ok ()),
          lookOffline "cpu" (.ok [0x30, 0x2c, 0x32, 0x0a]), switching "cpu" true 2 (.ok ())]
        (.ok ()) :=
      .ask _ (.ask _ (.ask _ (.ask _ (.done _))))
    have run : CpuRun "cpu" threeCpus _ (withStates true [2] (withStates false [0] threeCpus)) :=
      .step (truthful_online twoOnline) (cpu_run_switch false 0
        (.step (truthful_offline twoOffline) (cpu_run_switch true 2 (.stay _))))
    refine ⟨_, _, _, course, run, (requested_cpus_reached course run).2.2.1 ?_⟩
    simp [lookOnline, lookOffline, switching, Succeeded]
  · have course : Course (keep "cpu" true requestedCpus).outcome
        [lookOnline "cpu" (.ok [0x30, 0x2d, 0x31, 0x0a]),
          switching "cpu" false 0 (.error .permissionDenied)]
        (.error (.io .permissionDenied)) :=
      .ask _ (.ask _ (.done _))
    have run : CpuRun "cpu" threeCpus [lookOnline "cpu" (.ok [0x30, 0x2d, 0x31, 0x0a]),
        switching "cpu" false 0 (.error .permissionDenied)] threeCpus :=
      .step (truthful_online twoOnline) (.step trivial (.stay _))
    obtain ⟨stopped, unraised, _⟩ :=
      (requested_cpus_reached course run).2.2.2.2 _ _ (List.mem_cons_of_mem _ List.mem_cons_self)
    exact ⟨_, _, course, run, stopped, unraised⟩

end TraceOverhead.Hotplug
