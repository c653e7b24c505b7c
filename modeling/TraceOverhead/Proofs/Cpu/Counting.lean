import TraceOverhead.Proofs.Cpu.Setting
import TraceOverhead.Proofs.Cpu.Sparing
/-!
Counting CPUs. Whoever set a number of CPUs and was not refused has read it off the list of those
online, and no later than with the last look at that list; and setting a number asks for nothing but
the files of the CPUs.
-/

namespace TraceOverhead.Hotplug

open Dialogue Host

/-- The answer to a look at the list of the CPUs that are online. -/
def onlineAnswer? (root : String) : Exchange host → Option (Except IoFailure Bytes)
  | ⟨Host.Request.readFile path, answer⟩ =>
    if path = Path.join root "online" then some answer else none
  | _ => none

/-- When the list of the CPUs online was last read, it had `count` of them. -/
def LastCount (root : String) (asked : List (Exchange host)) (count : Nat) : Prop :=
  ∃ answer cpus, (asked.filterMap (onlineAnswer? root)).getLast? = some answer ∧
    listed answer = .ok cpus ∧ cpus.size = count

variable {root : String} {asked first second : List (Exchange host)} {count : Nat}

theorem last_count_append (last : LastCount root second count) :
    LastCount root (first ++ second) count := by
  obtain ⟨answer, cpus, latest, listing, size⟩ := last
  refine ⟨answer, cpus, ?_, listing, size⟩
  rw [List.filterMap_append, List.getLast?_append, latest]
  rfl

theorem last_count_cons {exchange : Exchange host} (last : LastCount root asked count) :
    LastCount root (exchange :: asked) count := @last_count_append root [exchange] asked count last

section Courses

theorem online_answer (answer : Except IoFailure Bytes) :
    onlineAnswer? root (lookOnline root answer) = some answer := if_pos rfl

theorem offline_answer (answer : Except IoFailure Bytes) :
    onlineAnswer? root (lookOffline root answer) = none := if_neg (online_ne_offline root).symm

theorem last_count_of_confirmed (confirmed : Confirmed root count asked (.ok ())) :
    LastCount root asked count := by
  cases confirmed with
  | @reached answer now found same =>
      refine ⟨answer, now, ?_, found, same⟩
      rw [List.filterMap_cons_some (online_answer answer)]
      rfl

/-- However the number came about, it was read off the list after the last switch. -/
theorem last_count_of_set_count (course : Course (setCount root count).outcome asked (.ok ())) :
    LastCount root asked count := by
  cases course_set_count_iff.1 course with
  | @listed answer other current missing rest outcome found lost approached =>
      cases approached with
      | same positive same =>
          refine ⟨answer, current, ?_, found, same.symm⟩
          rw [List.filterMap_cons_some (online_answer answer),
            List.filterMap_cons_none (offline_answer other)]
          rfl
      | switched plan switched confirmed =>
          have last := last_count_of_confirmed confirmed
          exact last_count_cons (last_count_cons (last_count_append last))

end Courses

section Requests

/-- What is asked of the operating system in order to count and to switch CPUs. -/
def CpuWork (root : String) : Host.Request → Prop
  | .readFile path => path = Path.join root "online" ∨ path = Path.join root "offline"
  | .writeFile path _ => ∃ cpu, path = switchPath root cpu
  | .log .. | .parallelism => True
  | _ => False

theorem asks_read_set {allowed : Host.Request → Prop} {name : String}
    (fine : allowed (.readFile (Path.join root name))) :
    Asks allowed (readSet root name).outcome :=
  Attempt.asks_bind (asks_read_text fine) fun _ => trivial

theorem asks_online : Asks (CpuWork root) (online root).outcome := asks_read_set (.inl rfl)

theorem asks_offline : Asks (CpuWork root) (offline root).outcome := asks_read_set (.inr rfl)

theorem asks_online_count : Asks (CpuWork root) (onlineCount root).outcome :=
  Attempt.asks_bind asks_online fun _ => trivial

theorem asks_switch_all (on : Bool) (cpus : List Nat) :
    Asks (CpuWork root) (switchAll root on cpus).outcome := by
  induction cpus with
  | nil => trivial
  | cons cpu cpus induction =>
      exact Attempt.asks_bind (asks_write_text ⟨cpu, rfl⟩) fun _ => induction

theorem asks_confirm_count : Asks (CpuWork root) (confirmCount root count).outcome := by
  apply Attempt.asks_bind asks_online_count
  intro reached
  split
  · exact Attempt.asks_lift ⟨trivial, fun _ => trivial⟩
  · trivial

theorem asks_set_count : Asks (CpuWork root) (setCount root count).outcome := by
  rw [set_count_eq]
  apply Attempt.asks_bind asks_online
  intro current
  apply Attempt.asks_bind asks_offline
  intro missing
  rw [approach]
  split_ifs
  · trivial
  · trivial
  · trivial
  · apply Attempt.asks_bind
    · rw [switchToward]
      split <;> exact asks_switch_all _ _
    · intro _
      exact asks_confirm_count

theorem asks_set_online (cpus : CpuSet) : Asks (CpuWork root) (setOnline root cpus).outcome := by
  apply Attempt.asks_bind asks_online
  intro current
  apply Attempt.asks_bind (asks_switch_all _ _)
  intro _
  apply Attempt.asks_bind asks_offline
  intro missing
  exact asks_switch_all _ _

theorem asks_restore (saved : CpuSet) : Asks (CpuWork root) (restore root saved) := by
  apply Dialogue.asks_bind (asks_set_online saved)
  intro outcome
  cases outcome with
  | ok => trivial
  | error failure => exact ⟨trivial, fun _ => trivial⟩

/-- A file through which CPUs are listed or switched. -/
inductive CpuFile (root : String) : String → Prop
  | online : CpuFile root (Path.join root "online")
  | offline : CpuFile root (Path.join root "offline")
  | switch (cpu : Nat) : CpuFile root (switchPath root cpu)

theorem not_cpu_file_count (sysfs : String) : ¬ CpuFile root (Path.join sysfs "count") := by
  have online : Path.join sysfs "count" ≠ Path.join root "online" :=
    Path.join_ne_of_getLast (by decide) (by decide) (by decide)
  have offline : Path.join sysfs "count" ≠ Path.join root "offline" :=
    Path.join_ne_of_getLast (by decide) (by decide) (by decide)
  generalize named : Path.join sysfs "count" = path at *
  intro file
  cases file with
  | online => exact online rfl
  | offline => exact offline rfl
  | switch cpu => exact count_ne_switch_path root sysfs cpu named

end Requests

end TraceOverhead.Hotplug
