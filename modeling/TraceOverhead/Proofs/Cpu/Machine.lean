import Std.Data.TreeSet.Lemmas
import TraceOverhead.Cpu.Hotplug
import TraceOverhead.Proofs.Dialogue.Attempt
import TraceOverhead.Proofs.File.Path
import TraceOverhead.Proofs.Number.Text
/-!
A machine whose CPUs are on or off, as it shows itself to someone who only asks the operating
system: its two lists say which CPUs are in which state, a write that succeeds at a CPU's own file
switches that CPU, and nothing else switches any. Switching on such a machine does what it says when
no read and no write fails.
-/

namespace TraceOverhead

open Dialogue

/-- Whether each CPU is online; numbers without a CPU have no state. -/
abbrev CpuStates := Nat → Option Bool

namespace Hotplug

/-- What a write to a switch says. -/
def command? (content : Bytes) : Option Bool :=
  if content = Text.toBytes "1" then some true
  else if content = Text.toBytes "0" then some false
  else none

def switched (root : String) (states : CpuStates) : Exchange host → CpuStates
  | ⟨Host.Request.writeFile path content, .ok ()⟩ => fun cpu =>
    if path = switchPath root cpu then (states cpu).map fun online => (command? content).getD online
    else states cpu
  | _ => states

/-- A listing of exactly the CPUs in a state. -/
def Lists (states : CpuStates) (online : Bool) (content : Bytes) : Prop :=
  ∃ text cpus, Text.ofBytes? content = some text ∧ CpuListing.parse? text = some cpus ∧
    ∀ cpu, cpu ∈ cpus ↔ states cpu = some online

/-- Where a list can be read at all, it is right. -/
def Truthful (root : String) (states : CpuStates) : Exchange host → Prop
  | ⟨Host.Request.readFile path, .ok content⟩ =>
    (path = Path.join root "online" → Lists states true content) ∧
      (path = Path.join root "offline" → Lists states false content)
  | _ => True

/-- The states of the CPUs before and after some exchanges. -/
inductive CpuRun (root : String) : CpuStates → List (Exchange host) → CpuStates → Prop
  | stay (states : CpuStates) : CpuRun root states [] states
  | step {states final : CpuStates} {exchange : Exchange host} {exchanges : List (Exchange host)}
      (truthful : Truthful root states exchange)
      (rest : CpuRun root (switched root states exchange) exchanges final) :
      CpuRun root states (exchange :: exchanges) final

def Succeeded : Exchange host → Prop
  | ⟨Host.Request.readFile _, .error _⟩ => False
  | ⟨Host.Request.writeFile _ _, .error _⟩ => False
  | _ => True

variable {root : String} {start middle finish : CpuStates}

section Runs

theorem cpu_run_nil_iff : CpuRun root start [] finish ↔ finish = start := by
  constructor
  · intro run
    cases run
    rfl
  · intro same
    rw [same]
    exact .stay start

theorem cpu_run_cons_iff {exchange : Exchange host} {exchanges : List (Exchange host)} :
    CpuRun root start (exchange :: exchanges) finish ↔
      Truthful root start exchange ∧
        CpuRun root (switched root start exchange) exchanges finish := by
  constructor
  · intro run
    cases run with
    | step truthful rest => exact ⟨truthful, rest⟩
  · intro parts
    exact .step parts.1 parts.2

theorem cpu_run_append_iff {first second : List (Exchange host)} :
    CpuRun root start (first ++ second) finish ↔
      ∃ middle, CpuRun root start first middle ∧ CpuRun root middle second finish := by
  induction first generalizing start with
  | nil => simp [cpu_run_nil_iff]
  | cons exchange first induction =>
      rw [List.cons_append, cpu_run_cons_iff, induction]
      constructor
      · intro parts
        obtain ⟨truthful, middle, left, right⟩ := parts
        exact ⟨middle, cpu_run_cons_iff.2 ⟨truthful, left⟩, right⟩
      · intro parts
        obtain ⟨middle, left, right⟩ := parts
        obtain ⟨truthful, left⟩ := cpu_run_cons_iff.1 left
        exact ⟨truthful, middle, left, right⟩

theorem is_some_switched (exchange : Exchange host) (cpu : Nat) :
    (switched root start exchange cpu).isSome = (start cpu).isSome := by
  fun_cases switched root start exchange with
  | case1 path content =>
      dsimp only
      split
      · exact Option.isSome_map
      · rfl
  | case2 => rfl

/-- No CPU is ever added or lost. -/
theorem is_some_of_cpu_run {exchanges : List (Exchange host)}
    (run : CpuRun root start exchanges finish) (cpu : Nat) :
    (finish cpu).isSome = (start cpu).isSome := by
  induction run with
  | stay states => rfl
  | step truthful rest induction => rw [induction, is_some_switched]

theorem cpu_run_still {exchanges : List (Exchange host)}
    (still : ∀ exchange ∈ exchanges, ∀ states, switched root states exchange = states)
    (run : CpuRun root start exchanges finish) : finish = start := by
  induction run with
  | stay states => rfl
  | step truthful rest induction =>
      rw [induction fun other member => still other (List.mem_cons_of_mem _ member)]
      exact still _ List.mem_cons_self _

end Runs

section Listings

theorem lists_of_parse {states : CpuStates} {on : Bool} {content : Bytes} (text : String)
    (cpus : List Nat) (decoded : Text.ofBytes? content = some text)
    (parsed : CpuListing.parse? text = some ((∅ : CpuSet).insertMany cpus))
    (members : ∀ cpu, cpu ∈ cpus ↔ states cpu = some on) : Lists states on content := by
  refine ⟨text, _, decoded, parsed, ?_⟩
  intro cpu
  rw [Std.TreeSet.mem_insertMany_list, List.contains_iff_mem, members]
  simp

theorem online_ne_offline (root : String) : Path.join root "online" ≠ Path.join root "offline" := by
  have online : ("online" : String).startsWith "/" = false := by
    rw [String.startsWith_string_eq_false_iff]
    decide
  have offline : ("offline" : String).startsWith "/" = false := by
    rw [String.startsWith_string_eq_false_iff]
    decide
  intro same
  have texts := congrArg String.toList same
  rw [Path.join_relative online, Path.join_relative offline, List.append_cancel_left_eq] at texts
  contradiction

theorem truthful_online {states : CpuStates} {content : Bytes} (lists : Lists states true content) :
    Truthful root states ⟨Host.Request.readFile (Path.join root "online"), .ok content⟩ := by
  constructor
  · intro _
    exact lists
  · intro same
    exact absurd same (online_ne_offline root)

theorem truthful_offline {states : CpuStates} {content : Bytes}
    (lists : Lists states false content) :
    Truthful root states ⟨Host.Request.readFile (Path.join root "offline"), .ok content⟩ := by
  constructor
  · intro same
    exact absurd same.symm (online_ne_offline root)
  · intro _
    exact lists

end Listings

section Switching

theorem switch_path_inj {first second : Nat} (same : switchPath root first = switchPath root second) :
    first = second := by
  have named : ∀ cpu, ("cpu" ++ Number.decimal cpu).startsWith "/" = false := by
    intro cpu
    rw [String.startsWith_string_eq_false_iff, String.toList_append]
    intro leading
    exact absurd (List.cons_prefix_cons.1 leading).1 (by decide)
  have online : ("online" : String).startsWith "/" = false := by
    rw [String.startsWith_string_eq_false_iff]
    decide
  have opened : ∀ cpu, Path.opening (Path.join root ("cpu" ++ Number.decimal cpu)) =
      Path.opening root ++ ("cpu" ++ Number.decimal cpu).toList ++ ['/'] := by
    intro cpu
    have text := Path.join_relative (named cpu) root
    have digits : (Number.decimal cpu).toList ≠ [] := by simpa using Number.decimal_ne_empty cpu
    have last : (Number.decimal cpu).toList =
        (Number.decimal cpu).toList.dropLast ++ [(Number.decimal cpu).toList.getLast digits] :=
      (List.dropLast_append_getLast digits).symm
    have digit := Number.is_digit_of_mem_decimal (List.getLast_mem digits)
    have inside : (Number.decimal cpu).toList.getLast digits ≠ '/' := by
      intro slash
      rw [slash] at digit
      contradiction
    have split : (Path.join root ("cpu" ++ Number.decimal cpu)).toList =
        (Path.opening root ++ "cpu".toList ++ (Number.decimal cpu).toList.dropLast) ++
          [(Number.decimal cpu).toList.getLast digits] := by
      rw [text, String.toList_append, List.append_assoc, List.append_assoc, ← last]
    rw [Path.opening_of_last split inside, text]
  have texts := congrArg String.toList same
  rw [switchPath, switchPath, Path.join_relative online, Path.join_relative online,
    List.append_cancel_right_eq, opened, opened, List.append_cancel_right_eq,
    List.append_cancel_left_eq, String.toList_append, String.toList_append,
    List.append_cancel_left_eq] at texts
  exact Number.decimal_inj.1 (String.toList_inj.1 texts)

end Switching

end Hotplug

end TraceOverhead
