import TraceOverhead.Proofs.Cpu.Machine
import TraceOverhead.Proofs.Dialogue.InTurn
import TraceOverhead.Proofs.Host
/-!
Switching CPUs on a machine that shows its states truthfully. If every read and write succeeds,
switching leaves just the CPUs asked for online, whatever was online before.
-/

namespace TraceOverhead.Hotplug

open Dialogue Host

variable {root : String} {start middle finish : CpuStates} {asked : List (Exchange host)}

section Lists

def lookOnline (root : String) (answer : Except IoFailure Bytes) : Exchange host :=
  ⟨Host.Request.readFile (Path.join root "online"), answer⟩

def lookOffline (root : String) (answer : Except IoFailure Bytes) : Exchange host :=
  ⟨Host.Request.readFile (Path.join root "offline"), answer⟩

/-- The CPUs that an answer lists. -/
def listed (answer : Except IoFailure Bytes) : Except Error CpuSet :=
  ((answer.mapError Error.io).bind decode).bind CpuListing.parse

/-- A list is read with a single request, and what it says is made of the answer. -/
theorem course_read_set_iff {name : String} {outcome : Except Error CpuSet} :
    Course (readSet root name).outcome asked outcome ↔
      ∃ answer : Except IoFailure Bytes,
        asked = [⟨Host.Request.readFile (Path.join root name), answer⟩] ∧
          outcome = ((answer.mapError Error.io).bind decode).bind CpuListing.parse := by
  rw [readSet, course_outcome_bind_lift_iff]
  simp only [read_text_eq, course_outcome_bind_lift_iff, course_read_file_iff]
  constructor
  · intro parts
    obtain ⟨_, ⟨_, ⟨answer, rfl, rfl⟩, rfl⟩, rfl⟩ := parts
    exact ⟨answer, rfl, rfl⟩
  · intro parts
    obtain ⟨answer, rfl, rfl⟩ := parts
    exact ⟨_, ⟨_, ⟨answer, rfl, rfl⟩, rfl⟩, rfl⟩

theorem course_online_iff {outcome : Except Error CpuSet} :
    Course (online root).outcome asked outcome ↔
      ∃ answer : Except IoFailure Bytes,
        asked = [⟨Host.Request.readFile (Path.join root "online"), answer⟩] ∧
          outcome = listed answer :=
  course_read_set_iff

theorem course_offline_iff {outcome : Except Error CpuSet} :
    Course (offline root).outcome asked outcome ↔
      ∃ answer : Except IoFailure Bytes,
        asked = [⟨Host.Request.readFile (Path.join root "offline"), answer⟩] ∧
          outcome = listed answer :=
  course_read_set_iff

theorem parse_of_lists {states : CpuStates} {online : Bool} {content : Bytes}
    (lists : Lists states online content) :
    ∃ cpus, (decode content).bind CpuListing.parse = .ok cpus ∧
      ∀ cpu, cpu ∈ cpus ↔ states cpu = some online := by
  obtain ⟨text, cpus, decoded, parsed, members⟩ := lists
  refine ⟨cpus, ?_, members⟩
  simp [decode, decoded, Except.bind, CpuListing.parse, parsed]

/-- On a machine that shows its states truthfully a list says which CPUs are in a state. -/
theorem look_of_cpu_run {name : String} {on : Bool} {answer : Except IoFailure Bytes}
    (right : ∀ content : Bytes,
      Truthful root start ⟨Host.Request.readFile (Path.join root name), .ok content⟩ →
        Lists start on content)
    (run : CpuRun root start (⟨Host.Request.readFile (Path.join root name), answer⟩ :: asked)
      finish) :
    CpuRun root start asked finish ∧
      (∀ cpus, listed answer = .ok cpus → ∀ cpu, cpu ∈ cpus ↔ start cpu = some on) ∧
      (Succeeded ⟨Host.Request.readFile (Path.join root name), answer⟩ →
        ∃ cpus, listed answer = .ok cpus) := by
  obtain ⟨truthful, rest⟩ := cpu_run_cons_iff.1 run
  refine ⟨rest, ?_⟩
  cases answer with
  | error cause =>
      constructor
      · intro cpus impossible
        contradiction
      · intro succeeded
        exact succeeded.elim
  | ok content =>
      obtain ⟨cpus, read, members⟩ := parse_of_lists (right content truthful)
      constructor
      · intro other same
        obtain rfl := Except.ok.inj (read.symm.trans same)
        exact members
      · intro _
        exact ⟨cpus, read⟩

theorem look_online_of_cpu_run {answer : Except IoFailure Bytes}
    (run : CpuRun root start (lookOnline root answer :: asked) finish) :
    CpuRun root start asked finish ∧
      (∀ cpus, listed answer = .ok cpus → ∀ cpu, cpu ∈ cpus ↔ start cpu = some true) ∧
      (Succeeded (lookOnline root answer) → ∃ cpus, listed answer = .ok cpus) :=
  look_of_cpu_run (fun _ truthful => truthful.1 rfl) run

theorem look_offline_of_cpu_run {answer : Except IoFailure Bytes}
    (run : CpuRun root start (lookOffline root answer :: asked) finish) :
    CpuRun root start asked finish ∧
      (∀ cpus, listed answer = .ok cpus → ∀ cpu, cpu ∈ cpus ↔ start cpu = some false) ∧
      (Succeeded (lookOffline root answer) → ∃ cpus, listed answer = .ok cpus) :=
  look_of_cpu_run (fun _ truthful => truthful.2 rfl) run

theorem read_online {outcome : Except Error CpuSet}
    (course : Course (online root).outcome asked outcome) (run : CpuRun root start asked finish) :
    finish = start ∧ (∀ cpus, outcome = .ok cpus → ∀ cpu, cpu ∈ cpus ↔ start cpu = some true) ∧
      ((∀ exchange ∈ asked, Succeeded exchange) → ∃ cpus, outcome = .ok cpus) := by
  obtain ⟨answer, rfl, rfl⟩ := course_online_iff.1 course
  obtain ⟨stayed, members, found⟩ := look_online_of_cpu_run run
  exact ⟨cpu_run_nil_iff.1 stayed, members, fun succeeded => found (succeeded _ List.mem_cons_self)⟩

end Lists

section Switches

def withStates (on : Bool) (cpus : List Nat) (states : CpuStates) : CpuStates := fun cpu =>
  if cpu ∈ cpus then (states cpu).map fun _ => on else states cpu

theorem switched_switch (on : Bool) (cpu : Nat) (states : CpuStates) :
    switched root states ⟨Host.Request.writeFile (switchPath root cpu)
      (Text.toBytes (if on then "1" else "0")), .ok ()⟩ = withStates on [cpu] states := by
  have command : command? (Text.toBytes (if on then "1" else "0")) = some on := by
    cases on <;> decide
  funext other
  rw [switched, withStates, command]
  by_cases same : other = cpu
  · simp [same]
  · have apart : switchPath root cpu ≠ switchPath root other := by
      intro path
      exact same (switch_path_inj path).symm
    simp [same, apart]

theorem cpu_run_switch {exchanges : List (Exchange host)} (on : Bool) (cpu : Nat)
    (rest : CpuRun root (withStates on [cpu] start) exchanges finish) :
    CpuRun root start (⟨Host.Request.writeFile (switchPath root cpu)
      (Text.toBytes (if on then "1" else "0")), .ok ()⟩ :: exchanges) finish := by
  rw [cpu_run_cons_iff, switched_switch]
  exact ⟨trivial, rest⟩

theorem with_states_cons (on : Bool) (cpu : Nat) (cpus : List Nat) (states : CpuStates) :
    withStates on cpus (withStates on [cpu] states) = withStates on (cpu :: cpus) states := by
  funext other
  simp only [withStates, List.mem_cons, List.not_mem_nil, or_false]
  cases states other <;> by_cases here : other = cpu <;> by_cases later : other ∈ cpus <;>
    simp [here, later]

/-- A CPU's switch is written, with an answer. -/
def switching (root : String) (on : Bool) (cpu : Nat) (answer : Except IoFailure Unit) :
    Exchange host :=
  ⟨Host.Request.writeFile (switchPath root cpu) (Text.toBytes (if on then "1" else "0")), answer⟩

def heeded (_ : Nat) (answer : Except IoFailure Unit) : Except Error Unit :=
  answer.mapError Error.io

/-- CPUs are switched in turn, up to the first that cannot be. -/
abbrev Switches (root : String) (on : Bool) :
    List Nat → List (Exchange host) → Except Error Unit → Prop :=
  InTurn (switching root on) heeded

theorem course_switch_all_iff {on : Bool} {cpus : List Nat} {outcome : Except Error Unit} :
    Course (switchAll root on cpus).outcome asked outcome ↔ Switches root on cpus asked outcome :=
  course_in_turn_iff rfl (fun _ _ => rfl) fun _ _ _ => course_write_text_iff

theorem heeded_eq_ok_iff {cpu : Nat} {answer : Except IoFailure Unit} :
    heeded cpu answer = .ok () ↔ answer = .ok () := by
  cases answer with
  | error cause =>
      have told : heeded cpu (.error cause) = .error (.io cause) := rfl
      simp [told]
  | ok => exact iff_of_true rfl rfl

/-- Switches that all succeed switch all CPUs they are meant for and no others. -/
theorem states_of_switches {on : Bool} {cpus : List Nat}
    (switches : Switches root on cpus asked (.ok ())) (run : CpuRun root start asked finish) :
    finish = withStates on cpus start := by
  induction cpus generalizing asked start with
  | nil =>
      obtain ⟨rfl, _⟩ := InTurn.nil_iff.1 switches
      rw [cpu_run_nil_iff.1 run]
      funext cpu
      simp [withStates]
  | cons cpu cpus induction =>
      rcases switches.cons_cases with ⟨_, _, _, _, impossible⟩ | ⟨answer, rest, fine, others, rfl⟩
      · contradiction
      · obtain rfl := heeded_eq_ok_iff.1 fine
        obtain ⟨_, remaining⟩ := cpu_run_cons_iff.1 run
        rw [switching, switched_switch] at remaining
        rw [induction others remaining, with_states_cons]

theorem ok_of_switches {on : Bool} {cpus : List Nat} {outcome : Except Error Unit}
    (switches : Switches root on cpus asked outcome)
    (succeeded : ∀ exchange ∈ asked, Succeeded exchange) : outcome = .ok () := by
  cases switches with
  | all made fine => rfl
  | @cut made fine cpu answer failure failed rest =>
      cases answer with
      | error cause =>
          exact (succeeded (switching root on cpu (.error cause)) (by simp)).elim
      | ok => contradiction

end Switches

section Arranging

/-- Leaves just the wanted CPUs online. -/
def arrange (root : String) (wanted : Nat → Bool) : Attempt host Unit := do
  switchAll root false ((← online root).toList.filter fun cpu => !wanted cpu)
  switchAll root true ((← offline root).toList.filter wanted)

theorem set_online_eq (root : String) (cpus : CpuSet) :
    setOnline root cpus = arrange root cpus.contains := rfl

theorem set_offline_eq (root : String) (cpus : CpuSet) :
    setOffline root cpus = arrange root fun cpu => !cpus.contains cpu := by
  simp only [arrange, Bool.not_not]
  rfl

/-- How far an arrangement comes. The CPUs that are missing are told by a list that is read after
the others were switched off. -/
inductive Arranged (root : String) (wanted : Nat → Bool) :
    List (Exchange host) → Except Error Unit → Prop
  | onlineUnlisted {answer : Except IoFailure Bytes} {failure : Error}
      (unlisted : listed answer = .error failure) :
      Arranged root wanted [lookOnline root answer] (.error failure)
  | halted {answer : Except IoFailure Bytes} {current : CpuSet} {lowering : List (Exchange host)}
      {failure : Error} (found : listed answer = .ok current)
      (lowered : Switches root false (current.toList.filter fun cpu => !wanted cpu) lowering
        (.error failure)) :
      Arranged root wanted (lookOnline root answer :: lowering) (.error failure)
  | offlineUnlisted {answer other : Except IoFailure Bytes} {current : CpuSet}
      {lowering : List (Exchange host)} {failure : Error} (found : listed answer = .ok current)
      (lowered : Switches root false (current.toList.filter fun cpu => !wanted cpu) lowering
        (.ok ()))
      (unlisted : listed other = .error failure) :
      Arranged root wanted (lookOnline root answer :: (lowering ++ [lookOffline root other]))
        (.error failure)
  | raised {answer other : Except IoFailure Bytes} {current missing : CpuSet}
      {lowering raising : List (Exchange host)} {outcome : Except Error Unit}
      (found : listed answer = .ok current)
      (lowered : Switches root false (current.toList.filter fun cpu => !wanted cpu) lowering
        (.ok ()))
      (lost : listed other = .ok missing)
      (raised : Switches root true (missing.toList.filter wanted) raising outcome) :
      Arranged root wanted
        (lookOnline root answer :: (lowering ++ lookOffline root other :: raising)) outcome

theorem course_arrange_iff {wanted : Nat → Bool} {outcome : Except Error Unit} :
    Course (arrange root wanted).outcome asked outcome ↔ Arranged root wanted asked outcome := by
  rw [arrange, course_outcome_bind_iff]
  simp only [course_outcome_bind_iff, course_switch_all_iff, course_online_iff, course_offline_iff]
  constructor
  · intro parts
    rcases parts with ⟨failure, ⟨answer, rfl, unlisted⟩, rfl⟩ |
      ⟨_, current, _, ⟨answer, rfl, found⟩, lowered, rfl⟩
    · exact .onlineUnlisted unlisted.symm
    rcases lowered with ⟨failure, lowered, rfl⟩ | ⟨lowering, _, _, lowered, looked, rfl⟩
    · exact .halted found.symm lowered
    rcases looked with ⟨failure, ⟨other, rfl, unlisted⟩, rfl⟩ |
      ⟨_, missing, raising, ⟨other, rfl, lost⟩, raised, rfl⟩
    · exact .offlineUnlisted found.symm lowered unlisted.symm
    · exact .raised found.symm lowered lost.symm raised
  · intro arranged
    cases arranged with
    | onlineUnlisted unlisted => exact .inl ⟨_, ⟨_, rfl, unlisted.symm⟩, rfl⟩
    | halted found lowered =>
        exact .inr ⟨_, _, _, ⟨_, rfl, found.symm⟩, .inl ⟨_, lowered, rfl⟩, rfl⟩
    | offlineUnlisted found lowered unlisted =>
        refine .inr ⟨_, _, _, ⟨_, rfl, found.symm⟩, .inr ⟨_, (), _, lowered, ?_, rfl⟩, rfl⟩
        exact .inl ⟨_, ⟨_, rfl, unlisted.symm⟩, rfl⟩
    | raised found lowered lost raised =>
        refine .inr ⟨_, _, _, ⟨_, rfl, found.symm⟩, .inr ⟨_, (), _, lowered, ?_, rfl⟩, rfl⟩
        exact .inr ⟨_, _, _, ⟨_, rfl, lost.symm⟩, raised, rfl⟩

theorem mem_lowered_iff {current : CpuSet} {wanted : Nat → Bool}
    (members : ∀ cpu, cpu ∈ current ↔ start cpu = some true) (cpu : Nat) :
    (cpu ∈ current.toList.filter fun cpu => !wanted cpu) ↔
      start cpu = some true ∧ wanted cpu = false := by
  rw [List.mem_filter, Std.TreeSet.mem_toList, members, Bool.not_eq_true']

/-- What was switched off is not wanted, so of the wanted CPUs just those were missing before. -/
theorem mem_raised_iff {current missing : CpuSet} {wanted : Nat → Bool}
    (online : ∀ cpu, cpu ∈ current ↔ start cpu = some true)
    (offline : ∀ cpu, cpu ∈ missing ↔
      withStates false (current.toList.filter fun cpu => !wanted cpu) start cpu = some false)
    (cpu : Nat) :
    cpu ∈ missing.toList.filter wanted ↔ start cpu = some false ∧ wanted cpu = true := by
  rw [List.mem_filter, Std.TreeSet.mem_toList, offline, withStates]
  simp only [mem_lowered_iff online]
  constructor
  · intro parts
    obtain ⟨lost, needed⟩ := parts
    rw [if_neg (by simp [needed])] at lost
    exact ⟨lost, needed⟩
  · intro parts
    obtain ⟨lost, needed⟩ := parts
    rw [if_neg (by simp [needed])]
    exact ⟨lost, needed⟩

theorem arranged_states {current missing : CpuSet} {wanted : Nat → Bool}
    (online : ∀ cpu, cpu ∈ current ↔ start cpu = some true)
    (offline : ∀ cpu, cpu ∈ missing ↔
      withStates false (current.toList.filter fun cpu => !wanted cpu) start cpu = some false) :
    withStates true (missing.toList.filter wanted)
        (withStates false (current.toList.filter fun cpu => !wanted cpu) start) =
      fun cpu => (start cpu).map fun _ => wanted cpu := by
  funext cpu
  simp only [withStates, mem_raised_iff online offline, mem_lowered_iff online]
  cases start cpu with
  | none => simp
  | some state => cases state <;> cases wanted cpu <;> simp

/-- If nothing fails just the wanted CPUs are online, of those that there are. -/
theorem arranged_done {wanted : Nat → Bool} {outcome : Except Error Unit}
    (arranged : Arranged root wanted asked outcome) (run : CpuRun root start asked finish)
    (succeeded : ∀ exchange ∈ asked, Succeeded exchange) :
    outcome = .ok () ∧ finish = fun cpu => (start cpu).map fun _ => wanted cpu := by
  cases arranged with
  | onlineUnlisted unlisted =>
      obtain ⟨cpus, found⟩ := (look_online_of_cpu_run run).2.2 (succeeded _ List.mem_cons_self)
      rw [unlisted] at found
      contradiction
  | halted found lowered =>
      have well := ok_of_switches lowered (List.forall_mem_cons.1 succeeded).2
      contradiction
  | offlineUnlisted found lowered unlisted =>
      obtain ⟨rest, _⟩ := look_online_of_cpu_run run
      obtain ⟨middle, _, rest⟩ := cpu_run_append_iff.1 rest
      obtain ⟨cpus, lost⟩ := (look_offline_of_cpu_run rest).2.2 (succeeded _ (by simp))
      rw [unlisted] at lost
      contradiction
  | raised found lowered lost raised =>
      obtain ⟨rest, online, _⟩ := look_online_of_cpu_run run
      obtain ⟨middle, lowering, rest⟩ := cpu_run_append_iff.1 rest
      obtain rfl := states_of_switches lowered lowering
      obtain ⟨raising, offline, _⟩ := look_offline_of_cpu_run rest
      obtain rfl := ok_of_switches raised fun exchange member =>
        succeeded exchange (by simp [member])
      rw [states_of_switches raised raising]
      exact ⟨rfl, arranged_states (online _ found) (offline _ lost)⟩

end Arranging

section Restoring

/-- Just the given CPUs online, of those that there are. -/
def onlyOnline (cpus : CpuSet) (states : CpuStates) : CpuStates := fun cpu =>
  (states cpu).map fun _ => cpus.contains cpu

theorem set_online_done {cpus : CpuSet} {outcome : Except Error Unit}
    (course : Course (setOnline root cpus).outcome asked outcome)
    (run : CpuRun root start asked finish) (succeeded : ∀ exchange ∈ asked, Succeeded exchange) :
    outcome = .ok () ∧ finish = onlyOnline cpus start :=
  arranged_done (course_arrange_iff.1 (set_online_eq root cpus ▸ course)) run succeeded

/-- Whatever was switched in between, the guard brings back what it saved. -/
theorem restore_done {saved : CpuSet} {done : Unit}
    (course : Course (restore root saved) asked done) (run : CpuRun root start asked finish)
    (succeeded : ∀ exchange ∈ asked, Succeeded exchange) : finish = onlyOnline saved start := by
  obtain ⟨first, outcome, second, restored, logged, rfl⟩ := course_bind_iff.1 course
  obtain ⟨middle, switching, logging⟩ := cpu_run_append_iff.1 run
  obtain ⟨rfl, rfl⟩ := set_online_done restored switching (List.forall_mem_append.1 succeeded).1
  obtain ⟨rfl, _⟩ := course_done_iff.1 logged
  exact cpu_run_nil_iff.1 logging

end Restoring

end TraceOverhead.Hotplug
