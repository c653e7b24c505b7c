import Mathlib.Data.Prod.Lex
import TraceOverhead.Proofs.Cpu.Arranging
/-!
Bringing back CPUs on a machine where some of them refuse to be switched. CPUs are put right one
after the other, those that are to go off before those that are to come on, and the lower ones
first. The first that refuses ends this with a warning; so a CPU is put right exactly if neither it
nor any before it refuses.
-/

namespace TraceOverhead.Hotplug

open Dialogue Host

/-- Both lists can be read, and just those CPUs can be switched that do not refuse. -/
def Answered (root : String) (refuses : Nat → Prop) : Exchange host → Prop
  | ⟨Host.Request.readFile _, .error _⟩ => False
  | ⟨Host.Request.writeFile path _, answer⟩ =>
    ∀ cpu, path = switchPath root cpu → (answer = .ok () ↔ ¬ refuses cpu)
  | _ => True

/-- A CPU that is not as it was saved. -/
def Astray (saved : CpuSet) (states : CpuStates) (cpu : Nat) : Prop :=
  states cpu = some (!saved.contains cpu)

/-- The order in which CPUs are put right. -/
def place (saved : CpuSet) (cpu : Nat) : Bool ×ₗ Nat := toLex (saved.contains cpu, cpu)

/-- Neither the CPU nor one that is put right before it refuses. -/
def Unhindered (saved : CpuSet) (refuses : Nat → Prop) (states : CpuStates) (cpu : Nat) : Prop :=
  ∀ other, Astray saved states other → place saved other ≤ place saved cpu → ¬ refuses other

def message? : Exchange host → Option (Host.Level × String)
  | ⟨Host.Request.log level message, _⟩ => some (level, message)
  | _ => none

def messages (asked : List (Exchange host)) : List (Host.Level × String) :=
  asked.filterMap message?

def lament (saved : CpuSet) (failure : IoFailure) : Host.Level × String :=
  (.warn, "failed to restore online CPUs " ++ saved.describe ++ ": " ++ failure.message)

/-- What becomes of saved CPUs where some refuse. -/
structure BroughtBack (root : String) (saved : CpuSet) (refuses : Nat → Prop) (start : CpuStates)
    (asked : List (Exchange host)) (finish : CpuStates) : Prop where
  righted : ∀ cpu, Astray saved start cpu → Unhindered saved refuses start cpu →
    finish cpu = some (saved.contains cpu)
  left : ∀ cpu, ¬ (Astray saved start cpu ∧ Unhindered saved refuses start cpu) →
    finish cpu = start cpu
  silent : (∀ cpu, Astray saved start cpu → ¬ refuses cpu) → messages asked = []
  /-- There is one warning at most, and it names what kept the first CPU that refused. -/
  warned : ∀ cpu, Astray saved start cpu → refuses cpu →
    (∀ other, Astray saved start other → refuses other → place saved cpu ≤ place saved other) →
    ∃ failure, switching root (saved.contains cpu) cpu (.error failure) ∈ asked ∧
      messages asked = [lament saved failure]

variable {root : String} {saved : CpuSet} {refuses : Nat → Prop} {start finish : CpuStates}
  {asked : List (Exchange host)} {outcome : Except Error Unit} {cpu other : Nat}

section Places

theorem place_lt_iff : place saved cpu < place saved other ↔
    (saved.contains cpu = false ∧ saved.contains other = true) ∨
      (saved.contains cpu = saved.contains other ∧ cpu < other) := by
  rw [place, place, Prod.Lex.toLex_lt_toLex, Bool.lt_iff]

theorem place_inj (same : place saved cpu = place saved other) : cpu = other :=
  (Prod.mk.inj (toLex.injective same)).2

end Places

section Phases

variable {on : Bool} {cpus : List Nat}

theorem obeyed_of_answered {answer : Except IoFailure Unit}
    (answered : Answered root refuses (switching root on cpu answer)) :
    answer = .ok () ↔ ¬ refuses cpu := answered cpu rfl

/-- How far switching comes that goes through CPUs in increasing order. -/
theorem switched_below_refusal (switches : Switches root on cpus asked outcome)
    (increasing : cpus.Pairwise (· < ·)) (run : CpuRun root start asked finish)
    (answered : ∀ exchange ∈ asked, Answered root refuses exchange) :
    ∃ tried, finish = withStates on tried start ∧ (∀ cpu ∈ tried, cpu ∈ cpus ∧ ¬ refuses cpu) ∧
      ((outcome = .ok () ∧ tried = cpus) ∨ ∃ halt ∈ cpus, ∃ failure, refuses halt ∧
        switching root on halt (.error failure) ∈ asked ∧ outcome = .error (.io failure) ∧
        ∀ cpu ∈ cpus, cpu ∈ tried ↔ cpu < halt) := by
  have obeyed : ∀ made : List (Nat × Except IoFailure Unit),
      (∀ turn ∈ made, heeded turn.1 turn.2 = .ok ()) →
      (∀ exchange ∈ made.map (fun turn => switching root on turn.1 turn.2),
        Answered root refuses exchange) →
      ∀ cpu ∈ made.map Prod.fst, ¬ refuses cpu := by
    intro made fine answered cpu member
    obtain ⟨turn, there, rfl⟩ := List.mem_map.1 member
    apply (obeyed_of_answered (answered _ (List.mem_map_of_mem there))).1
    exact heeded_eq_ok_iff.1 (fine turn there)
  cases switches with
  | all made fine =>
      refine ⟨made.map Prod.fst, states_of_switches (.all made fine) run, ?_, .inl ⟨rfl, rfl⟩⟩
      exact fun cpu member => ⟨member, obeyed made fine answered cpu member⟩
  | @cut made fine halt answer error failed rest =>
      obtain ⟨before, last⟩ := List.forall_mem_append.1 answered
      obtain ⟨middle, reached, ended⟩ := cpu_run_append_iff.1 run
      obtain ⟨failure, rfl⟩ : ∃ failure, answer = .error failure := by
        cases answer with
        | error failure => exact ⟨failure, rfl⟩
        | ok => contradiction
      obtain rfl := cpu_run_nil_iff.1 (cpu_run_cons_iff.1 ended).2
      have refused : refuses halt := by
        have obeyed := obeyed_of_answered (last _ List.mem_cons_self)
        simpa using obeyed
      obtain rfl := Except.error.inj failed
      obtain ⟨_, above, apart⟩ := List.pairwise_append.1 increasing
      refine ⟨made.map Prod.fst, states_of_switches (.all made fine) reached, ?_,
        .inr ⟨halt, by simp, failure, refused, by simp, rfl, ?_⟩⟩
      · intro cpu member
        exact ⟨List.mem_append_left _ member, obeyed made fine before cpu member⟩
      · -- The list increases, so the CPUs before the one that refuses are just the lower ones.
        intro cpu member
        constructor
        · exact fun tried => apart cpu tried halt List.mem_cons_self
        · intro lower
          apply (List.mem_append.1 member).resolve_right
          intro later
          rcases List.mem_cons.1 later with rfl | later
          · exact lt_irrefl _ lower
          · exact lt_asymm lower ((List.pairwise_cons.1 above).1 cpu later)

end Phases

section Progress

/-- Some CPUs that were astray are put right, and the others are as they were. -/
structure Progress (saved : CpuSet) (refuses : Nat → Prop) (start finish : CpuStates)
    (fixed : List Nat) : Prop where
  right : ∀ cpu ∈ fixed, finish cpu = some (saved.contains cpu)
  rest : ∀ cpu, cpu ∉ fixed → finish cpu = start cpu
  due : ∀ cpu ∈ fixed, Astray saved start cpu ∧ ¬ refuses cpu

theorem astray_of_contains {on : Bool} (kind : saved.contains cpu = on) :
    Astray saved start cpu ↔ start cpu = some (!on) := by
  rw [Astray, kind]

theorem progress_of_switched {on : Bool} {tried : List Nat}
    (due : ∀ cpu ∈ tried, start cpu = some (!on) ∧ saved.contains cpu = on ∧ ¬ refuses cpu) :
    Progress saved refuses start (withStates on tried start) tried := by
  constructor
  · intro cpu member
    obtain ⟨state, kind, _⟩ := due cpu member
    rw [withStates, if_pos member, state, kind]
    rfl
  · exact fun cpu absent => if_neg absent
  · intro cpu member
    obtain ⟨state, kind, willing⟩ := due cpu member
    exact ⟨(astray_of_contains kind).2 state, willing⟩

variable {middle : CpuStates} {lowered raised : List Nat}

/-- What is astray after some were put right was so before, and is another one. -/
theorem Progress.astray_iff (progress : Progress saved refuses start middle lowered) :
    Astray saved middle cpu ↔ Astray saved start cpu ∧ cpu ∉ lowered := by
  by_cases member : cpu ∈ lowered
  · rw [Astray, progress.right cpu member]
    simp [member]
  · rw [Astray, progress.rest cpu member]
    simp [member, Astray]

theorem Progress.append (before : Progress saved refuses start middle lowered)
    (after : Progress saved refuses middle finish raised) :
    Progress saved refuses start finish (lowered ++ raised) := by
  constructor
  · intro cpu member
    by_cases later : cpu ∈ raised
    · exact after.right cpu later
    · rw [after.rest cpu later]
      exact before.right cpu ((List.mem_append.1 member).resolve_right later)
  · intro cpu absent
    obtain ⟨first, second⟩ := not_or.1 (mt List.mem_append.2 absent)
    rw [after.rest cpu second, before.rest cpu first]
  · intro cpu member
    rcases List.mem_append.1 member with first | second
    · exact before.due cpu first
    · obtain ⟨astray, willing⟩ := after.due cpu second
      exact ⟨(before.astray_iff.1 astray).1, willing⟩

/-- How going through the CPUs of one kind ends: with all of them, or with one that refuses, where
just the lower ones are put right. -/
inductive PhaseEnds (root : String) (saved : CpuSet) (refuses : Nat → Prop) (on : Bool)
    (start : CpuStates) (asked : List (Exchange host)) (tried : List Nat) :
    Except Error Unit → Prop
  | all (all : ∀ cpu, Astray saved start cpu → saved.contains cpu = on → cpu ∈ tried) :
      PhaseEnds root saved refuses on start asked tried (.ok ())
  | halted {halt : Nat} {failure : IoFailure} (astray : Astray saved start halt)
      (kind : saved.contains halt = on) (refused : refuses halt)
      (told : switching root on halt (.error failure) ∈ asked)
      (below : ∀ cpu, Astray saved start cpu → saved.contains cpu = on →
        (cpu ∈ tried ↔ cpu < halt)) :
      PhaseEnds root saved refuses on start asked tried (.error (.io failure))

theorem phase_of_switches {on : Bool} {cpus : List Nat}
    (switches : Switches root on cpus asked outcome) (increasing : cpus.Pairwise (· < ·))
    (due : ∀ cpu, cpu ∈ cpus ↔ Astray saved start cpu ∧ saved.contains cpu = on)
    (run : CpuRun root start asked finish)
    (answered : ∀ exchange ∈ asked, Answered root refuses exchange) :
    ∃ tried, Progress saved refuses start finish tried ∧
      (∀ cpu ∈ tried, saved.contains cpu = on) ∧
      PhaseEnds root saved refuses on start asked tried outcome := by
  obtain ⟨tried, rfl, within, ended⟩ := switched_below_refusal switches increasing run answered
  refine ⟨tried, progress_of_switched ?_, ?_, ?_⟩
  · intro cpu member
    obtain ⟨listed, willing⟩ := within cpu member
    obtain ⟨astray, kind⟩ := (due cpu).1 listed
    exact ⟨(astray_of_contains kind).1 astray, kind, willing⟩
  · exact fun cpu member => ((due cpu).1 (within cpu member).1).2
  · rcases ended with ⟨rfl, rfl⟩ | ⟨halt, member, failure, refused, told, rfl, below⟩
    · exact .all fun cpu astray kind => (due cpu).2 ⟨astray, kind⟩
    · obtain ⟨astray, kind⟩ := (due halt).1 member
      refine .halted astray kind refused told ?_
      exact fun cpu other same => below cpu ((due cpu).2 ⟨other, same⟩)

/-- How putting CPUs right ends: with all of them, or with one that refuses, where just those before
it are put right. -/
inductive Ended (root : String) (saved : CpuSet) (refuses : Nat → Prop) (start : CpuStates)
    (asked : List (Exchange host)) (fixed : List Nat) : Except Error Unit → Prop
  | all (all : ∀ cpu, Astray saved start cpu → cpu ∈ fixed) :
      Ended root saved refuses start asked fixed (.ok ())
  | halted {halt : Nat} {failure : IoFailure} (astray : Astray saved start halt)
      (refused : refuses halt)
      (told : switching root (saved.contains halt) halt (.error failure) ∈ asked)
      (before : ∀ cpu, Astray saved start cpu →
        (cpu ∈ fixed ↔ place saved cpu < place saved halt)) :
      Ended root saved refuses start asked fixed (.error (.io failure))

theorem succeeded_of_answered {path : String} {answer : Except IoFailure Bytes}
    (answered : Answered root refuses ⟨Host.Request.readFile path, answer⟩) :
    Succeeded ⟨Host.Request.readFile path, answer⟩ := by
  cases answer with
  | error cause => exact answered
  | ok content => trivial

theorem mem_lowered_iff_astray {current : CpuSet}
    (online : ∀ cpu, cpu ∈ current ↔ start cpu = some true) (cpu : Nat) :
    (cpu ∈ current.toList.filter fun cpu => !saved.contains cpu) ↔
      Astray saved start cpu ∧ saved.contains cpu = false := by
  rw [mem_lowered_iff online]
  exact and_congr_left fun kind => (astray_of_contains kind).symm

theorem mem_raised_iff_astray {missing : CpuSet}
    (offline : ∀ cpu, cpu ∈ missing ↔ start cpu = some false) (cpu : Nat) :
    cpu ∈ missing.toList.filter saved.contains ↔
      Astray saved start cpu ∧ saved.contains cpu = true := by
  rw [List.mem_filter, Std.TreeSet.mem_toList, offline]
  exact and_congr_left fun kind => (astray_of_contains kind).symm

/-- The first phase ends everything if a CPU in it refuses. -/
theorem ended_of_first_phase {failure : Error}
    (phase : PhaseEnds root saved refuses false start asked lowered (.error failure))
    (kinds : ∀ cpu ∈ lowered, saved.contains cpu = false) :
    Ended root saved refuses start asked lowered (.error failure) := by
  cases phase with
  | @halted halt failure astray kind refused told below =>
      rw [← kind] at told
      refine .halted astray refused told ?_
      intro cpu other
      rw [place_lt_iff, kind]
      cases same : saved.contains cpu with
      | false => simpa using below cpu other same
      | true =>
          have absent : cpu ∉ lowered := fun member => by simp [kinds cpu member] at same
          simpa using absent

/-- The second phase starts with all CPUs off that are to be. -/
theorem ended_of_second_phase (before : Progress saved refuses start middle lowered)
    (all : ∀ cpu, Astray saved start cpu → saved.contains cpu = false → cpu ∈ lowered)
    (kinds : ∀ cpu ∈ lowered, saved.contains cpu = false)
    (phase : PhaseEnds root saved refuses true middle asked raised outcome) :
    Ended root saved refuses start asked (lowered ++ raised) outcome := by
  have later : ∀ cpu, Astray saved start cpu → saved.contains cpu = true →
      Astray saved middle cpu ∧ cpu ∉ lowered := by
    intro cpu astray kind
    have absent : cpu ∉ lowered := fun member => by simp [kinds cpu member] at kind
    exact ⟨before.astray_iff.2 ⟨astray, absent⟩, absent⟩
  cases phase with
  | all whole =>
      refine .all fun cpu astray => List.mem_append.2 ?_
      cases kind : saved.contains cpu with
      | false => exact .inl (all cpu astray kind)
      | true => exact .inr (whole cpu (later cpu astray kind).1 kind)
  | @halted halt failure astray kind refused told below =>
      rw [← kind] at told
      refine .halted (before.astray_iff.1 astray).1 refused told ?_
      intro cpu other
      rw [place_lt_iff, kind, List.mem_append]
      cases same : saved.contains cpu with
      | false => simp [all cpu other same]
      | true =>
          obtain ⟨still, absent⟩ := later cpu other same
          simpa [absent] using below cpu still same

theorem Ended.mono {more : List (Exchange host)} {fixed : List Nat}
    (ended : Ended root saved refuses start asked fixed outcome)
    (within : ∀ exchange ∈ asked, exchange ∈ more) :
    Ended root saved refuses start more fixed outcome := by
  cases ended with
  | all all => exact .all all
  | halted astray refused told before => exact .halted astray refused (within _ told) before

/-- CPUs are put right up to the first that refuses. -/
theorem ended_of_arranged (arranged : Arranged root saved.contains asked outcome)
    (run : CpuRun root start asked finish)
    (answered : ∀ exchange ∈ asked, Answered root refuses exchange) :
    ∃ fixed, Progress saved refuses start finish fixed ∧
      Ended root saved refuses start asked fixed outcome := by
  cases arranged with
  | onlineUnlisted unlisted =>
      obtain ⟨cpus, found⟩ := (look_online_of_cpu_run run).2.2
        (succeeded_of_answered (answered _ List.mem_cons_self))
      rw [unlisted] at found
      contradiction
  | halted found lowered =>
      obtain ⟨rest, online, _⟩ := look_online_of_cpu_run run
      obtain ⟨tried, progress, kinds, phase⟩ := phase_of_switches lowered
        ((CpuSet.increasing _).filter _) (mem_lowered_iff_astray (online _ found)) rest
        (List.forall_mem_cons.1 answered).2
      refine ⟨tried, progress, (ended_of_first_phase phase kinds).mono ?_⟩
      exact fun exchange member => List.mem_cons_of_mem _ member
  | @offlineUnlisted answer other current lowering failure found lowered unlisted =>
      obtain ⟨rest, _⟩ := look_online_of_cpu_run run
      obtain ⟨middle, _, rest⟩ := cpu_run_append_iff.1 rest
      have looked : lookOffline root other ∈ lookOnline root answer :: (lowering ++
        [lookOffline root other]) := by simp
      obtain ⟨cpus, lost⟩ := (look_offline_of_cpu_run rest).2.2
        (succeeded_of_answered (answered _ looked))
      rw [unlisted] at lost
      contradiction
  | @raised answer other current missing lowering raising outcome found down lost up =>
      obtain ⟨_, answered⟩ := List.forall_mem_cons.1 answered
      obtain ⟨first, second⟩ := List.forall_mem_append.1 answered
      obtain ⟨rest, online, _⟩ := look_online_of_cpu_run run
      obtain ⟨middle, reached, rest⟩ := cpu_run_append_iff.1 rest
      obtain ⟨rest, offline, _⟩ := look_offline_of_cpu_run rest
      obtain ⟨lowered, before, kinds, phase⟩ := phase_of_switches down
        ((CpuSet.increasing _).filter _) (mem_lowered_iff_astray (online _ found)) reached first
      obtain ⟨raised, after, _, last⟩ := phase_of_switches up
        ((CpuSet.increasing _).filter _) (mem_raised_iff_astray (offline _ lost)) rest
        (List.forall_mem_cons.1 second).2
      cases phase with
      | all all =>
          refine ⟨lowered ++ raised, before.append after,
            (ended_of_second_phase before all kinds last).mono ?_⟩
          intro exchange member
          simp [member]

end Progress

section Restoring

theorem unhindered_iff_mem {fixed : List Nat}
    (progress : Progress saved refuses start finish fixed)
    (ended : Ended root saved refuses start asked fixed outcome) (astray : Astray saved start cpu) :
    cpu ∈ fixed ↔ Unhindered saved refuses start cpu := by
  cases ended with
  | all all =>
      refine iff_of_true (all cpu astray) ?_
      exact fun other there _ => (progress.due other (all other there)).2
  | @halted halt failure lost refused told before =>
      rw [before cpu astray]
      constructor
      · intro sooner other there earlier
        exact (progress.due other ((before other there).2 (earlier.trans_lt sooner))).2
      · intro unhindered
        by_contra later
        exact unhindered halt lost (not_lt.1 later) refused

@[simp] theorem messages_append (first second : List (Exchange host)) :
    messages (first ++ second) = messages first ++ messages second := List.filterMap_append

@[simp] theorem messages_look_online {answer : Except IoFailure Bytes} :
    messages (lookOnline root answer :: asked) = messages asked := rfl

@[simp] theorem messages_look_offline {answer : Except IoFailure Bytes} :
    messages (lookOffline root answer :: asked) = messages asked := rfl

theorem messages_of_switches {on : Bool} {cpus : List Nat}
    (switches : Switches root on cpus asked outcome) : messages asked = [] := by
  obtain ⟨made, _, rfl, _⟩ := switches.exists_asked
  rw [messages, List.filterMap_map, List.filterMap_eq_nil_iff]
  exact fun turn _ => rfl

theorem messages_of_arranged {wanted : Nat → Bool}
    (arranged : Arranged root wanted asked outcome) : messages asked = [] := by
  cases arranged with
  | onlineUnlisted => rfl
  | halted found lowered => simp [messages_of_switches lowered]
  | offlineUnlisted found lowered =>
      simp [messages_of_switches lowered]
      rfl
  | raised found lowered lost raised =>
      simp [messages_of_switches lowered, messages_of_switches raised]

theorem course_restore_cases {done : Unit} (course : Course (restore root saved) asked done) :
    ∃ first outcome, Arranged root saved.contains first outcome ∧
      ((outcome = .ok () ∧ asked = first) ∨ ∃ failure, outcome = .error failure ∧
        asked = first ++ [⟨Host.Request.log .warn ("failed to restore online CPUs " ++
          saved.describe ++ ": " ++ failure.message), ()⟩]) := by
  obtain ⟨first, outcome, second, restored, logged, rfl⟩ := course_bind_iff.1 course
  refine ⟨first, outcome, course_arrange_iff.1 (set_online_eq root saved ▸ restored), ?_⟩
  cases outcome with
  | ok =>
      obtain ⟨rfl, _⟩ := course_done_iff.1 logged
      exact .inl ⟨rfl, List.append_nil first⟩
  | error failure =>
      obtain rfl := course_request_iff.1 logged
      exact .inr ⟨failure, rfl, rfl⟩

theorem brought_back_of_ended {fixed : List Nat}
    (progress : Progress saved refuses start finish fixed)
    (ended : Ended root saved refuses start asked fixed outcome)
    (silent : outcome = .ok () → messages asked = [])
    (told : ∀ failure, outcome = .error (.io failure) → messages asked = [lament saved failure]) :
    BroughtBack root saved refuses start asked finish := by
  constructor
  case righted =>
    intro cpu astray unhindered
    exact progress.right cpu ((unhindered_iff_mem progress ended astray).2 unhindered)
  case left =>
    intro cpu other
    apply progress.rest cpu
    intro member
    have astray := (progress.due cpu member).1
    exact other ⟨astray, (unhindered_iff_mem progress ended astray).1 member⟩
  case silent =>
    intro willing
    cases ended with
    | all all => exact silent rfl
    | halted astray refused => exact absurd refused (willing _ astray)
  case warned =>
    intro cpu astray refused foremost
    cases ended with
    | all all => exact absurd refused (progress.due cpu (all cpu astray)).2
    | @halted halt failure lost refusing asked before =>
        have after : ¬ place saved cpu < place saved halt := by
          intro sooner
          exact (progress.due cpu ((before cpu astray).2 sooner)).2 refused
        obtain rfl := place_inj (le_antisymm (foremost halt lost refusing) (not_lt.1 after))
        exact ⟨failure, asked, told failure rfl⟩

end Restoring

/-- Saved CPUs are brought back up to the first that refuses; the others stay as they are, and a
warning says what kept that one. -/
theorem brought_back_up_to_refusal {root : String} {saved : CpuSet} {refuses : Nat → Prop}
    {start finish : CpuStates} {asked : List (Exchange host)} {done : Unit}
    (course : Course (restore root saved) asked done) (run : CpuRun root start asked finish)
    (answered : ∀ exchange ∈ asked, Answered root refuses exchange) :
    BroughtBack root saved refuses start asked finish := by
  obtain ⟨first, outcome, arranged, ⟨rfl, rfl⟩ | ⟨failure, rfl, rfl⟩⟩ := course_restore_cases course
  · obtain ⟨fixed, progress, ended⟩ := ended_of_arranged arranged run answered
    exact brought_back_of_ended progress ended (fun _ => messages_of_arranged arranged) nofun
  · obtain ⟨middle, switching, logging⟩ := cpu_run_append_iff.1 run
    obtain rfl := cpu_run_nil_iff.1 (cpu_run_cons_iff.1 logging).2
    obtain ⟨fixed, progress, ended⟩ :=
      ended_of_arranged arranged switching (List.forall_mem_append.1 answered).1
    refine brought_back_of_ended progress (ended.mono fun _ => List.mem_append_left _) nofun ?_
    intro cause same
    obtain rfl := Except.error.inj same
    rw [messages_append, messages_of_arranged arranged]
    rfl

/-- Of three CPUs only the first one is on. -/
def firstOfThree : CpuStates := fun cpu =>
  if cpu = 0 then some true else if cpu < 3 then some false else none

def allThree : CpuSet := (∅ : CpuSet).insertMany [0, 1, 2]

def RefusesOne (cpu : Nat) : Prop := cpu = 1

/-- The second CPU refuses to come back. -/
def stoppedRestoring : List (Exchange host) :=
  [lookOnline "cpu" (.ok [0x30, 0x0a]), lookOffline "cpu" (.ok [0x31, 0x2d, 0x32, 0x0a]),
    switching "cpu" true 1 (.error .permissionDenied),
    ⟨Host.Request.log .warn ("failed to restore online CPUs " ++ allThree.describe ++ ": " ++
      (Error.io .permissionDenied).message), ()⟩]

theorem course_stopped_restoring : Course (restore "cpu" allThree) stoppedRestoring () :=
  .ask _ (.ask _ (.ask _ (.ask _ (.done _))))

theorem cpu_run_stopped_restoring :
    CpuRun "cpu" firstOfThree stoppedRestoring firstOfThree := by
  have online : Lists firstOfThree true [0x30, 0x0a] := by
    apply lists_of_parse "0\n" [0] rfl rfl
    intro cpu
    simp only [firstOfThree]
    split_ifs <;> simp_all
  have offline : Lists firstOfThree false [0x31, 0x2d, 0x32, 0x0a] := by
    apply lists_of_parse "1-2\n" [1, 2] rfl rfl
    intro cpu
    simp only [firstOfThree]
    split_ifs <;> simp <;> omega
  exact .step (truthful_online online) (.step (truthful_offline offline)
    (.step trivial (.step trivial (.stay _))))

theorem answered_stopped_restoring :
    ∀ exchange ∈ stoppedRestoring, Answered "cpu" RefusesOne exchange := by
  intro exchange member
  simp only [stoppedRestoring, List.mem_cons, List.not_mem_nil, or_false] at member
  rcases member with rfl | rfl | rfl | rfl
  · trivial
  · trivial
  · intro cpu same
    obtain rfl := switch_path_inj same
    simp [RefusesOne]
  · trivial

theorem second_of_three_refuses :
    ∃ asked finish, Course (restore "cpu" allThree) asked () ∧
      CpuRun "cpu" firstOfThree asked finish ∧
      (∀ exchange ∈ asked, Answered "cpu" RefusesOne exchange) ∧
      BroughtBack "cpu" allThree RefusesOne firstOfThree asked finish :=
  ⟨_, _, course_stopped_restoring, cpu_run_stopped_restoring, answered_stopped_restoring,
    brought_back_up_to_refusal course_stopped_restoring cpu_run_stopped_restoring
      answered_stopped_restoring⟩

/-- The third CPU was saved and would come on, but it is not even written to. -/
theorem third_of_three_left_off :
    ∃ asked finish, Course (restore "cpu" allThree) asked () ∧
      CpuRun "cpu" firstOfThree asked finish ∧
      (∀ exchange ∈ asked, Answered "cpu" RefusesOne exchange) ∧
      2 ∈ allThree ∧ ¬ RefusesOne 2 ∧ finish 2 = some false := by
  refine ⟨_, _, course_stopped_restoring, cpu_run_stopped_restoring, answered_stopped_restoring,
    by decide, ?_, rfl⟩
  simp [RefusesOne]

end TraceOverhead.Hotplug
