import Mathlib.Data.List.Sort
import TraceOverhead.Proofs.Cpu.Listing
import TraceOverhead.Proofs.Cpu.Switching
/-!
Setting the number of CPUs that are online. What is asked and what comes of it is told for every
number and all answers. Main statement: on a machine that does as it is told every number is
reached for which there are CPUs; if it is a lower one the smallest CPUs stay online, and if it is a
higher one all do.
-/

namespace TraceOverhead.Hotplug

open Dialogue Host

/-- So many members of a set as come before all the others, in order. -/
structure Foremost (before : Nat → Nat → Prop) (cpus : CpuSet) (count : Nat) (chosen : List Nat) :
    Prop where
  length : chosen.length = count
  within : ∀ cpu ∈ chosen, cpu ∈ cpus
  ordered : chosen.Pairwise before
  foremost : ∀ cpu ∈ cpus, cpu ∉ chosen → ∀ other ∈ chosen, before other cpu

/-- The CPUs to be switched so that `count` of them are online: the highest ones off, or the lowest
ones on. -/
inductive Plan (count : Nat) (current missing : CpuSet) : Bool → List Nat → Prop
  | lower {chosen : List Nat} (positive : 0 < count) (fewer : count < current.size)
      (highest : Foremost (· > ·) current (current.size - count) chosen) :
      Plan count current missing false chosen
  | raise {chosen : List Nat} (more : current.size < count)
      (enough : count ≤ current.size + missing.size)
      (lowest : Foremost (· < ·) missing (count - current.size) chosen) :
      Plan count current missing true chosen

def announced (count : Nat) : Exchange host :=
  ⟨Host.Request.log .info (Number.decimal count ++ " CPUs online"), ()⟩

/-- The CPUs that are online are counted once more. -/
inductive Confirmed (root : String) (count : Nat) : List (Exchange host) → Except Error Unit → Prop
  | unlisted {answer : Except IoFailure Bytes} {failure : Error}
      (unlisted : listed answer = .error failure) :
      Confirmed root count [lookOnline root answer] (.error failure)
  | missed {answer : Except IoFailure Bytes} {now : CpuSet} (found : listed answer = .ok now)
      (other : now.size ≠ count) :
      Confirmed root count [lookOnline root answer] (.error (.cpu (.notReached now.size count)))
  | reached {answer : Except IoFailure Bytes} {now : CpuSet} (found : listed answer = .ok now)
      (same : now.size = count) :
      Confirmed root count [lookOnline root answer, announced count] (.ok ())

/-- How a number of CPUs is approached from given sets of CPUs that are online and offline. -/
inductive Approached (root : String) (count : Nat) (current missing : CpuSet) :
    List (Exchange host) → Except Error Unit → Prop
  | tooMany (above : current.size + missing.size < count) :
      Approached root count current missing [] (.error (.cpu (.tooMany count missing.size)))
  | tooFew (none : count = 0) :
      Approached root count current missing [] (.error (.cpu .tooFew))
  | same (positive : 0 < count) (same : count = current.size) :
      Approached root count current missing [] (.ok ())
  | halted {on : Bool} {chosen : List Nat} {switching : List (Exchange host)} {failure : Error}
      (plan : Plan count current missing on chosen)
      (halted : Switches root on chosen switching (.error failure)) :
      Approached root count current missing switching (.error failure)
  | switched {on : Bool} {chosen : List Nat} {switching counting : List (Exchange host)}
      {outcome : Except Error Unit} (plan : Plan count current missing on chosen)
      (switched : Switches root on chosen switching (.ok ()))
      (confirmed : Confirmed root count counting outcome) :
      Approached root count current missing (switching ++ counting) outcome

/-- How a number of CPUs is set. -/
inductive Setting (root : String) (count : Nat) :
    List (Exchange host) → Except Error Unit → Prop
  | onlineUnlisted {answer : Except IoFailure Bytes} {failure : Error}
      (unlisted : listed answer = .error failure) :
      Setting root count [lookOnline root answer] (.error failure)
  | offlineUnlisted {answer other : Except IoFailure Bytes} {current : CpuSet} {failure : Error}
      (found : listed answer = .ok current) (unlisted : listed other = .error failure) :
      Setting root count [lookOnline root answer, lookOffline root other] (.error failure)
  | listed {answer other : Except IoFailure Bytes} {current missing : CpuSet}
      {rest : List (Exchange host)} {outcome : Except Error Unit}
      (found : listed answer = .ok current) (lost : listed other = .ok missing)
      (approached : Approached root count current missing rest outcome) :
      Setting root count (lookOnline root answer :: lookOffline root other :: rest) outcome

variable {root : String} {count : Nat} {current missing : CpuSet} {asked : List (Exchange host)}
  {outcome : Except Error Unit}

section Choosing

variable {before : Nat → Nat → Prop} {cpus : CpuSet} {chosen sorted : List Nat}

theorem foremost_iff [Std.Irrefl before] [Std.Antisymm before] (ordered : sorted.Pairwise before)
    (members : ∀ cpu, cpu ∈ sorted ↔ cpu ∈ cpus) :
    Foremost before cpus count chosen ↔ count ≤ sorted.length ∧ chosen = sorted.take count := by
  constructor
  · intro first
    have whole : chosen ++ sorted.filter (fun cpu => cpu ∉ chosen) = sorted := by
      apply List.Pairwise.eq_of_mem_iff _ ordered
      · intro cpu
        by_cases among : cpu ∈ chosen
        · simp [among, (members cpu).2 (first.within cpu among)]
        · simp [among]
      · refine List.pairwise_append.2 ⟨first.ordered, ordered.filter _, ?_⟩
        intro other among cpu member
        obtain ⟨there, left⟩ := List.mem_filter.1 member
        exact first.foremost cpu ((members cpu).1 there) (of_decide_eq_true left) other among
    rw [← whole, List.length_append, first.length, ← first.length, List.take_left]
    exact ⟨Nat.le_add_right _ _, rfl⟩
  · intro parts
    obtain ⟨enough, rfl⟩ := parts
    refine ⟨List.length_take_of_le enough, ?_, ordered.take, ?_⟩
    · intro cpu member
      exact (members cpu).1 (List.mem_of_mem_take member)
    · intro cpu there left other among
      rw [← List.take_append_drop count sorted] at ordered
      refine (List.pairwise_append.1 ordered).2.2 other among cpu ?_
      have split := (members cpu).2 there
      rw [← List.take_append_drop count sorted] at split
      exact (List.mem_append.1 split).resolve_left left

end Choosing

section Courses

theorem course_online_count_iff {outcome : Except Error Nat} :
    Course (onlineCount root).outcome asked outcome ↔
      ∃ answer : Except IoFailure Bytes,
        asked = [⟨Host.Request.readFile (Path.join root "online"), answer⟩] ∧
          outcome = (listed answer).map fun cpus => cpus.size := by
  change Course (online root >>= fun cpus =>
    liftM (Except.ok cpus.size : Except Error Nat)).outcome asked outcome ↔ _
  rw [course_outcome_bind_lift_iff]
  simp only [course_online_iff]
  constructor
  · intro parts
    obtain ⟨_, ⟨answer, rfl, rfl⟩, rfl⟩ := parts
    exact ⟨answer, rfl, rfl⟩
  · intro parts
    obtain ⟨answer, rfl, rfl⟩ := parts
    exact ⟨_, ⟨answer, rfl, rfl⟩, rfl⟩

theorem course_confirm_count_iff :
    Course (confirmCount root count).outcome asked outcome ↔
      Confirmed root count asked outcome := by
  rw [confirmCount, course_outcome_bind_iff]
  simp only [course_online_count_iff]
  constructor
  · intro parts
    rcases parts with ⟨failure, ⟨answer, rfl, counted⟩, rfl⟩ |
      ⟨_, reached, rest, ⟨answer, rfl, counted⟩, confirmed, rfl⟩
    · cases found : listed answer with
      | error cause =>
          rw [found] at counted
          obtain rfl := Except.error.inj counted
          exact .unlisted found
      | ok now =>
          rw [found] at counted
          contradiction
    · cases found : listed answer with
      | error cause =>
          rw [found] at counted
          contradiction
      | ok now =>
          rw [found] at counted
          obtain rfl := Except.ok.inj counted
          by_cases same : now.size = count
          · rw [if_pos same] at confirmed
            obtain ⟨logged, _, rest, said, done, rfl⟩ := course_bind_iff.1 confirmed
            obtain ⟨rfl, rfl⟩ := course_done_iff.1 done
            obtain rfl := course_request_iff.1 said
            exact .reached found same
          · rw [if_neg same] at confirmed
            obtain ⟨rfl, rfl⟩ := course_done_iff.1 confirmed
            exact .missed found same
  · intro confirmed
    cases confirmed with
    | unlisted unlisted => exact .inl ⟨_, ⟨_, rfl, by rw [unlisted]; rfl⟩, rfl⟩
    | missed found other =>
        refine .inr ⟨_, _, _, ⟨_, rfl, by rw [found]; rfl⟩, ?_, rfl⟩
        rw [if_neg other]
        exact .done _
    | reached found same =>
        refine .inr ⟨_, _, _, ⟨_, rfl, by rw [found]; rfl⟩, ?_, rfl⟩
        rw [if_pos same]
        exact .ask _ (.done _)

/-- The switching with which a number of CPUs is set that is not the current one. -/
def switchToward (root : String) (count : Nat) (current missing : CpuSet) : Attempt host Unit :=
  if count < current.size then
    switchAll root false (current.toList.reverse.take (current.size - count))
  else switchAll root true (missing.toList.take (count - current.size))

/-- What is done about a number once the sets of CPUs are known. -/
def approach (root : String) (count : Nat) (current missing : CpuSet) : Attempt host Unit :=
  if current.size + missing.size < count then throw (.cpu (.tooMany count missing.size))
  else if count = 0 then throw (.cpu .tooFew)
  else if count = current.size then pure ()
  else switchToward root count current missing >>= fun _ => confirmCount root count

theorem set_count_eq (root : String) (count : Nat) :
    setCount root count = online root >>= fun current => offline root >>= fun missing =>
      approach root count current missing := by
  rw [setCount]
  congr
  funext current
  congr
  funext missing
  rw [approach, switchToward]
  split_ifs <;> rfl

theorem course_switch_toward_iff (positive : 0 < count) (apart : count ≠ current.size)
    (enough : count ≤ current.size + missing.size) :
    Course (switchToward root count current missing).outcome asked outcome ↔
      ∃ on chosen, Plan count current missing on chosen ∧
        Switches root on chosen asked outcome := by
  rw [switchToward]
  by_cases fewer : count < current.size
  · have highest : ∀ {chosen}, Foremost (· > ·) current (current.size - count) chosen ↔
        chosen = current.toList.reverse.take (current.size - count) := by
      intro chosen
      have decreasing : current.toList.reverse.Pairwise (· > ·) :=
        List.pairwise_reverse.2 current.increasing
      rw [foremost_iff decreasing (by simp), List.length_reverse, Std.TreeSet.length_toList]
      exact and_iff_right (Nat.sub_le _ _)
    rw [if_pos fewer, course_switch_all_iff]
    constructor
    · intro switches
      exact ⟨false, _, .lower positive fewer (highest.2 rfl), switches⟩
    · intro parts
      obtain ⟨_, _, plan, switches⟩ := parts
      cases plan with
      | lower _ _ chosen => rwa [highest.1 chosen] at switches
      | raise more => omega
  · have lowest : ∀ {chosen}, Foremost (· < ·) missing (count - current.size) chosen ↔
        chosen = missing.toList.take (count - current.size) := by
      intro chosen
      rw [foremost_iff missing.increasing (by simp), Std.TreeSet.length_toList]
      exact and_iff_right (by omega)
    rw [if_neg fewer, course_switch_all_iff]
    constructor
    · intro switches
      exact ⟨true, _, .raise (by omega) enough (lowest.2 rfl), switches⟩
    · intro parts
      obtain ⟨_, _, plan, switches⟩ := parts
      cases plan with
      | lower _ fewer => omega
      | raise _ _ chosen => rwa [lowest.1 chosen] at switches

theorem possible_of_plan {on : Bool} {chosen : List Nat}
    (plan : Plan count current missing on chosen) :
    0 < count ∧ count ≠ current.size ∧ count ≤ current.size + missing.size := by
  cases plan <;> omega

theorem course_approach_iff :
    Course (approach root count current missing).outcome asked outcome ↔
      Approached root count current missing asked outcome := by
  rw [approach]
  constructor
  · intro course
    split_ifs at course with above none same
    · obtain ⟨rfl, rfl⟩ := course_done_iff.1 course
      exact .tooMany above
    · obtain ⟨rfl, rfl⟩ := course_done_iff.1 course
      exact .tooFew none
    · obtain ⟨rfl, rfl⟩ := course_outcome_pure_iff.1 course
      exact .same (Nat.pos_of_ne_zero none) same
    · have positive := Nat.pos_of_ne_zero none
      have enough := Nat.le_of_not_lt above
      rcases course_outcome_bind_iff.1 course with
        ⟨failure, halted, rfl⟩ | ⟨_, _, _, switched, confirmed, rfl⟩
      · obtain ⟨on, chosen, plan, halted⟩ :=
          (course_switch_toward_iff positive same enough).1 halted
        exact .halted plan halted
      · obtain ⟨on, chosen, plan, switched⟩ :=
          (course_switch_toward_iff positive same enough).1 switched
        exact .switched plan switched (course_confirm_count_iff.1 confirmed)
  · intro approached
    cases approached with
    | tooMany above =>
        rw [if_pos above]
        exact .done _
    | tooFew none =>
        rw [if_neg (by omega), if_pos none]
        exact .done _
    | same positive same =>
        rw [if_neg (by omega), if_neg (by omega), if_pos same]
        exact .done _
    | halted plan halted =>
        obtain ⟨positive, apart, enough⟩ := possible_of_plan plan
        rw [if_neg (by omega), if_neg (by omega), if_neg apart]
        exact course_outcome_bind_iff.2 (.inl ⟨_,
          (course_switch_toward_iff positive apart enough).2 ⟨_, _, plan, halted⟩, rfl⟩)
    | switched plan switched confirmed =>
        obtain ⟨positive, apart, enough⟩ := possible_of_plan plan
        rw [if_neg (by omega), if_neg (by omega), if_neg apart]
        exact course_outcome_bind_iff.2 (.inr ⟨_, (), _,
          (course_switch_toward_iff positive apart enough).2 ⟨_, _, plan, switched⟩,
          course_confirm_count_iff.2 confirmed, rfl⟩)

theorem course_set_count_iff :
    Course (setCount root count).outcome asked outcome ↔ Setting root count asked outcome := by
  rw [set_count_eq, course_outcome_bind_iff]
  simp only [course_outcome_bind_iff, course_online_iff, course_offline_iff, course_approach_iff]
  constructor
  · intro parts
    rcases parts with ⟨failure, ⟨answer, rfl, unlisted⟩, rfl⟩ |
      ⟨_, current, _, ⟨answer, rfl, found⟩, looked, rfl⟩
    · exact .onlineUnlisted unlisted.symm
    rcases looked with ⟨failure, ⟨other, rfl, unlisted⟩, rfl⟩ |
      ⟨_, missing, rest, ⟨other, rfl, lost⟩, approached, rfl⟩
    · exact .offlineUnlisted found.symm unlisted.symm
    · exact .listed found.symm lost.symm approached
  · intro setting
    cases setting with
    | onlineUnlisted unlisted => exact .inl ⟨_, ⟨_, rfl, unlisted.symm⟩, rfl⟩
    | offlineUnlisted found unlisted =>
        exact .inr ⟨_, _, _, ⟨_, rfl, found.symm⟩, .inl ⟨_, ⟨_, rfl, unlisted.symm⟩, rfl⟩, rfl⟩
    | listed found lost approached =>
        refine .inr ⟨_, _, _, ⟨_, rfl, found.symm⟩, ?_, rfl⟩
        exact .inr ⟨_, _, _, ⟨_, rfl, lost.symm⟩, approached, rfl⟩

end Courses

section Machine

variable {start finish : CpuStates} {on off : CpuSet} {chosen : List Nat}

theorem size_of_split {whole part : CpuSet} {rest : List Nat} (once : rest.Nodup)
    (members : ∀ cpu, cpu ∈ whole ↔ cpu ∈ part ∨ cpu ∈ rest) (apart : ∀ cpu ∈ rest, cpu ∉ part) :
    whole.size = part.size + rest.length := by
  have disjoint : (part.toList ++ rest).Nodup := by
    refine List.nodup_append.2 ⟨part.nodup, once, ?_⟩
    intro cpu there other member same
    exact apart other member (same ▸ Std.TreeSet.mem_toList.1 there)
  have same : whole.toList.Perm (part.toList ++ rest) := by
    rw [List.perm_ext_iff_of_nodup whole.nodup disjoint]
    intro cpu
    rw [List.mem_append, Std.TreeSet.mem_toList, Std.TreeSet.mem_toList, members]
  rw [← Std.TreeSet.length_toList, same.length_eq, List.length_append, Std.TreeSet.length_toList]

theorem size_of_members {first second : CpuSet} {online : Bool}
    (left : ∀ cpu, cpu ∈ first ↔ start cpu = some online)
    (right : ∀ cpu, cpu ∈ second ↔ start cpu = some online) : first.size = second.size :=
  (Std.TreeSet.Equiv.of_forall_mem_iff fun cpu => (left cpu).trans (right cpu).symm).size_eq

/-- If just the highest CPUs went, as many are left as should be, and those are the lowest. -/
theorem lowest_left {now : CpuSet} (fewer : count < on.size)
    (highest : Foremost (· > ·) on (on.size - count) chosen)
    (members : ∀ cpu, cpu ∈ now ↔ cpu ∈ on ∧ cpu ∉ chosen) :
    now.size = count ∧ Foremost (· < ·) on count now.toList := by
  have size : on.size = now.size + chosen.length := by
    apply size_of_split (highest.ordered.imp Nat.ne_of_gt)
    · intro cpu
      rw [members]
      by_cases gone : cpu ∈ chosen
      · simp [gone, highest.within cpu gone]
      · simp [gone]
    · intro cpu gone there
      exact ((members cpu).1 there).2 gone
  have reached : now.size = count := by
    rw [highest.length] at size
    omega
  refine ⟨reached, ⟨by rw [Std.TreeSet.length_toList, reached], ?_, now.increasing, ?_⟩⟩
  · intro cpu there
    exact ((members cpu).1 (Std.TreeSet.mem_toList.1 there)).1
  · intro cpu member gone other there
    obtain ⟨among, left⟩ := (members other).1 (Std.TreeSet.mem_toList.1 there)
    have chose : cpu ∈ chosen := by
      by_contra spared
      exact gone (Std.TreeSet.mem_toList.2 ((members cpu).2 ⟨member, spared⟩))
    exact highest.foremost other among left cpu chose

theorem size_of_raised {now : CpuSet} (more : on.size < count)
    (lowest : Foremost (· < ·) off (count - on.size) chosen) (apart : ∀ cpu ∈ off, cpu ∉ on)
    (members : ∀ cpu, cpu ∈ now ↔ cpu ∈ on ∨ cpu ∈ chosen) : now.size = count := by
  have size := size_of_split (lowest.ordered.imp Nat.ne_of_lt) members
    fun cpu member => apart cpu (lowest.within cpu member)
  rw [lowest.length] at size
  omega

/-- What is so once a number of CPUs is online, by the CPUs that were so before. -/
structure CountReached (before : CpuSet) (count : Nat) (finish : CpuStates) (now : CpuSet) :
    Prop where
  members : ∀ cpu, cpu ∈ now ↔ finish cpu = some true
  size : now.size = count
  shrunk : count ≤ before.size → Foremost (· < ·) before count now.toList
  grown : before.size ≤ count → ∀ cpu ∈ before, cpu ∈ now

theorem count_unchanged (online : ∀ cpu, cpu ∈ on ↔ start cpu = some true) :
    CountReached on on.size start on := by
  refine ⟨online, rfl, ?_, fun _ _ => id⟩
  intro _
  refine ⟨Std.TreeSet.length_toList, fun _ => Std.TreeSet.mem_toList.1, on.increasing, ?_⟩
  intro cpu member left
  exact absurd (Std.TreeSet.mem_toList.2 member) left

theorem count_of_lowered {now : CpuSet} (fewer : count < on.size)
    (highest : Foremost (· > ·) on (on.size - count) chosen)
    (online : ∀ cpu, cpu ∈ on ↔ start cpu = some true)
    (members : ∀ cpu, cpu ∈ now ↔ withStates false chosen start cpu = some true) :
    CountReached on count (withStates false chosen start) now := by
  have left : ∀ cpu, cpu ∈ now ↔ cpu ∈ on ∧ cpu ∉ chosen := by
    intro cpu
    rw [members, online, withStates]
    split
    · rename_i gone
      cases start cpu <;> simp [gone]
    · rename_i spared
      simp [spared]
  obtain ⟨reached, lowest⟩ := lowest_left fewer highest left
  exact ⟨members, reached, fun _ => lowest, by omega⟩

theorem count_of_raised {now : CpuSet} (more : on.size < count)
    (lowest : Foremost (· < ·) off (count - on.size) chosen)
    (online : ∀ cpu, cpu ∈ on ↔ start cpu = some true)
    (offline : ∀ cpu, cpu ∈ off ↔ start cpu = some false)
    (members : ∀ cpu, cpu ∈ now ↔ withStates true chosen start cpu = some true) :
    CountReached on count (withStates true chosen start) now := by
  have joined : ∀ cpu, cpu ∈ now ↔ cpu ∈ on ∨ cpu ∈ chosen := by
    intro cpu
    rw [members, online, withStates]
    split
    · rename_i raised
      have state := (offline cpu).1 (lowest.within cpu raised)
      simp [state, raised]
    · rename_i left
      simp [left]
  have apart : ∀ cpu ∈ off, cpu ∉ on := by
    intro cpu missing present
    have state := (online cpu).1 present
    rw [(offline cpu).1 missing] at state
    contradiction
  exact ⟨members, size_of_raised more lowest apart joined, by omega,
    fun _ cpu member => (joined cpu).2 (.inl member)⟩

/-- A count that is right is confirmed. -/
theorem confirmed_of_size (confirmed : Confirmed root count asked outcome)
    (run : CpuRun root start asked finish) (succeeded : ∀ exchange ∈ asked, Succeeded exchange)
    (size : ∀ now : CpuSet, (∀ cpu, cpu ∈ now ↔ start cpu = some true) → now.size = count) :
    outcome = .ok () ∧ finish = start ∧
      ∃ now : CpuSet, ∀ cpu, cpu ∈ now ↔ start cpu = some true := by
  cases confirmed with
  | unlisted unlisted =>
      obtain ⟨now, found⟩ := (look_online_of_cpu_run run).2.2 (succeeded _ List.mem_cons_self)
      rw [unlisted] at found
      contradiction
  | missed found other =>
      exact absurd (size _ ((look_online_of_cpu_run run).2.1 _ found)) other
  | reached found same =>
      obtain ⟨rest, online, _⟩ := look_online_of_cpu_run run
      obtain ⟨_, rest⟩ := cpu_run_cons_iff.1 rest
      exact ⟨rfl, cpu_run_nil_iff.1 rest, _, online _ found⟩

theorem count_of_approached (online : ∀ cpu, cpu ∈ on ↔ start cpu = some true)
    (offline : ∀ cpu, cpu ∈ off ↔ start cpu = some false) (positive : 0 < count)
    (enough : count ≤ on.size + off.size) (approached : Approached root count on off asked outcome)
    (run : CpuRun root start asked finish) (succeeded : ∀ exchange ∈ asked, Succeeded exchange) :
    outcome = .ok () ∧ ∃ now, CountReached on count finish now := by
  cases approached with
  | tooMany above => omega
  | tooFew none => omega
  | same _ same =>
      rw [cpu_run_nil_iff.1 run, same]
      exact ⟨rfl, on, count_unchanged online⟩
  | halted plan halted =>
      have well := ok_of_switches halted succeeded
      contradiction
  | switched plan switched confirmed =>
      obtain ⟨middle, moving, looking⟩ := cpu_run_append_iff.1 run
      obtain rfl := states_of_switches switched moving
      obtain ⟨_, looked⟩ := List.forall_mem_append.1 succeeded
      cases plan with
      | lower _ fewer highest =>
          obtain ⟨done, rfl, now, members⟩ := confirmed_of_size confirmed looking looked
            fun now members => (count_of_lowered fewer highest online members).size
          exact ⟨done, now, count_of_lowered fewer highest online members⟩
      | raise more _ lowest =>
          obtain ⟨done, rfl, now, members⟩ := confirmed_of_size confirmed looking looked
            fun now members => (count_of_raised more lowest online offline members).size
          exact ⟨done, now, count_of_raised more lowest online offline members⟩

theorem CountReached.congr {current now : CpuSet} (counted : CountReached current count finish now)
    (same : ∀ cpu, cpu ∈ current ↔ cpu ∈ on) : CountReached on count finish now := by
  have size : current.size = on.size := (Std.TreeSet.Equiv.of_forall_mem_iff same).size_eq
  refine ⟨counted.members, counted.size, ?_, ?_⟩
  · intro fewer
    obtain ⟨length, within, ordered, foremost⟩ := counted.shrunk (size ▸ fewer)
    exact ⟨length, fun cpu there => (same cpu).1 (within cpu there), ordered,
      fun cpu member => foremost cpu ((same cpu).2 member)⟩
  · intro more cpu member
    exact counted.grown (size ▸ more) cpu ((same cpu).2 member)

end Machine

/-- A number of CPUs is set as described for all answers. On a machine that does as it is told it is
reached if there are as many CPUs. -/
theorem cpu_count_reached (root : String) (count : Nat) :
    (∀ asked outcome, Course (setCount root count).outcome asked outcome ↔
      Setting root count asked outcome) ∧
    ∀ (on off : CpuSet) (start finish : CpuStates) (asked : List (Exchange host))
      (outcome : Except Error Unit),
      (∀ cpu, cpu ∈ on ↔ start cpu = some true) → (∀ cpu, cpu ∈ off ↔ start cpu = some false) →
      0 < count → count ≤ on.size + off.size →
      Course (setCount root count).outcome asked outcome → CpuRun root start asked finish →
      (∀ exchange ∈ asked, Succeeded exchange) →
      outcome = .ok () ∧ ∃ now : CpuSet, CountReached on count finish now := by
  refine ⟨fun asked outcome => course_set_count_iff, ?_⟩
  intro on off start finish asked outcome online offline positive enough course run succeeded
  cases course_set_count_iff.1 course with
  | onlineUnlisted unlisted =>
      obtain ⟨cpus, found⟩ := (look_online_of_cpu_run run).2.2 (succeeded _ List.mem_cons_self)
      rw [unlisted] at found
      contradiction
  | offlineUnlisted found unlisted =>
      obtain ⟨rest, _⟩ := look_online_of_cpu_run run
      obtain ⟨cpus, lost⟩ := (look_offline_of_cpu_run rest).2.2 (succeeded _ (by simp))
      rw [unlisted] at lost
      contradiction
  | @listed answer other current missing rest outcome found lost approached =>
      obtain ⟨run, shown, _⟩ := look_online_of_cpu_run run
      obtain ⟨run, hidden, _⟩ := look_offline_of_cpu_run run
      have available : count ≤ current.size + missing.size := by
        rw [size_of_members (shown _ found) online, size_of_members (hidden _ lost) offline]
        exact enough
      obtain ⟨done, now, counted⟩ := count_of_approached (shown _ found) (hidden _ lost) positive
        available approached run fun exchange member => succeeded exchange (by simp [member])
      exact ⟨done, now, counted.congr fun cpu => (shown _ found cpu).trans (online cpu).symm⟩

/-- Of four CPUs the last one is off. -/
def fourCpus : CpuStates := fun cpu =>
  if cpu < 3 then some true else if cpu = 3 then some false else none

def fourExchanges : List (Exchange host) :=
  [lookOnline "cpu" (.ok [0x30, 0x2d, 0x32, 0x0a]), lookOffline "cpu" (.ok [0x33, 0x0a]),
    switching "cpu" false 2 (.ok ()), switching "cpu" false 1 (.ok ()),
    lookOnline "cpu" (.ok [0x30, 0x0a]), announced 1]

theorem cpu_run_four :
    CpuRun "cpu" fourCpus fourExchanges (withStates false [1] (withStates false [2] fourCpus)) := by
  have threeOnline : Lists fourCpus true [0x30, 0x2d, 0x32, 0x0a] := by
    apply lists_of_parse "0-2\n" [0, 1, 2] rfl rfl
    intro cpu
    simp only [fourCpus]
    split_ifs <;> simp <;> omega
  have oneOffline : Lists fourCpus false [0x33, 0x0a] := by
    apply lists_of_parse "3\n" [3] rfl rfl
    intro cpu
    simp only [fourCpus]
    split_ifs <;> simp <;> omega
  have oneOnline : Lists (withStates false [1] (withStates false [2] fourCpus)) true
      [0x30, 0x0a] := by
    apply lists_of_parse "0\n" [0] rfl rfl
    intro cpu
    simp only [withStates, fourCpus, List.mem_singleton]
    split_ifs <;> simp <;> omega
  refine .step (truthful_online threeOnline) ?_
  refine .step (truthful_offline oneOffline) ?_
  refine cpu_run_switch false 2 ?_
  refine cpu_run_switch false 1 ?_
  refine .step (truthful_online oneOnline) ?_
  refine .step trivial ?_
  exact .stay _

/-- For one CPU out of three that are online, the two highest are switched off. -/
theorem one_cpu_reached :
    ∃ outcome now, Course (setCount "cpu" 1).outcome fourExchanges outcome ∧ outcome = .ok () ∧
      CountReached ((∅ : CpuSet).insertMany [0, 1, 2]) 1
        (withStates false [1] (withStates false [2] fourCpus)) now := by
  have course : Course (setCount "cpu" 1).outcome fourExchanges (.ok ()) :=
    .ask _ (.ask _ (.ask _ (.ask _ (.ask _ (.ask _ (.done _))))))
  have online : ∀ cpu, cpu ∈ (∅ : CpuSet).insertMany [0, 1, 2] ↔ fourCpus cpu = some true := by
    intro cpu
    rw [Std.TreeSet.mem_insertMany_list, List.contains_iff_mem, fourCpus]
    split_ifs <;> simp <;> omega
  have offline : ∀ cpu, cpu ∈ (∅ : CpuSet).insertMany [3] ↔ fourCpus cpu = some false := by
    intro cpu
    rw [Std.TreeSet.mem_insertMany_list, List.contains_iff_mem, fourCpus]
    split_ifs <;> simp <;> omega
  have succeeded : ∀ exchange ∈ fourExchanges, Succeeded exchange := by
    simp [fourExchanges, lookOnline, lookOffline, switching, announced, Succeeded]
  obtain ⟨done, now, reached⟩ := (cpu_count_reached "cpu" 1).2 _ _ _ _ _ _ online offline
    (by decide) (by decide) course cpu_run_four succeeded
  exact ⟨_, now, course, done, reached⟩

end TraceOverhead.Hotplug
