import TraceOverhead.Proofs.File.Walk
import TraceOverhead.Proofs.Host
import TraceOverhead.Proofs.Trace.Lines
/-!
When a trace is read and what its number of events is. Whether a tree is ready does not depend on
the order in which its directories are listed. Main statement: the printer is run exactly on a
directory all of whose metadata is there, and the events are the lines that it prints.
-/

namespace TraceOverhead.Trace

open Dialogue FileTree Host

/-- All that a check looks at below a directory can be opened by its path. -/
structure Listable (tree : FileTree) (path : String) (here : Location) : Prop where
  directories : ∀ names, tree[here ++ names]? = some FileEntry.directory →
    Openable (Path.extend path names)
  metadata : ∀ names content,
    tree[here ++ (names ++ [metadataName])]? = some (FileEntry.file content) →
      Openable (Path.extend path (names ++ [metadataName]))

/-- There are regular files with the name of metadata below a directory, none of them empty. -/
structure Recorded (tree : FileTree) (here : Location) : Prop where
  present : ∃ names content,
    tree[here ++ (names ++ [metadataName])]? = some (FileEntry.file content)
  filled : ∀ names content,
    tree[here ++ (names ++ [metadataName])]? = some (FileEntry.file content) → content ≠ []

/-- A path leads to a directory, maybe by way of links, that can be listed and has its metadata. -/
def ReadyAt (tree : FileTree) (working : Location) (path : String) : Prop :=
  ∃ here, tree.arrive .look working path = .ok (.directory here) ∧ Listable tree path here ∧
    Recorded tree here

/-- A tree shows itself as it is, with its directories listed in any order. -/
def Shows (tree : FileTree) (working : Location) : Exchange host → Prop
  | ⟨Host.Request.isDirectory path, answer⟩ => answer = tree.isDirectory working path
  | ⟨Host.Request.walk path, findings⟩ => findings.Perm (tree.walk working path)
  | _ => True

variable {tree : FileTree} {working here : Location} {path printer : String}
  {findings others : List (Location × Finding)} {names : List String}
  {asked : List (Exchange host)}

section Faults

theorem finding_fault_directory_iff {failure : Option IoFailure} :
    findingFault? path (names, .directory failure) = none ↔ failure = none := by
  cases failure <;> simp [findingFault?]

theorem finding_fault_file_iff {content : Except IoFailure Bytes} :
    findingFault? path (names, .file content) = none ↔
      (names.getLast? = some metadataName → ∃ bytes, content = .ok bytes ∧ bytes ≠ []) := by
  by_cases named : names.getLast? = some metadataName
  · rcases content with failure | _ | ⟨byte, rest⟩ <;> simp [findingFault?, isMetadata, named]
  · simp [findingFault?, isMetadata, named]

theorem fault_eq_none_iff : fault? path findings = none ↔
    (∀ found ∈ findings, findingFault? path found = none) ∧
      ∃ found ∈ findings, isMetadata found = true := by
  rw [fault?, ← List.findSome?_eq_none_iff, ← List.any_eq_true]
  cases findings.findSome? (findingFault? path) with
  | some fault => simp
  | none => cases findings.any isMetadata <;> simp

/-- Neither kind of fault depends on the order of what is found. -/
theorem fault_eq_none_of_perm (same : findings.Perm others) :
    fault? path findings = none ↔ fault? path others = none := by
  simp only [fault_eq_none_iff, same.mem_iff]

theorem is_metadata_iff {found : Location × Finding} : isMetadata found = true ↔
    ∃ names content, found = (names ++ [metadataName], .file content) := by
  obtain ⟨names, _ | content | _⟩ := found
  · simp [isMetadata]
  · simp [isMetadata, List.getLast?_eq_some_iff]
  · simp [isMetadata]

/-- What is wrong with a file that a walk comes to: it is metadata that is empty or too deep. -/
theorem finding_fault_of_file_iff {reached : String} {content : Bytes} :
    findingFault? path (names, finding reached (.file content)) = none ↔
      (names.getLast? = some metadataName → Openable reached ∧ content ≠ []) := by
  rw [finding, finding_fault_file_iff]
  refine imp_congr_right fun _ => ?_
  rw [← opening_failure_eq_none_iff]
  cases openingFailure? reached <;> simp

section Walks

variable (grounded : tree.Grounded)
  (arrives : tree.arrive .look working path = .ok (.directory here))
include grounded arrives

theorem recorded_of_faultless
    (faultless : ∀ found ∈ tree.walk working path, findingFault? path found = none)
    (metadata : ∃ found ∈ tree.walk working path, isMetadata found = true) :
    Listable tree path here ∧ Recorded tree here := by
  have opened : ∀ names failure, (names, Finding.directory failure) ∈ tree.walk working path →
      failure = none :=
    fun names failure found => finding_fault_directory_iff.1 (faultless _ found)
  have read : ∀ names content,
      tree[here ++ (names ++ [metadataName])]? = some (FileEntry.file content) →
        Openable (Path.extend path (names ++ [metadataName])) ∧ content ≠ [] := by
    intro names content held
    have found := mem_walk_of_opened arrives grounded opened (by simp) held
    exact finding_fault_of_file_iff.1 (faultless _ found) (by simp)
  refine ⟨⟨?_, fun names content held => (read names content held).1⟩,
    ⟨?_, fun names content held => (read names content held).2⟩⟩
  · intro names held
    exact openable_of_walk arrives grounded opened names (.inr held)
  · obtain ⟨_, found, metadata⟩ := metadata
    obtain ⟨names, content, rfl⟩ := is_metadata_iff.1 metadata
    rcases (mem_walk_iff arrives).1 found with ⟨none, _⟩ | ⟨entry, _, held, _, kind⟩
    · simp at none
    · cases entry with
      | file bytes => exact ⟨names, bytes, held⟩
      | directory => simp [finding] at kind
      | link target => simp [finding] at kind

omit grounded in
theorem faultless_of_recorded (listable : Listable tree path here)
    (recorded : Recorded tree here) :
    ∀ found ∈ tree.walk working path, findingFault? path found = none := by
  rintro ⟨names, found⟩ member
  rcases (mem_walk_iff arrives).1 member with ⟨_, rfl⟩ | ⟨entry, _, held, _, rfl⟩
  · rfl
  · cases entry with
    | directory =>
        exact finding_fault_directory_iff.2
          (opening_failure_eq_none_iff.2 (listable.directories names held))
    | file content =>
        refine finding_fault_of_file_iff.2 fun named => ?_
        obtain ⟨above, rfl⟩ := List.getLast?_eq_some_iff.1 named
        exact ⟨listable.metadata above content held, recorded.filled above content held⟩
    | link target => rfl

theorem metadata_of_recorded (listable : Listable tree path here)
    (recorded : Recorded tree here) : ∃ found ∈ tree.walk working path, isMetadata found = true := by
  obtain ⟨names, content, held⟩ := recorded.present
  have opened : Openable (Path.extend path names) := by
    rcases above_of_grounded grounded held with rfl | directory
    · exact openable_of_arrives arrives
    · exact listable.directories names directory
  refine ⟨_, (mem_walk_iff arrives).2 (.inr ⟨_, by simp, held, by simpa using opened, rfl⟩), ?_⟩
  exact is_metadata_iff.2 ⟨names, _, rfl⟩

theorem fault_walk_eq_none_iff :
    fault? path (tree.walk working path) = none ↔ Listable tree path here ∧ Recorded tree here := by
  rw [fault_eq_none_iff]
  constructor
  · rintro ⟨faultless, metadata⟩
    exact recorded_of_faultless grounded arrives faultless metadata
  · rintro ⟨listable, recorded⟩
    exact ⟨faultless_of_recorded arrives listable recorded,
      metadata_of_recorded grounded arrives listable recorded⟩

end Walks

end Faults

section Checks

/-- What a check says about what a walk found. -/
def judge (path : String) (findings : List (Location × Finding)) : Except Error Unit :=
  match fault? path findings with
  | some fault => .error (.traceNotReady path fault)
  | none => .ok ()

theorem judge_eq_ok_iff : judge path findings = .ok () ↔ fault? path findings = none := by
  rw [judge]
  cases fault? path findings <;> simp

theorem course_check_ready_iff {outcome : Except Error Unit} :
    Course (checkReady path).outcome asked outcome ↔
      (asked = [⟨Host.Request.isDirectory path, false⟩] ∧
        outcome = .error (.traceNotReady path .noDirectory)) ∨
      ∃ findings : List (Location × Finding),
        asked = [⟨Host.Request.isDirectory path, true⟩, ⟨Host.Request.walk path, findings⟩] ∧
          outcome = judge path findings := by
  have asking : (checkReady path).outcome =
      Host.ask (.isDirectory path) >>= fun shown : Bool =>
        if shown then Host.ask (.walk path) >>= fun findings => .done (judge path findings)
        else .done (.error (.traceNotReady path .noDirectory)) := by
    refine congrArg (@Dialogue.ask host _ (.isDirectory path)) (funext fun shown => ?_)
    cases shown with
    | false => rfl
    | true =>
        refine congrArg (@Dialogue.ask host _ (.walk path)) (funext fun findings => ?_)
        change ExceptT.run (match fault? path findings with
          | some fault => throw (.traceNotReady path fault)
          | none => pure () : Attempt host Unit) = .done (judge path findings)
        dsimp only [judge]
        cases fault? path findings <;> rfl
  rw [asking]
  refine course_request_bind_iff.trans ?_
  constructor
  · rintro ⟨shown, rest, judged, rfl⟩
    cases shown with
    | false =>
        obtain ⟨rfl, rfl⟩ := course_done_iff.1 judged
        exact .inl ⟨rfl, rfl⟩
    | true =>
        obtain ⟨findings, walked, rfl⟩ := course_bind_done_iff.1 judged
        obtain rfl := course_request_iff.1 walked
        exact .inr ⟨findings, rfl, rfl⟩
  · rintro (⟨rfl, rfl⟩ | ⟨findings, rfl, rfl⟩)
    · exact ⟨false, [], .done _, rfl⟩
    · exact ⟨true, _, course_bind_done_iff.2 ⟨findings, course_request_iff.2 rfl, rfl⟩, rfl⟩

/-- A check is passed exactly in a tree that is ready, in whatever order it is listed. -/
theorem check_ready_ok_iff (grounded : tree.Grounded)
    (shown : ∀ exchange ∈ asked, Shows tree working exchange) {outcome : Except Error Unit}
    (course : Course (checkReady path).outcome asked outcome) :
    outcome = .ok () ↔ ReadyAt tree working path := by
  rcases course_check_ready_iff.1 course with ⟨rfl, rfl⟩ | ⟨findings, rfl, rfl⟩
  · have missing : false = tree.isDirectory working path := shown _ List.mem_cons_self
    refine ⟨fun passed => by simp at passed, ?_⟩
    rintro ⟨here, arrives, _⟩
    rw [is_directory_iff.2 ⟨here, arrives⟩] at missing
    contradiction
  · have there : true = tree.isDirectory working path := shown _ List.mem_cons_self
    have same : findings.Perm (tree.walk working path) :=
      shown ⟨Host.Request.walk path, findings⟩ (by simp)
    obtain ⟨here, arrives⟩ := is_directory_iff.1 there.symm
    rw [judge_eq_ok_iff, fault_eq_none_of_perm same, fault_walk_eq_none_iff grounded arrives]
    constructor
    · intro ready
      exact ⟨here, arrives, ready⟩
    · rintro ⟨other, again, ready⟩
      obtain rfl : here = other := by
        rw [arrives] at again
        injection again with again
        injection again
      exact ready

end Checks

section Counts

def isRun : Exchange host → Bool
  | ⟨Host.Request.run .., _⟩ => true
  | _ => false

/-- The number of events that is made of how a program ended. -/
def tally (answer : Except Error Bytes) : Except Error UInt64 :=
  answer.map fun output => UInt64.ofNat (countLines false output)

theorem course_count_events_iff {outcome : Except Error UInt64} :
    Course (countEvents printer path).outcome asked outcome ↔
      (∃ failure, Course (checkReady path).outcome asked (.error failure) ∧
        outcome = .error failure) ∨
      ∃ checked answer, Course (checkReady path).outcome checked (.ok ()) ∧
        asked = checked ++ [⟨Host.Request.run printer [path], answer⟩] ∧
        outcome = tally (verdict printer answer) := by
  rw [countEvents, course_outcome_bind_iff]
  refine or_congr_right ?_
  constructor
  · rintro ⟨checked, ⟨⟩, printed, ready, counted, rfl⟩
    obtain ⟨reached, printing, rfl⟩ := course_outcome_bind_lift_iff.1 counted
    obtain ⟨answer, rfl, rfl⟩ := course_output_iff.1 printing
    exact ⟨checked, answer, ready, rfl, rfl⟩
  · rintro ⟨checked, answer, ready, rfl, rfl⟩
    refine ⟨checked, (), _, ready, ?_, rfl⟩
    exact course_outcome_bind_lift_iff.2 ⟨_, course_output_iff.2 ⟨answer, rfl, rfl⟩, rfl⟩

theorem no_run_of_check {outcome : Except Error Unit}
    (course : Course (checkReady path).outcome asked outcome) : asked.filter isRun = [] := by
  rcases course_check_ready_iff.1 course with ⟨rfl, _⟩ | ⟨findings, rfl, _⟩ <;> rfl

theorem tally_verdict_iff {answer : Except IoFailure Output} {count : UInt64} :
    tally (verdict printer answer) = .ok count ↔ ∃ output, answer = .ok output ∧
      output.status.isSuccess = true ∧ count = UInt64.ofNat (lines output.stdout).ncard := by
  cases answer with
  | error cause => simp [tally, verdict, Except.map]
  | ok output =>
      cases well : output.status.isSuccess with
      | false => simp [tally, verdict, well, Except.map]
      | true =>
          simp only [tally, verdict, well, if_true, Except.map, Except.ok.injEq,
            exists_eq_left', true_and, ncard_lines]
          exact eq_comm

end Counts

section Exactness

theorem events_counted_iff_ready (grounded : tree.Grounded) (printer path : String) :
    (∀ asked outcome, (∀ exchange ∈ asked, Shows tree working exchange) →
      Course (checkReady path).outcome asked outcome →
        (outcome = .ok () ↔ ReadyAt tree working path)) ∧
    (∀ asked outcome, (∀ exchange ∈ asked, Shows tree working exchange) →
      Course (countEvents printer path).outcome asked outcome →
        (ReadyAt tree working path → ∃ answer : Except IoFailure Output,
          asked.filter isRun = [⟨Host.Request.run printer [path], answer⟩] ∧
          ∀ count, outcome = .ok count ↔ ∃ output, answer = .ok output ∧
            output.status.isSuccess = true ∧ count = UInt64.ofNat (lines output.stdout).ncard) ∧
        (¬ ReadyAt tree working path → asked.filter isRun = [] ∧ outcome.isOk = false)) ∧
    (∀ bytes, (lines bytes).Finite ∧ (lines bytes).ncard ≤ bytes.length) ∧
    (∀ first second,
      (lines (first ++ newline :: second)).ncard = (lines first).ncard + (lines second).ncard ∧
      (lines (first ++ newline :: newline :: second)).ncard =
        (lines (first ++ newline :: second)).ncard) ∧
    ∀ bytes, (lines (bytes ++ [newline])).ncard = (lines bytes).ncard := by
  refine ⟨fun asked outcome shown course => check_ready_ok_iff grounded shown course, ?_,
    fun bytes => ⟨finite_lines bytes, ncard_lines_le bytes⟩,
    fun first second => ⟨ncard_lines_append first second, ncard_lines_blank first second⟩,
    ncard_lines_closed⟩
  intro asked outcome shown course
  rcases course_count_events_iff.1 course with
    ⟨failure, checked, rfl⟩ | ⟨before, answer, checked, rfl, rfl⟩
  · have verdict := check_ready_ok_iff grounded shown checked
    exact ⟨fun ready => absurd (verdict.2 ready) nofun, fun _ => ⟨no_run_of_check checked, rfl⟩⟩
  · have verdict := check_ready_ok_iff grounded
      (fun exchange member => shown exchange (List.mem_append_left _ member)) checked
    refine ⟨fun _ => ⟨answer, ?_, fun count => tally_verdict_iff⟩, fun unready => ?_⟩
    · rw [List.filter_append, no_run_of_check checked]
      rfl
    · exact absurd (verdict.1 rfl) unready

/-- A trace that a link leads to, with metadata two directories down and a link of that name. -/
def linkedTrace : FileTree :=
  let entries : List (Location × FileEntry) := [
    (["last"], .link "traces/auto"),
    (["traces"], .directory),
    (["traces", "auto"], .directory),
    (["traces", "auto", "metadata"], .link "/nowhere"),
    (["traces", "auto", "ust"], .directory),
    (["traces", "auto", "ust", "uid"], .directory),
    (["traces", "auto", "ust", "uid", "metadata"], .file [47])]
  .ofList entries

/-- Two lines around an empty one, the second of them not in any character set and not ended. -/
def looseOutput : Bytes := [97, 10, 10, 255]

/-- What passes when events are counted in that trace while it is listed backwards. -/
def linkedExchanges : List (Exchange host) :=
  [⟨Host.Request.isDirectory "last", true⟩,
    ⟨Host.Request.walk "last", (linkedTrace.walk [] "last").reverse⟩,
    ⟨Host.Request.run "babeltrace2" ["last"], .ok ⟨.exited 0, looseOutput, []⟩⟩]

theorem loose_output_counted :
    linkedTrace.Grounded ∧ (∀ exchange ∈ linkedExchanges, Shows linkedTrace [] exchange) ∧
      Course (countEvents "babeltrace2" "last").outcome linkedExchanges (.ok 2) ∧
      ReadyAt linkedTrace [] "last" ∧ (2 : UInt64) = .ofNat (lines looseOutput).ncard := by
  have grounded : linkedTrace.Grounded := by decide +kernel
  have shown : ∀ exchange ∈ linkedExchanges, Shows linkedTrace [] exchange := by
    intro exchange member
    rcases member with _ | ⟨_, _ | ⟨_, _ | ⟨_, member⟩⟩⟩
    · change true = linkedTrace.isDirectory [] "last"
      decide +kernel
    · exact List.reverse_perm _
    · trivial
    · contradiction
  have judged : judge "last" (linkedTrace.walk [] "last").reverse = .ok () := by
    rw [judge_eq_ok_iff]
    decide +kernel
  have checked : Course (checkReady "last").outcome (linkedExchanges.take 2) (.ok ()) :=
    course_check_ready_iff.2 (.inr ⟨_, rfl, judged.symm⟩)
  have counted : Course (countEvents "babeltrace2" "last").outcome linkedExchanges (.ok 2) :=
    course_count_events_iff.2 (.inr ⟨_, _, checked, rfl, by decide +kernel⟩)
  obtain ⟨checking, counting, _⟩ := events_counted_iff_ready grounded "babeltrace2" "last"
  have ready := (checking _ _ (fun exchange member => shown exchange (List.mem_of_mem_take member))
    checked).1 rfl
  obtain ⟨answer, run, count⟩ := (counting _ _ shown counted).1 ready
  have printed : (⟨Host.Request.run "babeltrace2" ["last"], .ok ⟨.exited 0, looseOutput, []⟩⟩ :
      Exchange host) = ⟨Host.Request.run "babeltrace2" ["last"], answer⟩ := List.singleton_inj.1 run
  obtain rfl := eq_of_heq (Exchange.mk.inj printed).2
  obtain ⟨_, ⟨⟩, _, same⟩ := (count 2).1 rfl
  exact ⟨grounded, shown, counted, ready, same⟩

end Exactness

end TraceOverhead.Trace
