import TraceOverhead.Proofs.Number.Reading
import TraceOverhead.Proofs.Session.Signalling
import TraceOverhead.Proofs.Text.Blank
import TraceOverhead.Proofs.Text.Bytes
/-!
What a pidfile says and what comes of it. A numeral of 32 bits with white space around it names what
is asked to end, and anything else is refused as bad data. Zero and negative numerals are numerals
too, although they stand for groups of processes. Main statement: a single process is asked to end,
and all else refused, exactly if the file does not name a group.
-/

namespace TraceOverhead

open Dialogue

/-- Something was read that makes no sense. -/
def IoFailure.IsInvalidData : IoFailure → Prop
  | .notUtf8 | .badInteger _ | .badTime .. => True
  | _ => False

def IsInvalidData : Except Error Unit → Prop
  | .error (.io failure) => failure.IsInvalidData
  | _ => False

namespace Daemon

variable {daemon : Daemon} {content : Bytes} {pid : Int} {text : String} {failure : Error}

/-- A file that holds the numeral of a number of 32 bits, and nothing else but white space. -/
def Names (content : Bytes) (pid : Int) : Prop :=
  ∃ before numeral after, content = Text.toBytes (String.ofList (before ++ numeral ++ after)) ∧
    (∀ character ∈ before, Text.isBlank character = true) ∧
    (∀ character ∈ after, Text.isBlank character = true) ∧
    Number.DenotesInteger numeral pid ∧ -2147483648 ≤ pid ∧ pid ≤ 2147483647

section Readings

theorem is_blank_of_denotes {numeral : List Char} (denotes : Number.DenotesInteger numeral pid) :
    ∀ character ∈ numeral, Text.isBlank character = false := by
  intro character member
  rcases Number.mem_of_denotes_integer denotes character member with digit | rfl | rfl
  · exact Text.is_blank_of_is_digit digit
  · rfl
  · rfl

theorem read_pid_eq_ok_iff : readPid text = .ok pid ↔
    Number.DenotesInteger (Text.trim text).toList pid ∧ -2147483648 ≤ pid ∧ pid ≤ 2147483647 := by
  have read : readPid text = .ok pid ↔
      Number.readInteger largestPid (Text.trim text).toList = .ok pid := by
    rw [readPid]
    split <;> simp [*]
  have limit : largestPid = 2147483647 := by decide
  rw [read, Number.read_integer_eq_ok_iff, limit]
  refine and_congr_right fun _ => ?_
  omega

theorem read_pid_error (refused : readPid text = .error failure) :
    ∃ fault, failure = .io (.badInteger fault) := by
  rw [readPid] at refused
  split at refused
  · contradiction
  · exact ⟨_, (Except.error.inj refused).symm⟩

theorem pid_of_text (text : String) : pidOf (.ok (Text.toBytes text)) = readPid text := by
  have decoded : Host.decode (Text.toBytes text) = .ok text := by
    rw [Host.decode, Text.of_bytes_to_bytes]
  change (Host.decode (Text.toBytes text)).bind readPid = readPid text
  rw [decoded]
  rfl

theorem pid_of_other (other : ∀ text, content ≠ Text.toBytes text) :
    pidOf (.ok content) = .error (.io .notUtf8) := by
  have unread : Text.ofBytes? content = none :=
    Option.eq_none_iff_forall_ne_some.2 fun text => mt Text.of_bytes_eq_some_iff.1 (other text)
  change (Host.decode content).bind readPid = _
  rw [Host.decode, unread]
  rfl

theorem pid_of_eq_ok_iff : pidOf (.ok content) = .ok pid ↔ Names content pid := by
  constructor
  · intro found
    by_cases other : ∀ text, content ≠ Text.toBytes text
    · rw [pid_of_other other] at found
      contradiction
    · obtain ⟨text, rfl⟩ := not_forall_not.1 other
      rw [pid_of_text] at found
      obtain ⟨before, after, spelled, leading, trailing⟩ := Text.exists_around_trim text
      refine ⟨before, (Text.trim text).toList, after, ?_, leading, trailing,
        read_pid_eq_ok_iff.1 found⟩
      rw [← spelled, String.ofList_toList]
  · rintro ⟨before, numeral, after, rfl, leading, trailing, denotes, range⟩
    have trimmed := Text.trim_around leading trailing (is_blank_of_denotes denotes)
    rw [pid_of_text, read_pid_eq_ok_iff, trimmed, String.toList_ofList]
    exact ⟨denotes, range⟩

theorem pid_of_error (refused : pidOf (.ok content) = .error failure) :
    ∃ cause, cause.IsInvalidData ∧ failure = .io cause := by
  by_cases other : ∀ text, content ≠ Text.toBytes text
  · rw [pid_of_other other] at refused
    exact ⟨.notUtf8, trivial, (Except.error.inj refused).symm⟩
  · obtain ⟨text, rfl⟩ := not_forall_not.1 other
    rw [pid_of_text] at refused
    obtain ⟨fault, rfl⟩ := read_pid_error refused
    exact ⟨.badInteger fault, trivial, rfl⟩

end Readings

section Endings

variable {rest : List (Exchange host)} {after : Bool} {outcome : Except Error Unit}

/-- A single process is asked to end, the one that the file names, or the file is refused. -/
structure OneProcess (content : Bytes) (rest : List (Exchange host))
    (outcome : Except Error Unit) : Prop where
  single : ∀ pid ∈ signals rest, 0 < pid ∧ Names content pid
  refused : (∀ pid, Names content pid → ¬ 0 < pid) → signals rest = [] ∧ IsInvalidData outcome

theorem course_terminate_launched_iff {asked : List (Exchange host)} :
    Course (daemon.terminate true) asked (after, outcome) ↔
      after = false ∧ Signalled daemon asked outcome := by
  rw [← course_signal_iff]
  constructor
  · intro course
    obtain ⟨rfl, ⟨unlaunched, _⟩ | ⟨_, signalled⟩⟩ := terminate_cases course
    · cases unlaunched
    · exact ⟨rfl, signalled⟩
  · rintro ⟨rfl, signalled⟩
    exact course_bind_done_iff.2 ⟨outcome, signalled, rfl⟩

/-- What follows on the reading of a file: what it names is asked to end, or it is refused. -/
theorem signalled_of_content (signalled : Signalled daemon (daemon.reading (.ok content) :: rest)
    outcome) : (∃ pid, Names content pid ∧ signals rest = [pid]) ∨
      (∀ pid, ¬ Names content pid) ∧ rest = [] ∧ IsInvalidData outcome := by
  cases signalled with
  | unnamed none =>
      obtain ⟨cause, invalid, rfl⟩ := pid_of_error none
      refine .inr ⟨fun pid names => ?_, rfl, invalid⟩
      rw [pid_of_eq_ok_iff.2 names] at none
      contradiction
  | refused named => exact .inl ⟨_, pid_of_eq_ok_iff.1 named, rfl⟩
  | ended named => exact .inl ⟨_, pid_of_eq_ok_iff.1 named, rfl⟩

theorem names_unique {other : Int} (names : Names content pid) (again : Names content other) :
    pid = other :=
  Except.ok.inj ((pid_of_eq_ok_iff.2 names).symm.trans (pid_of_eq_ok_iff.2 again))

/-- When a launched daemon is ended, what its pidfile names is asked to end, be it one process or a
group, and a file that names nothing is refused. -/
theorem one_process_asked_iff (daemon : Daemon) (content : Bytes) :
    (∀ pid, Names content pid → ∀ reply : Except IoFailure Unit, ∃ told,
      Course (daemon.terminate true)
        (daemon.reading (.ok content) :: ⟨Host.Request.terminate pid, reply⟩ :: told)
        (false, reply.mapError Error.io)) ∧
    ((∀ pid, ¬ Names content pid) → ∃ outcome, IsInvalidData outcome ∧
      Course (daemon.terminate true) [daemon.reading (.ok content)] (false, outcome)) ∧
    ∀ rest after outcome,
      Course (daemon.terminate true) (daemon.reading (.ok content) :: rest) (after, outcome) →
        after = false ∧ (∀ pid, signals rest = [pid] ↔ Names content pid) ∧
          (OneProcess content rest outcome ↔ ∀ pid, Names content pid → 0 < pid) := by
  refine ⟨?named, ?unnamed, ?courses⟩
  case named =>
    intro pid names reply
    have named := pid_of_eq_ok_iff.2 names
    cases reply with
    | error cause => exact ⟨[], course_terminate_launched_iff.2 ⟨rfl, .refused named⟩⟩
    | ok => exact ⟨[farewell pid], course_terminate_launched_iff.2 ⟨rfl, .ended named⟩⟩
  case unnamed =>
    intro unnamed
    cases found : pidOf (.ok content) with
    | ok pid => exact absurd (pid_of_eq_ok_iff.1 found) (unnamed pid)
    | error failure =>
        obtain ⟨cause, invalid, rfl⟩ := pid_of_error found
        exact ⟨.error (.io cause), invalid, course_terminate_launched_iff.2 ⟨rfl, .unnamed found⟩⟩
  case courses =>
    intro rest after outcome course
    obtain ⟨rfl, signalled⟩ := course_terminate_launched_iff.1 course
    refine ⟨rfl, ?_⟩
    rcases signalled_of_content signalled with ⟨pid, names, asked⟩ | ⟨unnamed, rfl, invalid⟩
    · have only : ∀ other, Names content other ↔ pid = other :=
        fun other => ⟨names_unique names, fun same => same ▸ names⟩
      rw [asked]
      refine ⟨fun other => by simp [only], fun one => ?_, fun positive => ?_⟩
      · have single := (one.single pid (by simp [asked])).1
        exact fun other again => names_unique names again ▸ single
      · refine ⟨fun other member => ?_, fun groups => absurd (positive pid names) (groups pid names)⟩
        obtain rfl : other = pid := by simpa [asked] using member
        exact ⟨positive other names, names⟩
    · refine ⟨fun pid => iff_of_false (by simp) (unnamed pid), fun _ pid names => ?_, fun _ => ?_⟩
      · exact absurd names (unnamed pid)
      · exact ⟨by simp, fun _ => ⟨rfl, invalid⟩⟩

end Endings

section Files

def childFile : Bytes := Text.toBytes " +42\n"

def ownGroupFile : Bytes := Text.toBytes "0\n"

def farGroupFile : Bytes := Text.toBytes "-2147483647"

theorem child_asked_to_end : Names childFile 42 ∧ ∃ told,
    Course (smallDaemon.terminate true)
      (smallDaemon.reading (.ok childFile) :: ⟨Host.Request.terminate 42, .ok ()⟩ :: told)
      (false, .ok ()) ∧
    OneProcess childFile (⟨Host.Request.terminate 42, .ok ()⟩ :: told) (.ok ()) := by
  have names : Names childFile 42 := pid_of_eq_ok_iff.1 (by decide +kernel)
  obtain ⟨named, _, courses⟩ := one_process_asked_iff smallDaemon childFile
  obtain ⟨told, course⟩ := named 42 names (.ok ())
  obtain ⟨_, _, one⟩ := courses _ _ _ course
  refine ⟨names, told, course, one.2 fun pid again => ?_⟩
  rw [← names_unique names again]
  decide

/-- A file may name the group of whoever reads it, or some other group. -/
theorem groups_asked_to_end :
    (Course (smallDaemon.terminate true)
        [smallDaemon.reading (.ok ownGroupFile), ⟨Host.Request.terminate 0, .ok ()⟩, farewell 0]
        (false, .ok ()) ∧
      ¬ OneProcess ownGroupFile [⟨Host.Request.terminate 0, .ok ()⟩, farewell 0] (.ok ())) ∧
    Course (smallDaemon.terminate true)
        [smallDaemon.reading (.ok farGroupFile),
          ⟨Host.Request.terminate (-2147483647), .error .noSuchProcess⟩]
        (false, .error (.io .noSuchProcess)) ∧
      ¬ OneProcess farGroupFile [⟨Host.Request.terminate (-2147483647), .error .noSuchProcess⟩]
        (.error (.io .noSuchProcess)) := by
  have own : pidOf (.ok ownGroupFile) = .ok 0 := by decide +kernel
  have far : pidOf (.ok farGroupFile) = .ok (-2147483647) := by decide +kernel
  refine ⟨⟨course_terminate_launched_iff.2 ⟨rfl, .ended own⟩, fun one => ?_⟩,
    course_terminate_launched_iff.2 ⟨rfl, .refused far⟩, fun one => ?_⟩
  · exact absurd (one.single 0 List.mem_cons_self).1 (by decide)
  · exact absurd (one.single (-2147483647) List.mem_cons_self).1 (by decide)

end Files

end Daemon
end TraceOverhead
