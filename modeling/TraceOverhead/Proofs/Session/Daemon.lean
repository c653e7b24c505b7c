import TraceOverhead.Proofs.Host
import TraceOverhead.Session.Daemon
/-!
The daemon's launch and its end. It counts as launched from the launch that succeeds until it is
released, and then the process that its pidfile names by then is asked to end, if it names one.
-/

namespace TraceOverhead

open Dialogue

/-- The process that is asked to end. -/
def signal? : Exchange host → Option Int
  | ⟨Host.Request.terminate pid, _⟩ => some pid
  | _ => none

def signals (asked : List (Exchange host)) : List Int := asked.filterMap signal?

@[simp] theorem signals_nil : signals [] = [] := rfl

@[simp] theorem signals_terminate {pid : Int} {reply : host.Answer (Host.Request.terminate pid)}
    {asked : List (Exchange host)} :
    signals (⟨Host.Request.terminate pid, reply⟩ :: asked) = pid :: signals asked := rfl

@[simp] theorem signals_append (first second : List (Exchange host)) :
    signals (first ++ second) = signals first ++ signals second := List.filterMap_append

theorem signals_of_forall {asked : List (Exchange host)}
    (still : ∀ exchange ∈ asked, ∀ pid, exchange.request ≠ Host.Request.terminate pid) :
    signals asked = [] := by
  apply List.filterMap_eq_nil_iff.2
  intro exchange member
  have other := still exchange member
  fun_cases signal? exchange with
  | case1 pid answer => exact absurd rfl (other pid)
  | case2 => rfl

namespace Daemon

variable {daemon : Daemon} {launched after : Bool} {asked : List (Exchange host)}

def launchArguments (daemon : Daemon) : List String :=
  ["--daemonize", "--quiet", "--pidfile", daemon.pidfile]

/-- A launch that succeeded. -/
def Launch (daemon : Daemon) : Exchange host → Prop
  | ⟨Host.Request.run program arguments, answer⟩ =>
    program = daemon.program ∧ arguments = daemon.launchArguments ∧ Host.ranWell answer = true
  | _ => False

def Launches (daemon : Daemon) (asked : List (Exchange host)) : Prop :=
  ∃ exchange ∈ asked, daemon.Launch exchange

@[simp] theorem launches_nil : ¬ daemon.Launches [] := by simp [Launches]

@[simp] theorem launches_cons {exchange : Exchange host} :
    daemon.Launches (exchange :: asked) ↔ daemon.Launch exchange ∨ daemon.Launches asked := by
  simp [Launches]

@[simp] theorem launches_append {first second : List (Exchange host)} :
    daemon.Launches (first ++ second) ↔ daemon.Launches first ∨ daemon.Launches second := by
  simp [Launches, or_and_right, exists_or]

/-- The process that a pidfile names. -/
def namedPid? : Except IoFailure Bytes → Option Int
  | .ok content => (Text.ofBytes? content).bind fun text => (readPid text).toOption
  | .error _ => none

/-- What the daemon is looked for and launched with. -/
def Work (daemon : Daemon) : Host.Request → Prop
  | .run program _ => program = daemon.client ∨ program = daemon.program
  | .log .. => True
  | _ => False

theorem asks_ensure_running (daemon : Daemon) (launched : Bool) :
    Asks daemon.Work (daemon.ensureRunning launched) := by
  apply Dialogue.asks_bind
  · apply Dialogue.asks_bind (Host.asks_ask (.inl rfl))
    intro answer
    cases answer <;> trivial
  · intro alive
    split
    · trivial
    · apply Dialogue.asks_bind
      · apply Attempt.asks_bind (Attempt.asks_lift (Host.asks_ask trivial))
        intro _
        apply Dialogue.asks_bind (Host.asks_output (.inr rfl))
        intro outcome
        cases outcome <;> trivial
      · intro outcome
        cases outcome <;> trivial

section Exchanges

def look (daemon : Daemon) (answer : Except IoFailure Host.Output) : Exchange host :=
  ⟨Host.Request.run daemon.client ["list"], answer⟩

def announcement (daemon : Daemon) : Exchange host :=
  ⟨Host.Request.log .info ("starting " ++ daemon.program), ()⟩

def attempt (daemon : Daemon) (answer : Except IoFailure Host.Output) : Exchange host :=
  ⟨Host.Request.run daemon.program daemon.launchArguments, answer⟩

def reading (daemon : Daemon) (answer : Except IoFailure Bytes) : Exchange host :=
  ⟨Host.Request.readFile daemon.pidfile, answer⟩

/-- Whether the client's answer shows a daemon. It shows none if it cannot be run or says so. -/
def shown : Except IoFailure Host.Output → Bool
  | .error _ => false
  | .ok output =>
    output.status.isSuccess || !mentions absence (Text.ofBytesLossy output.stderr).toList

@[simp] theorem launch_attempt_iff {answer : Except IoFailure Host.Output} :
    daemon.Launch (daemon.attempt answer) ↔ Host.ranWell answer = true := by
  simp [Launch, attempt]

@[simp] theorem not_launch_look {answer : Except IoFailure Host.Output} :
    ¬ daemon.Launch (daemon.look answer) := by
  simp [Launch, look, launchArguments]

@[simp] theorem not_launch_announcement : ¬ daemon.Launch daemon.announcement := id

@[simp] theorem signals_look {answer : Except IoFailure Host.Output} :
    signals (daemon.look answer :: asked) = signals asked := rfl

@[simp] theorem signals_announcement : signals (daemon.announcement :: asked) = signals asked := rfl

@[simp] theorem signals_attempt {answer : Except IoFailure Host.Output} :
    signals (daemon.attempt answer :: asked) = signals asked := rfl

@[simp] theorem signals_reading {answer : Except IoFailure Bytes} :
    signals (daemon.reading answer :: asked) = signals asked := rfl

theorem course_is_alive_iff {alive : Bool} :
    Course daemon.isAlive asked alive ↔
      ∃ answer, asked = [daemon.look answer] ∧ alive = shown answer := by
  have asking : daemon.isAlive =
      Host.ask (.run daemon.client ["list"]) >>= fun answer => .done (shown answer) := by
    refine congrArg (@Dialogue.ask host _ (.run daemon.client ["list"])) (funext ?_)
    intro answer
    cases answer <;> rfl
  rw [asking, course_bind_done_iff]
  exact exists_congr fun answer => and_congr_left fun _ => course_request_iff

/-- How the client comes by a daemon: one shows itself, or one is launched if it can be. -/
inductive Ensured (daemon : Daemon) (launched : Bool) :
    List (Exchange host) → Bool → Except Error Unit → Prop
  | found {answer : Except IoFailure Host.Output} (alive : shown answer = true) :
      Ensured daemon launched [daemon.look answer] launched (.ok ())
  | launched {answer given : Except IoFailure Host.Output} {said : Bytes}
      (absent : shown answer = false) (well : Host.verdict daemon.program given = .ok said) :
      Ensured daemon launched [daemon.look answer, daemon.announcement, daemon.attempt given] true
        (.ok ())
  | failed {answer given : Except IoFailure Host.Output} {failure : Error}
      (absent : shown answer = false) (badly : Host.verdict daemon.program given = .error failure) :
      Ensured daemon launched [daemon.look answer, daemon.announcement, daemon.attempt given]
        launched (.error failure)

theorem course_launch_iff {outcome : Except Error Unit} :
    Course daemon.launch.outcome asked outcome ↔
      ∃ given, asked = [daemon.announcement, daemon.attempt given] ∧
        outcome = (Host.verdict daemon.program given).map fun _ => () := by
  refine course_request_bind_iff.trans ?_
  constructor
  · intro parts
    obtain ⟨_, rest, running, rfl⟩ := parts
    obtain ⟨said, output, rfl⟩ := Attempt.course_discard_iff.1 running
    obtain ⟨given, rfl, rfl⟩ := Host.course_output_iff.1 output
    exact ⟨given, rfl, rfl⟩
  · intro parts
    obtain ⟨given, rfl, rfl⟩ := parts
    exact ⟨(), _, Attempt.course_discard_iff.2 ⟨_, Host.course_output_iff.2 ⟨given, rfl, rfl⟩, rfl⟩,
      rfl⟩

theorem course_ensure_running_iff {outcome : Except Error Unit} :
    Course (daemon.ensureRunning launched) asked (after, outcome) ↔
      Ensured daemon launched asked after outcome := by
  rw [ensureRunning, course_bind_iff]
  constructor
  · intro parts
    obtain ⟨first, alive, rest, looked, continued, rfl⟩ := parts
    obtain ⟨answer, rfl, found⟩ := course_is_alive_iff.1 looked
    cases alive with
    | true =>
        obtain ⟨rfl, same⟩ := course_done_iff.1 continued
        obtain ⟨rfl, rfl⟩ := Prod.mk.inj same
        exact .found found.symm
    | false =>
        obtain ⟨second, ended, last, launch, concluded, rfl⟩ := course_bind_iff.1 continued
        obtain ⟨given, rfl, rfl⟩ := course_launch_iff.1 launch
        cases well : Host.verdict daemon.program given with
        | error failure =>
            rw [well] at concluded
            obtain ⟨rfl, same⟩ := course_done_iff.1 concluded
            obtain ⟨rfl, rfl⟩ := Prod.mk.inj same
            exact .failed found.symm well
        | ok said =>
            rw [well] at concluded
            obtain ⟨rfl, same⟩ := course_done_iff.1 concluded
            obtain ⟨rfl, rfl⟩ := Prod.mk.inj same
            exact .launched found.symm well
  · intro ensured
    cases ensured with
    | @found answer alive =>
        exact ⟨_, true, [], course_is_alive_iff.2 ⟨answer, rfl, alive.symm⟩, .done _, rfl⟩
    | @launched answer given said absent well =>
        refine ⟨_, false, _, course_is_alive_iff.2 ⟨answer, rfl, absent.symm⟩, ?_, rfl⟩
        refine course_bind_iff.2 ⟨_, _, [], course_launch_iff.2 ⟨given, rfl, rfl⟩, ?_, rfl⟩
        rw [well]
        exact .done _
    | @failed answer given failure absent badly =>
        refine ⟨_, false, _, course_is_alive_iff.2 ⟨answer, rfl, absent.symm⟩, ?_, rfl⟩
        refine course_bind_iff.2 ⟨_, _, [], course_launch_iff.2 ⟨given, rfl, rfl⟩, ?_, rfl⟩
        rw [badly]
        exact .done _

/-- A daemon is launched only if none shows, and counts as launched if that goes well. -/
theorem ensure_running_cases {outcome : Except Error Unit}
    (course : Course (daemon.ensureRunning launched) asked (after, outcome)) :
    (∃ answer, shown answer = true ∧ asked = [daemon.look answer] ∧ after = launched) ∨
    ∃ answer given, shown answer = false ∧
      asked = [daemon.look answer, daemon.announcement, daemon.attempt given] ∧
      after = (launched || Host.ranWell given) := by
  cases course_ensure_running_iff.1 course with
  | @found answer alive => exact .inl ⟨answer, alive, rfl, rfl⟩
  | @launched answer given said absent well =>
      refine .inr ⟨answer, given, absent, rfl, ?_⟩
      rw [← Host.is_ok_verdict daemon.program given, well]
      exact (Bool.or_true launched).symm
  | @failed answer given failure absent badly =>
      refine .inr ⟨answer, given, absent, rfl, ?_⟩
      rw [← Host.is_ok_verdict daemon.program given, badly]
      exact (Bool.or_false launched).symm

end Exchanges

/-- The process that a pidfile names, or why none can be told. -/
def pidOf (answer : Except IoFailure Bytes) : Except Error Int :=
  ((answer.mapError Error.io).bind Host.decode).bind readPid

theorem named_pid_eq (answer : Except IoFailure Bytes) :
    namedPid? answer = (pidOf answer).toOption := by
  cases answer with
  | error cause => rfl
  | ok content =>
      have decoded : pidOf (.ok content) = (Host.decode content).bind readPid := rfl
      rw [decoded, namedPid?, Host.decode]
      cases Text.ofBytes? content <;> rfl

def IsNews : Host.Request → Prop
  | .log .. => True
  | _ => False

theorem signals_of_news (news : ∀ exchange ∈ asked, IsNews exchange.request) :
    signals asked = [] := by
  apply signals_of_forall
  intro exchange member pid ended
  have told := news exchange member
  rw [ended] at told
  exact told

def farewell (pid : Int) : Exchange host :=
  ⟨Host.Request.log .info ("terminated lttng-sessiond [" ++ Number.signedDecimal pid ++ "]"), ()⟩

/-- How signalling goes: the pidfile is read, and the process that it names is asked to end. -/
inductive Signalled (daemon : Daemon) : List (Exchange host) → Except Error Unit → Prop
  | unnamed {answer : Except IoFailure Bytes} {failure : Error}
      (none : pidOf answer = .error failure) :
      Signalled daemon [daemon.reading answer] (.error failure)
  | refused {answer : Except IoFailure Bytes} {pid : Int} {cause : IoFailure}
      (named : pidOf answer = .ok pid) :
      Signalled daemon [daemon.reading answer, ⟨Host.Request.terminate pid, .error cause⟩]
        (.error (.io cause))
  | ended {answer : Except IoFailure Bytes} {pid : Int} (named : pidOf answer = .ok pid) :
      Signalled daemon
        [daemon.reading answer, ⟨Host.Request.terminate pid, .ok ()⟩, farewell pid] (.ok ())

theorem signal_eq (daemon : Daemon) : daemon.signal =
    (Host.readText daemon.pidfile >>= fun text => liftM (readPid text)) >>= fun pid =>
      Host.fallible (Host.ask (.terminate pid)) >>= fun _ =>
        liftM (Host.info ("terminated lttng-sessiond [" ++ Number.signedDecimal pid ++ "]")) := by
  rw [bind_assoc]
  rfl

theorem course_named_iff {found : Except Error Int} :
    Course (Host.readText daemon.pidfile >>= fun text => liftM (readPid text)).outcome asked
        found ↔ ∃ answer, asked = [daemon.reading answer] ∧ found = pidOf answer := by
  rw [course_outcome_bind_lift_iff]
  simp only [Host.course_read_text_iff]
  constructor
  · rintro ⟨_, ⟨answer, rfl, rfl⟩, rfl⟩
    exact ⟨answer, rfl, rfl⟩
  · rintro ⟨answer, rfl, rfl⟩
    exact ⟨_, ⟨answer, rfl, rfl⟩, rfl⟩

/-- A process is asked to end, and that is told if it could be asked. -/
theorem course_ask_end_iff {pid : Int} {outcome : Except Error Unit} :
    Course (Host.fallible (Host.ask (.terminate pid)) >>= fun _ =>
        (liftM (Host.info ("terminated lttng-sessiond [" ++ Number.signedDecimal pid ++ "]")) :
          Attempt host Unit)).outcome asked outcome ↔
      (∃ cause, asked = [⟨Host.Request.terminate pid, .error cause⟩] ∧
        outcome = .error (.io cause)) ∨
      (asked = [⟨Host.Request.terminate pid, .ok ()⟩, farewell pid] ∧ outcome = .ok ()) := by
  refine course_request_bind_iff.trans ?_
  constructor
  · rintro ⟨reply, rest, told, rfl⟩
    cases reply with
    | error cause =>
        obtain ⟨rfl, rfl⟩ := course_done_iff.1 told
        exact .inl ⟨cause, rfl, rfl⟩
    | ok =>
        obtain ⟨_, others, done, rfl⟩ := course_request_bind_iff.1 told
        obtain ⟨rfl, rfl⟩ := course_done_iff.1 done
        exact .inr ⟨rfl, rfl⟩
  · rintro (⟨cause, rfl, rfl⟩ | ⟨rfl, rfl⟩)
    · exact ⟨.error cause, [], .done _, rfl⟩
    · exact ⟨.ok (), [farewell pid], course_request_bind_iff.2 ⟨(), [], .done _, rfl⟩, rfl⟩

theorem course_signal_iff {outcome : Except Error Unit} :
    Course daemon.signal.outcome asked outcome ↔ Signalled daemon asked outcome := by
  rw [signal_eq, course_outcome_bind_iff]
  constructor
  · rintro (⟨failure, reading, rfl⟩ | ⟨first, pid, rest, reading, asking, rfl⟩)
    · obtain ⟨answer, rfl, none⟩ := course_named_iff.1 reading
      exact .unnamed none.symm
    · obtain ⟨answer, rfl, named⟩ := course_named_iff.1 reading
      rcases course_ask_end_iff.1 asking with ⟨cause, rfl, rfl⟩ | ⟨rfl, rfl⟩
      · exact .refused named.symm
      · exact .ended named.symm
  · intro signalled
    cases signalled with
    | unnamed none => exact .inl ⟨_, course_named_iff.2 ⟨_, rfl, none.symm⟩, rfl⟩
    | refused named =>
        exact .inr ⟨_, _, _, course_named_iff.2 ⟨_, rfl, named.symm⟩,
          course_ask_end_iff.2 (.inl ⟨_, rfl, rfl⟩), rfl⟩
    | ended named =>
        exact .inr ⟨_, _, _, course_named_iff.2 ⟨_, rfl, named.symm⟩,
          course_ask_end_iff.2 (.inr ⟨rfl, rfl⟩), rfl⟩

/-- The pidfile is read first, and nothing else is done unless it names a process. -/
theorem signal_cases {outcome : Except Error Unit}
    (course : Course daemon.signal.outcome asked outcome) :
    (∃ answer, namedPid? answer = none ∧ asked = [daemon.reading answer]) ∨
    ∃ answer pid reply told, namedPid? answer = some pid ∧
      asked = daemon.reading answer :: ⟨Host.Request.terminate pid, reply⟩ :: told ∧
      ∀ exchange ∈ told, IsNews exchange.request := by
  cases course_signal_iff.1 course with
  | unnamed none => exact .inl ⟨_, by rw [named_pid_eq, none]; rfl, rfl⟩
  | refused named => exact .inr ⟨_, _, _, [], by rw [named_pid_eq, named]; rfl, rfl, by simp⟩
  | ended named =>
      refine .inr ⟨_, _, _, _, by rw [named_pid_eq, named]; rfl, rfl, ?_⟩
      exact List.forall_mem_singleton.2 trivial

theorem terminate_cases {outcome : Except Error Unit}
    (course : Course (daemon.terminate launched) asked (after, outcome)) :
    after = false ∧ ((launched = false ∧ asked = [] ∧ outcome = .ok ()) ∨
      (launched = true ∧ Course daemon.signal.outcome asked outcome)) := by
  rw [terminate] at course
  split at course
  · rename_i held
    obtain ⟨ended, signalled, same⟩ := course_bind_done_iff.1 course
    obtain ⟨rfl, rfl⟩ := Prod.mk.inj same
    exact ⟨rfl, .inr ⟨held, signalled⟩⟩
  · rename_i held
    obtain ⟨rfl, same⟩ := course_done_iff.1 course
    obtain ⟨rfl, rfl⟩ := Prod.mk.inj same
    exact ⟨rfl, .inl ⟨eq_false_of_ne_true held, rfl, rfl⟩⟩

/-- To release the daemon is to end it and at most to complain. -/
theorem release_cases (course : Course (daemon.release launched) asked after) :
    after = false ∧ ((launched = false ∧ asked = []) ∨
      (launched = true ∧ ∃ first outcome told, Course daemon.signal.outcome first outcome ∧
        (∀ exchange ∈ told, IsNews exchange.request) ∧ asked = first ++ told)) := by
  obtain ⟨first, ⟨left, ended⟩, rest, ending, warned, rfl⟩ := course_bind_iff.1 course
  obtain ⟨rfl, ⟨rfl, rfl, rfl⟩ | ⟨rfl, signalled⟩⟩ := terminate_cases ending
  · obtain ⟨rfl, rfl⟩ := course_done_iff.1 warned
    exact ⟨rfl, .inl ⟨rfl, rfl⟩⟩
  · cases ended with
    | ok =>
        obtain ⟨rfl, rfl⟩ := course_done_iff.1 warned
        exact ⟨rfl, .inr ⟨rfl, first, .ok (), [], signalled, by simp, rfl⟩⟩
    | error failure =>
        obtain ⟨_, others, done, rfl⟩ := course_request_bind_iff.1 warned
        obtain ⟨rfl, rfl⟩ := course_done_iff.1 done
        exact ⟨rfl, .inr ⟨rfl, first, .error failure, _, signalled, by simp [IsNews], rfl⟩⟩

end Daemon

end TraceOverhead
