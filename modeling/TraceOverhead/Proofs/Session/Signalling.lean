import Mathlib.Tactic.Tauto
import TraceOverhead.Proofs.Dialogue.Transcript
import TraceOverhead.Proofs.Session.Daemon
/-!
The daemon over any number of calls. Main statement: whatever the programs, the pidfile and the
system answer, a process is asked to end only for a launch that succeeded, at most once for each,
and whether there is such a launch left is remembered exactly.
-/

namespace TraceOverhead

open Dialogue

namespace Daemon

inductive Call where
  | isAlive
  | ensureRunning
  | terminate
  | drop
  deriving DecidableEq, Repr

/-- Whether a call is to end the daemon. -/
def Call.ends : Call → Bool
  | .terminate | .drop => true
  | .isAlive | .ensureRunning => false

/-- Answers a call. Whether the daemon is alive and what a drop comes to is not told. -/
def perform (daemon : Daemon) (launched : Bool) : Call → Dialogue host (Bool × Except Error Unit)
  | .isAlive => do
    discard daemon.isAlive
    pure (launched, .ok ())
  | .ensureRunning => daemon.ensureRunning launched
  | .terminate => daemon.terminate launched
  | .drop => do
    let launched ← daemon.release launched
    pure (launched, .ok ())

/-- A call, with what was asked for it and what was remembered before and after it. -/
structure Use where
  call : Call
  before : Bool
  asked : List (Exchange host)
  after : Bool
  outcome : Except Error Unit

/-- One call after the other, each with what the one before it left to remember. -/
inductive Usage (daemon : Daemon) : Bool → List Use → Bool → Prop
  | none (launched : Bool) : Usage daemon launched [] launched
  | next {use : Use} {uses : List Use} {last : Bool}
      (course : Course (daemon.perform use.before use.call) use.asked (use.after, use.outcome))
      (rest : Usage daemon use.after uses last) : Usage daemon use.before (use :: uses) last

def requests (uses : List Use) : List (Exchange host) := uses.flatMap Use.asked

section Deeds

variable {daemon : Daemon} {launched after : Bool} {asked : List (Exchange host)}

/-- What a call asks and what it leaves to remember. -/
inductive Deed (daemon : Daemon) : Call → Bool → List (Exchange host) → Bool → Prop
  | looked (launched : Bool) (answer : Except IoFailure Host.Output) :
      Deed daemon .isAlive launched [daemon.look answer] launched
  | found (launched : Bool) {answer} (alive : shown answer = true) :
      Deed daemon .ensureRunning launched [daemon.look answer] launched
  | launched (before : Bool) {answer given} (missing : shown answer = false)
      (well : Host.ranWell given = true) :
      Deed daemon .ensureRunning before
        [daemon.look answer, daemon.announcement, daemon.attempt given] true
  | failed (launched : Bool) {answer given} (missing : shown answer = false)
      (badly : Host.ranWell given = false) :
      Deed daemon .ensureRunning launched
        [daemon.look answer, daemon.announcement, daemon.attempt given] launched
  | idle {call : Call} (ends : call.ends = true) : Deed daemon call false [] false
  | unnamed {call : Call} {answer told} (ends : call.ends = true)
      (unnamed : namedPid? answer = none)
      (news : ∀ exchange ∈ told, IsNews exchange.request) :
      Deed daemon call true (daemon.reading answer :: told) false
  | signalled {call : Call} {answer pid reply told} (ends : call.ends = true)
      (named : namedPid? answer = some pid) (news : ∀ exchange ∈ told, IsNews exchange.request) :
      Deed daemon call true
        (daemon.reading answer :: ⟨Host.Request.terminate pid, reply⟩ :: told) false

theorem deed_of_signal {call : Call} {outcome : Except Error Unit} {told : List (Exchange host)}
    (ends : call.ends = true) (course : Course daemon.signal.outcome asked outcome)
    (news : ∀ exchange ∈ told, IsNews exchange.request) :
    Deed daemon call true (asked ++ told) false := by
  rcases signal_cases course with
    ⟨answer, named, rfl⟩ | ⟨answer, pid, reply, others, named, rfl, quiet⟩
  · exact .unnamed ends named news
  · exact .signalled ends named (List.forall_mem_append.2 ⟨quiet, news⟩)

theorem deed_of_course {call : Call} {outcome : Except Error Unit}
    (course : Course (daemon.perform launched call) asked (after, outcome)) :
    Deed daemon call launched asked after := by
  cases call with
  | isAlive =>
      obtain ⟨_, discarded, same⟩ := course_bind_done_iff.1 course
      obtain ⟨rfl, _⟩ := Prod.mk.inj same
      obtain ⟨alive, looked⟩ := course_discard_iff.1 discarded
      obtain ⟨answer, rfl, _⟩ := course_is_alive_iff.1 looked
      exact .looked after answer
  | ensureRunning =>
      rcases ensure_running_cases course with
        ⟨answer, alive, rfl, rfl⟩ | ⟨answer, given, missing, rfl, rfl⟩
      · exact .found after alive
      · cases well : Host.ranWell given with
        | true =>
            rw [Bool.or_true]
            exact .launched launched missing well
        | false =>
            rw [Bool.or_false]
            exact .failed launched missing well
  | terminate =>
      obtain ⟨rfl, ⟨rfl, rfl, _⟩ | ⟨rfl, signalled⟩⟩ := terminate_cases course
      · exact .idle rfl
      · rw [← List.append_nil asked]
        exact deed_of_signal rfl signalled (by simp)
  | drop =>
      obtain ⟨left, released, same⟩ := course_bind_done_iff.1 course
      obtain ⟨rfl, _⟩ := Prod.mk.inj same
      obtain ⟨rfl, ⟨rfl, rfl⟩ | ⟨rfl, first, ended, told, signalled, news, rfl⟩⟩ :=
        release_cases released
      · exact .idle rfl
      · exact deed_of_signal rfl signalled news

section Runs

variable {seen given answer : Except IoFailure Host.Output} {first rest : List (Exchange host)}
  {program : String} {arguments : List String}

theorem run_of_look (split : daemon.look seen :: asked =
      first ++ ⟨Host.Request.run program arguments, answer⟩ :: rest) :
    (program = daemon.client ∧ arguments = ["list"]) ∨
      ∃ others, first = daemon.look seen :: others ∧
        asked = others ++ ⟨Host.Request.run program arguments, answer⟩ :: rest := by
  rcases List.cons_eq_append_iff.1 split with ⟨rfl, same⟩ | ⟨others, rfl, same⟩
  · obtain ⟨head, _⟩ := List.cons.inj same
    exact .inl (Host.Request.run.inj (Exchange.mk.inj head).1)
  · exact .inr ⟨others, rfl, same⟩

theorem run_of_launch (split : [daemon.announcement, daemon.attempt given] =
      first ++ ⟨Host.Request.run program arguments, answer⟩ :: rest) :
    program = daemon.program ∧ arguments = daemon.launchArguments ∧
      first = [daemon.announcement] := by
  rcases List.cons_eq_append_iff.1 split with ⟨rfl, same⟩ | ⟨others, rfl, launching⟩
  · obtain ⟨head, _⟩ := List.cons.inj same
    cases (Exchange.mk.inj head).1
  · rcases List.cons_eq_append_iff.1 launching with ⟨rfl, same⟩ | ⟨others, rfl, nothing⟩
    · obtain ⟨head, _⟩ := List.cons.inj same
      obtain ⟨named, given⟩ := Host.Request.run.inj (Exchange.mk.inj head).1
      exact ⟨named, given, rfl⟩
    · simp at nothing

/-- What a call runs is the client, or the program if the client has shown no daemon. -/
theorem run_of_deed {call : Call} (deed : Deed daemon call launched asked after)
    (split : asked = first ++ ⟨Host.Request.run program arguments, answer⟩ :: rest) :
    (program = daemon.client ∧ arguments = ["list"]) ∨
      (program = daemon.program ∧ arguments = daemon.launchArguments ∧ call = .ensureRunning ∧
        ∃ query, Course daemon.isAlive query false ∧ first = query ++ [daemon.announcement]) := by
  have member : ⟨Host.Request.run program arguments, answer⟩ ∈ asked := by simp [split]
  cases deed with
  | looked | found =>
      rcases run_of_look split with client | ⟨others, _, nothing⟩
      · exact .inl client
      · simp at nothing
  | launched before missing | failed before missing =>
      rcases run_of_look split with client | ⟨others, rfl, launching⟩
      · exact .inl client
      · obtain ⟨named, given, rfl⟩ := run_of_launch launching
        exact .inr ⟨named, given, rfl, _, course_is_alive_iff.2 ⟨_, rfl, missing.symm⟩, rfl⟩
  | idle => simp at member
  | unnamed ends unnamed news =>
      rcases List.mem_cons.1 member with same | told
      · cases (Exchange.mk.inj same).1
      · exact absurd (news _ told) id
  | signalled ends named news =>
      rcases List.mem_cons.1 member with same | later
      · cases (Exchange.mk.inj same).1
      · rcases List.mem_cons.1 later with same | told
        · cases (Exchange.mk.inj same).1
        · exact absurd (news _ told) id

end Runs

/-- What a call to end the daemon asks is to read the pidfile, and what follows from that. -/
theorem reading_of_deed {call : Call} (deed : Deed daemon call launched asked after)
    (ends : call.ends = true) : after = false ∧ (launched = false → asked = []) ∧
      (launched = true → ∃ answer rest, asked = daemon.reading answer :: rest ∧
        signals rest = (namedPid? answer).toList ∧
        ∀ exchange ∈ rest, exchange.request ≠ .readFile daemon.pidfile) := by
  have unread : ∀ {told : List (Exchange host)}, (∀ exchange ∈ told, IsNews exchange.request) →
      ∀ exchange ∈ told, exchange.request ≠ .readFile daemon.pidfile := by
    intro told news exchange member read
    have heard := news exchange member
    rw [read] at heard
    exact heard
  cases deed with
  | looked | found | launched | failed => cases ends
  | idle => exact ⟨rfl, fun _ => rfl, by simp⟩
  | @unnamed _ answer told _ unnamed news =>
      refine ⟨rfl, by simp, fun _ => ⟨answer, told, rfl, ?_, unread news⟩⟩
      rw [signals_of_news news, unnamed]
      rfl
  | @signalled _ answer pid reply told _ named news =>
      refine ⟨rfl, by simp, fun _ => ⟨answer, _, rfl, ?_, ?_⟩⟩
      · rw [signals_terminate, signals_of_news news, named]
        rfl
      · exact List.forall_mem_cons.2 ⟨Host.Request.noConfusion, unread news⟩

theorem unread_of_deed {call : Call} (deed : Deed daemon call launched asked after)
    (goes : call.ends = false) : signals asked = [] ∧
      ∀ exchange ∈ asked, exchange.request ≠ .readFile daemon.pidfile := by
  cases deed with
  | looked | found => exact ⟨rfl, List.forall_mem_singleton.2 nofun⟩
  | launched | failed =>
      refine ⟨rfl, List.forall_mem_cons.2 ⟨nofun, List.forall_mem_cons.2 ⟨nofun, ?_⟩⟩⟩
      exact List.forall_mem_singleton.2 nofun
  | idle ends | unnamed ends | signalled ends => rw [ends] at goes; cases goes

/-- A launch that succeeded, as a test. -/
def isLaunch (daemon : Daemon) : Exchange host → Bool
  | ⟨Host.Request.run program arguments, answer⟩ =>
    program = daemon.program && arguments = daemon.launchArguments && Host.ranWell answer
  | _ => false

theorem is_launch_iff {exchange : Exchange host} :
    daemon.isLaunch exchange = true ↔ daemon.Launch exchange := by
  obtain ⟨request, answer⟩ := exchange
  cases request with
  | run program arguments => simp [isLaunch, Launch, and_assoc]
  | _ => simp [isLaunch, Launch]

/-- How many launches succeeded. -/
def launchCount (daemon : Daemon) (asked : List (Exchange host)) : Nat :=
  asked.countP daemon.isLaunch

theorem launch_count_append (first second : List (Exchange host)) :
    daemon.launchCount (first ++ second) = daemon.launchCount first + daemon.launchCount second :=
  List.countP_append

theorem launch_count_attempt {answer given : Except IoFailure Host.Output}
    (well : Host.ranWell given = true) : daemon.launchCount
      [daemon.look answer, daemon.announcement, daemon.attempt given] = 1 := by
  have launch : daemon.isLaunch (daemon.attempt given) = true :=
    is_launch_iff.2 (launch_attempt_iff.2 well)
  have unlaunched : daemon.isLaunch (daemon.look answer) = false :=
    eq_false_of_ne_true (mt is_launch_iff.1 not_launch_look)
  have untold : daemon.isLaunch daemon.announcement = false := rfl
  simp [launchCount, launch, unlaunched, untold]

/-- A call may send a signal only if a launch is remembered, which is then forgotten. -/
theorem credit_of_deed {call : Call} (deed : Deed daemon call launched asked after) :
    (signals asked).length + after.toNat ≤ daemon.launchCount asked + launched.toNat ∧
      (signals asked).length ≤ launched.toNat := by
  cases deed with
  | looked | found | failed => simp
  | launched before missing well =>
      rw [launch_count_attempt well]
      simp
  | idle => simp
  | unnamed ends unnamed news => simp [signals_of_news news]
  | signalled ends named news => simp [signals_of_news news]

/-- What is remembered after a call. -/
theorem after_of_deed {call : Call} (deed : Deed daemon call launched asked after) :
    after = true ↔ daemon.Launches asked ∨ (launched = true ∧ call.ends = false) := by
  have unlaunched : ∀ {told : List (Exchange host)}, (∀ exchange ∈ told, IsNews exchange.request) →
      ¬ daemon.Launches told := by
    rintro told news ⟨⟨request, answer⟩, member, launch⟩
    have heard := news _ member
    cases request with
    | log => exact launch
    | _ => exact heard
  cases deed with
  | looked => simp [Call.ends]
  | found => simp [Call.ends]
  | launched before missing well => simp [well]
  | failed launched missing badly => simp [badly, Call.ends]
  | idle => simp
  | unnamed ends unnamed news => simp [ends, unlaunched news, Launch, reading]
  | signalled ends named news => simp [ends, unlaunched news, Launch, reading]

end Deeds

section Lives

variable {daemon : Daemon} {before last : Bool} {uses : List Use}

/-- A launch has succeeded, and the daemon was not ended since. -/
def Started (daemon : Daemon) (uses : List Use) : Prop :=
  ∃ earlier use later, uses = earlier ++ use :: later ∧ daemon.Launches use.asked ∧
    ∀ other ∈ later, other.call.ends = false

theorem started_cons_iff {use : Use} :
    daemon.Started (use :: uses) ↔
      daemon.Started uses ∨
        (daemon.Launches use.asked ∧ ∀ other ∈ uses, other.call.ends = false) := by
  constructor
  · rintro ⟨earlier, launching, later, split, launch, held⟩
    cases earlier with
    | nil =>
        obtain ⟨rfl, rfl⟩ := List.cons.inj split
        exact .inr ⟨launch, held⟩
    | cons first others =>
        obtain ⟨rfl, rfl⟩ := List.cons.inj split
        exact .inl ⟨others, launching, later, rfl, launch, held⟩
  · rintro (⟨earlier, launching, later, rfl, launch, held⟩ | ⟨launch, held⟩)
    · exact ⟨use :: earlier, launching, later, rfl, launch, held⟩
    · exact ⟨[], use, uses, rfl, launch, held⟩

/-- What is remembered over any number of calls. -/
theorem remembered_of_usage (usage : Usage daemon before uses last) :
    last = true ↔ daemon.Started uses ∨ (before = true ∧ ∀ use ∈ uses, use.call.ends = false) := by
  induction usage with
  | none launched => simp [Started]
  | @next use uses last course rest induction =>
      rw [induction, after_of_deed (deed_of_course course), started_cons_iff, List.forall_mem_cons]
      tauto

/-- At no moment have more signals been sent than launches succeeded, counting the one that is
remembered from before. -/
theorem signals_le_launches (usage : Usage daemon before uses last)
    {first rest : List (Exchange host)} (moment : requests uses = first ++ rest) :
    (signals first).length ≤ daemon.launchCount first + before.toNat := by
  induction usage generalizing first with
  | none launched =>
      have nothing : first = [] := (List.append_eq_nil_iff.1 moment.symm).1
      simp [nothing]
  | @next use uses last course others induction =>
      have credit := credit_of_deed (deed_of_course course)
      -- The moment is after this call or within it.
      rcases List.append_eq_append_iff.1 moment with ⟨more, rfl, later⟩ | ⟨more, within, _⟩
      · have further := induction later
        rw [signals_append, List.length_append, launch_count_append]
        omega
      · have fewer : (signals first).length ≤ (signals use.asked).length := by
          rw [within, signals_append, List.length_append]
          omega
        omega

theorem usage_append_iff {first second : List Use} :
    Usage daemon before (first ++ second) last ↔
      ∃ middle, Usage daemon before first middle ∧ Usage daemon middle second last := by
  induction first generalizing before with
  | nil =>
      constructor
      · exact fun usage => ⟨before, .none before, usage⟩
      · rintro ⟨middle, nothing, usage⟩
        cases nothing
        exact usage
  | cons use others induction =>
      constructor
      · intro usage
        cases usage with
        | next course rest =>
            obtain ⟨middle, reached, usage⟩ := induction.1 rest
            exact ⟨middle, .next course reached, usage⟩
      · rintro ⟨middle, reached, usage⟩
        cases reached with
        | next course rest => exact .next course (induction.2 ⟨middle, rest, usage⟩)

theorem deed_of_mem (usage : Usage daemon before uses last) :
    ∀ use ∈ uses, Deed daemon use.call use.before use.asked use.after := by
  induction usage with
  | none => simp
  | next course rest induction => exact List.forall_mem_cons.2 ⟨deed_of_course course, induction⟩

/-- What was remembered when a call began, and when it was over. -/
theorem remembered_of_split {earlier later : List Use} {use : Use}
    (usage : Usage daemon false (earlier ++ use :: later) last) :
    (use.before = true ↔ daemon.Started earlier) ∧
      (use.after = true ↔ daemon.Started (earlier ++ [use])) := by
  obtain ⟨middle, reached, continued⟩ := usage_append_iff.1 usage
  cases continued with
  | next course rest =>
      have through : Usage daemon false (earlier ++ [use]) use.after :=
        usage_append_iff.2 ⟨use.before, reached, .next course (.none use.after)⟩
      constructor
      · simpa using remembered_of_usage reached
      · simpa using remembered_of_usage through

theorem not_launches_of_deed {use : Use}
    (deed : Deed daemon use.call use.before use.asked use.after)
    (found : use.call = .ensureRunning →
      ∃ query rest, Course daemon.isAlive query true ∧ use.asked = query ++ rest) :
    ¬ daemon.Launches use.asked := by
  obtain ⟨call, before, asked, after, outcome⟩ := use
  intro launches
  have kept := after_of_deed deed
  cases deed with
  | launched before missing well =>
      obtain ⟨query, rest, alive, same⟩ := found rfl
      obtain ⟨answer, rfl, showing⟩ := course_is_alive_iff.1 alive
      obtain rfl : _ = answer := eq_of_heq (Exchange.mk.inj (List.cons.inj same).1).2
      rw [missing] at showing
      exact Bool.noConfusion showing
  | looked | found | idle => simp at launches
  | failed launched missing badly => simp [badly] at launches
  | unnamed | signalled => simp [launches] at kept

end Lives

/-- Only what was launched is ended, and once. -/
structure Guarded (daemon : Daemon) (uses : List Use) : Prop where
  /-- The program is run only after the client has shown that there is no daemon. -/
  executed : ∀ use ∈ uses, ∀ first program arguments answer rest,
    use.asked = first ++ ⟨Host.Request.run program arguments, answer⟩ :: rest →
      (program = daemon.client ∧ arguments = ["list"]) ∨
      (program = daemon.program ∧ arguments = daemon.launchArguments ∧
        use.call = .ensureRunning ∧
        ∃ query, Course daemon.isAlive query false ∧ first = query ++ [daemon.announcement])
  remembered : ∀ earlier use later, uses = earlier ++ use :: later →
    (use.before = true ↔ daemon.Started earlier) ∧
      (use.after = true ↔ daemon.Started (earlier ++ [use]))
  /-- The pidfile is read if a launch is remembered, which is forgotten however that ends. -/
  ended : ∀ use ∈ uses, use.call.ends = true → use.after = false ∧
    (use.before = false → use.asked = []) ∧
    (use.before = true → ∃ answer rest, use.asked = daemon.reading answer :: rest ∧
      signals rest = (namedPid? answer).toList ∧
      ∀ exchange ∈ rest, exchange.request ≠ .readFile daemon.pidfile)
  spared : ∀ use ∈ uses, use.call.ends = false → signals use.asked = [] ∧
    ∀ exchange ∈ use.asked, exchange.request ≠ .readFile daemon.pidfile
  unlaunched : ∀ use ∈ uses, use.call = .ensureRunning → ¬ daemon.Launches use.asked →
    use.after = use.before
  balanced : ∀ first rest, requests uses = first ++ rest →
    (signals first).length ≤ daemon.launchCount first
  unsent : (∀ use ∈ uses, use.call = .ensureRunning →
      ∃ query rest, Course daemon.isAlive query true ∧ use.asked = query ++ rest) →
    signals (requests uses) = []

/-- Whatever the programs, the pidfile and the system answer, and in whatever order a daemon is
asked for its life, wanted, ended and dropped, it is ended only if it was launched. -/
theorem only_launched_signalled {daemon : Daemon} {uses : List Use} {last : Bool}
    (usage : Usage daemon false uses last) : daemon.Guarded uses := by
  have deeds := deed_of_mem usage
  have balanced : ∀ first rest, requests uses = first ++ rest →
      (signals first).length ≤ daemon.launchCount first :=
    fun first rest moment => signals_le_launches usage moment
  refine ⟨?executed, ?remembered, ?ended, ?spared, ?unlaunched, balanced, ?unsent⟩
  case executed =>
    intro use member first program arguments answer rest split
    exact run_of_deed (deeds use member) split
  case remembered =>
    rintro earlier use later rfl
    exact remembered_of_split usage
  case ended => exact fun use member ends => reading_of_deed (deeds use member) ends
  case spared => exact fun use member goes => unread_of_deed (deeds use member) goes
  case unlaunched =>
    intro use member ensuring unlaunched
    have kept := after_of_deed (deeds use member)
    simpa [ensuring, Call.ends, unlaunched] using kept
  case unsent =>
    intro found
    have unlaunched : daemon.launchCount (requests uses) = 0 := by
      apply List.countP_eq_zero.2
      intro exchange asked launch
      obtain ⟨use, member, within⟩ := List.mem_flatMap.1 asked
      have launches : daemon.Launches use.asked := ⟨exchange, within, is_launch_iff.1 launch⟩
      exact not_launches_of_deed (deeds use member) (found use member) launches
    have none := balanced (requests uses) [] (List.append_nil _).symm
    exact List.length_eq_zero_iff.1 (by omega)

/-- A machine on which it is laid down how programs end, and on which every file holds `42`. -/
def attend : (request : Host.Request) → List (Except IoFailure Host.Output) →
    Host.Answer request × List (Except IoFailure Host.Output)
  | .run .., outcome :: outcomes => (outcome, outcomes)
  | request, outcomes => (Host.serve [] [0x34, 0x32] request, outcomes)

def smallDaemon : Daemon := ⟨"lttng", "lttng-sessiond", "daemon.pid"⟩

def smallUse (launched : Bool) (call : Call)
    (outcomes : List (Except IoFailure Host.Output)) : Use :=
  let reached := transcript attend outcomes (smallDaemon.perform launched call)
  ⟨call, launched, reached.1, reached.2.1, reached.2.2⟩

theorem usage_small_use {launched last : Bool} {call : Call} {uses : List Use}
    {outcomes : List (Except IoFailure Host.Output)}
    (rest : Usage smallDaemon (smallUse launched call outcomes).after uses last) :
    Usage smallDaemon launched (smallUse launched call outcomes :: uses) last := by
  have course := course_transcript attend outcomes (smallDaemon.perform launched call)
  exact @Usage.next smallDaemon (smallUse launched call outcomes) uses last course rest

/-- A daemon that could not be launched at first, was then launched, and ended before the drop. -/
def smallLife : List Use :=
  [smallUse false .ensureRunning [.error .notFound, .error .notFound],
    smallUse false .ensureRunning [.error .notFound, .ok ⟨.exited 0, [], []⟩],
    smallUse true .isAlive [.ok ⟨.exited 0, [], []⟩],
    smallUse true .terminate [],
    smallUse false .drop []]

theorem launched_signalled_once :
    Usage smallDaemon false smallLife false ∧ smallDaemon.Guarded smallLife ∧
      smallDaemon.launchCount (requests smallLife) = 1 ∧ signals (requests smallLife) = [42] := by
  have usage : Usage smallDaemon false smallLife false :=
    usage_small_use <| usage_small_use <| usage_small_use <| usage_small_use <| usage_small_use <|
      .none false
  exact ⟨usage, only_launched_signalled usage, by decide +kernel, by decide +kernel⟩

end Daemon
end TraceOverhead
