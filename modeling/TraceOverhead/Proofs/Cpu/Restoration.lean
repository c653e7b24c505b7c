import TraceOverhead.Proofs.Cpu.Sparing
import TraceOverhead.Proofs.Cpu.Switching
import TraceOverhead.Proofs.Dialogue.Transcript
/-!
A sweep puts the machine back. However it ends, and whatever could or could not be switched on the
way, the CPUs that are online afterwards are those it found, if only the reads and writes of the
last step, which brings them back, succeed.
-/

namespace TraceOverhead

open Dialogue Hotplug

namespace Campaign

/-- The parts of a sweep, by whether and how far it was guarded. Last come the exchanges in which
the guard brings back what it saved. -/
inductive SweepParts (campaign : Campaign) (root : String) (before : CampaignState) :
    List (Exchange instruments) → Except Error Results → CampaignState → List (Exchange host) → Prop
  | unguarded {exchanges : List (Exchange instruments)} {outcome : Except Error Results}
      {after : CampaignState} (disabled : campaign.config.cpuSweep = false)
      (run : Run (campaign.sweep root) before exchanges outcome after) :
      SweepParts campaign root before exchanges outcome after []
  | unread {reading : List (Exchange host)} {failure : Error}
      (enabled : campaign.config.cpuSweep = true)
      (read : Course (online root).outcome reading (.error failure)) :
      SweepParts campaign root before (reading.map Exchange.onHost) (.error failure) before []
  | guarded {reading restoring : List (Exchange host)} {lowering : List (Exchange instruments)}
      {saved : CpuSet} {outcome : Except Error Results} {after : CampaignState}
      (enabled : campaign.config.cpuSweep = true)
      (read : Course (online root).outcome reading (.ok saved))
      (lowered : Run (campaign.sweepDown root saved.size Results.empty) before lowering outcome
        after)
      (restored : Course (restore root saved) restoring ()) :
      SweepParts campaign root before
        (reading.map Exchange.onHost ++ (lowering ++ restoring.map Exchange.onHost)) outcome after
        restoring

variable {campaign : Campaign} {root : String} {before after : CampaignState}
  {exchanges : List (Exchange instruments)} {outcome : Except Error Results}

theorem sweep_eq_of_enabled (enabled : campaign.config.cpuSweep = true) :
    campaign.sweep root = attempt (online root) >>= fun saved =>
      caught (campaign.sweepDown root saved.size Results.empty) >>= fun outcome =>
        onHost (restore root saved) >>= fun _ => liftM outcome := by
  rw [sweep, if_pos enabled]

theorem sweep_parts_of_run (run : Run (campaign.sweep root) before exchanges outcome after) :
    ∃ restoring, SweepParts campaign root before exchanges outcome after restoring := by
  cases enabled : campaign.config.cpuSweep with
  | false => exact ⟨[], .unguarded enabled run⟩
  | true =>
      rw [sweep_eq_of_enabled enabled] at run
      rcases run_bind_iff.1 run with
        ⟨failure, unread, rfl⟩ | ⟨first, saved, middle, rest, entered, guarded, rfl⟩
      · obtain ⟨course, rfl⟩ := run_attempt_iff.1 unread
        obtain ⟨reading, read, rfl⟩ := course_on_host_iff.1 course
        exact ⟨[], .unread enabled read⟩
      · obtain ⟨asked, rfl⟩ := run_attempt_iff.1 entered
        obtain ⟨reading, read, rfl⟩ := course_on_host_iff.1 asked
        obtain ⟨lowering, reached, final, rest, lowered, restored, rfl⟩ :=
          run_caught_bind_iff.1 guarded
        obtain ⟨restoring, _, rest, course, ended, rfl⟩ := run_on_host_bind_iff.1 restored
        obtain ⟨rfl, rfl, rfl⟩ := run_lift_iff.1 ended
        rw [List.append_nil]
        exact ⟨restoring, .guarded enabled read lowered course⟩

theorem run_of_sweep_parts {restoring : List (Exchange host)}
    (parts : SweepParts campaign root before exchanges outcome after restoring) :
    Run (campaign.sweep root) before exchanges outcome after := by
  cases parts with
  | unguarded disabled run => exact run
  | unread enabled read =>
      rw [sweep_eq_of_enabled enabled]
      exact run_bind_iff.2 (.inl ⟨_, run_attempt_iff.2
        ⟨course_on_host_iff.2 ⟨_, read, rfl⟩, rfl⟩, rfl⟩)
  | guarded enabled read lowered restored =>
      rw [sweep_eq_of_enabled enabled]
      have ended : Run (onHost (restore root _) >>= fun _ => liftM outcome) after _ outcome after :=
        run_on_host_bind_iff.2 ⟨_, (), [], restored, run_lift_iff.2 ⟨rfl, rfl, rfl⟩, rfl⟩
      rw [List.append_nil] at ended
      have found : Run (attempt (online root)) before _ (.ok _) before :=
        run_attempt_iff.2 ⟨course_on_host_iff.2 ⟨_, read, rfl⟩, rfl⟩
      refine run_bind_iff.2 (.inr ⟨_, _, before, _, found, ?_, rfl⟩)
      exact run_caught_bind_iff.2 ⟨_, outcome, after, _, lowered, ended, rfl⟩

theorem current_count_counts (root : String) :
    Abides (Footprint WritesCountAll) (currentCount root) := by
  have rules := footprint_composable WritesCountAll
  have counted : Asks WritesCount (onlineCount root).outcome :=
    Attempt.asks_bind (Attempt.asks_bind (Host.asks_read_text trivial) fun _ => trivial)
      fun _ => trivial
  apply abides_bind rules (abides_caught (footprint_attempt counted))
  intro outcome
  cases outcome with
  | ok count => exact abides_pure rules _
  | error failure =>
      apply abides_bind rules
      · exact footprint_dialogue ⟨trivial, fun _ => trivial⟩
      · intro _
        exact footprint_dialogue ⟨trivial, fun _ => trivial⟩

theorem unguarded_counts (disabled : campaign.config.cpuSweep = false) :
    Abides (Footprint WritesCountAll) (campaign.sweep root) := by
  have rules := footprint_composable WritesCountAll
  rw [sweep, if_neg (by simp [disabled])]
  apply abides_bind rules (current_count_counts root)
  intro count
  apply abides_bind rules (abides_run_suite (counts_suite campaign))
  intro passes
  exact abides_pure rules _

theorem unguarded_spares (disabled : campaign.config.cpuSweep = false) :
    Abides (SparesLaw root) (campaign.sweep root) := by
  intro before exchanges outcome after run
  exact spares_of_counts (unguarded_counts disabled _ _ _ _ run)

theorem only_online_of_saved {saved : CpuSet} {start middle : CpuStates}
    (members : ∀ cpu, cpu ∈ saved ↔ start cpu = some true)
    (kept : ∀ cpu, (middle cpu).isSome = (start cpu).isSome) :
    onlyOnline saved middle = start := by
  funext cpu
  have known := kept cpu
  have chosen : saved.contains cpu = decide (start cpu = some true) := by
    rw [Bool.eq_iff_iff, Std.TreeSet.contains_iff_mem, members, decide_eq_true_iff]
  rw [onlyOnline, chosen]
  cases found : start cpu with
  | none =>
      rw [found, Option.isSome_none, Option.isSome_eq_false_iff, Option.isNone_iff_eq_none] at known
      rw [known]
      rfl
  | some online =>
      rw [found] at known
      obtain ⟨state, same⟩ := Option.isSome_iff_exists.1 known
      rw [same]
      cases online <;> rfl

/-- Whatever happened on the way, the CPUs are as the sweep found them if nothing failed when the
guard brought them back. -/
theorem cpus_restored_of_sweep (campaign : Campaign) (root : String) {before after : CampaignState}
    {exchanges : List (Exchange instruments)} {outcome : Except Error Results}
    (run : Run (campaign.sweep root) before exchanges outcome after) {start finish : CpuStates}
    (machine : CpuRun root start (hostExchanges exchanges) finish) :
    (∃ restoring, SweepParts campaign root before exchanges outcome after restoring) ∧
      ∀ restoring, SweepParts campaign root before exchanges outcome after restoring →
        (∀ exchange ∈ restoring, Succeeded exchange) → finish = start := by
  refine ⟨sweep_parts_of_run run, ?_⟩
  intro restoring parts succeeded
  cases parts with
  | unguarded disabled run =>
      exact cpus_unchanged_of_spares (unguarded_spares disabled _ _ _ _ run) machine
  | unread enabled read =>
      rw [host_exchanges_map_on_host] at machine
      exact (read_online read machine).1
  | guarded enabled read lowered restored =>
      rw [host_exchanges_append, host_exchanges_append, host_exchanges_map_on_host,
        host_exchanges_map_on_host] at machine
      obtain ⟨found, reading, rest⟩ := cpu_run_append_iff.1 machine
      obtain ⟨middle, lowering, restoring⟩ := cpu_run_append_iff.1 rest
      obtain ⟨rfl, saved, _⟩ := read_online read reading
      rw [restore_done restored restoring succeeded]
      exact only_online_of_saved (saved _ rfl) (is_some_of_cpu_run lowering)

def twoCpus : CpuStates := fun cpu => if cpu < 2 then some true else none

def oneCpu : CpuStates := withStates false [1] twoCpus

/-- A sweep without benchmarks. -/
def idleCampaign : Campaign :=
  { runner := "runner"
    workspace := ⟨"scratch", "bench"⟩
    suite := []
    config := Config.ofProfile .quick
    hasReader := false
    kernel := none }

def idleExchanges : List (Exchange host) :=
  [⟨Host.Request.readFile (Path.join "cpu" "online"), .ok [0x30, 0x2d, 0x31, 0x0a]⟩,
    ⟨Host.Request.readFile (Path.join "cpu" "online"), .ok [0x30, 0x2d, 0x31, 0x0a]⟩,
    ⟨Host.Request.readFile (Path.join "cpu" "offline"), .ok [0x0a]⟩,
    ⟨Host.Request.readFile (Path.join "cpu" "online"), .ok [0x30, 0x2d, 0x31, 0x0a]⟩,
    ⟨Host.Request.readFile (Path.join "cpu" "offline"), .ok [0x0a]⟩,
    ⟨Host.Request.writeFile (switchPath "cpu" 1) (Text.toBytes "0"), .ok ()⟩,
    ⟨Host.Request.readFile (Path.join "cpu" "online"), .ok [0x30, 0x0a]⟩,
    ⟨Host.Request.log .info "1 CPUs online", ()⟩,
    ⟨Host.Request.readFile (Path.join "cpu" "online"), .ok [0x30, 0x0a]⟩,
    ⟨Host.Request.readFile (Path.join "cpu" "offline"), .ok [0x31, 0x0a]⟩,
    ⟨Host.Request.writeFile (switchPath "cpu" 1) (Text.toBytes "1"), .ok ()⟩]

theorem cpu_run_idle : CpuRun "cpu" twoCpus idleExchanges (withStates true [1] oneCpu) := by
  have bothOnline : Lists twoCpus true [0x30, 0x2d, 0x31, 0x0a] := by
    apply lists_of_parse "0-1\n" [0, 1] rfl rfl
    intro cpu
    simp [twoCpus]
    omega
  have noneOffline : Lists twoCpus false [0x0a] := by
    apply lists_of_parse "\n" [] rfl rfl
    intro cpu
    simp [twoCpus]
  have oneOnline : Lists oneCpu true [0x30, 0x0a] := by
    apply lists_of_parse "0\n" [0] rfl rfl
    intro cpu
    by_cases switched : cpu = 1
    · simp [oneCpu, withStates, twoCpus, switched]
    · simp [oneCpu, withStates, twoCpus, switched]
      omega
  have oneOffline : Lists oneCpu false [0x31, 0x0a] := by
    apply lists_of_parse "1\n" [1] rfl rfl
    intro cpu
    by_cases switched : cpu = 1 <;> simp [oneCpu, withStates, twoCpus, switched]
  refine .step (truthful_online bothOnline) ?_
  refine .step (truthful_online bothOnline) ?_
  refine .step (truthful_offline noneOffline) ?_
  refine .step (truthful_online bothOnline) ?_
  refine .step (truthful_offline noneOffline) ?_
  refine cpu_run_switch false 1 ?_
  refine .step (truthful_online oneOnline) ?_
  refine .step trivial ?_
  refine .step (truthful_online oneOnline) ?_
  refine .step (truthful_offline oneOffline) ?_
  refine cpu_run_switch true 1 ?_
  exact .stay _

/-- Of two CPUs one is switched off for the second count and on again at the end. -/
theorem cpus_restored_of_idle_sweep :
    ∃ exchanges outcome after finish restoring,
      Run (idleCampaign.sweep "cpu") .initial exchanges outcome after ∧
      CpuRun "cpu" twoCpus (hostExchanges exchanges) finish ∧
      SweepParts idleCampaign "cpu" .initial exchanges outcome after restoring ∧
      (∀ exchange ∈ restoring, Succeeded exchange) ∧ finish = twoCpus := by
  have read : Course (online "cpu").outcome _ (.ok ((∅ : CpuSet).insertMany [0, 1])) :=
    course_transcript Host.recite [[0x30, 0x2d, 0x31, 0x0a]] (online "cpu").outcome
  have lowered := course_transcript Instruments.recite
    [[0x30, 0x2d, 0x31, 0x0a], [0x0a], [0x30, 0x2d, 0x31, 0x0a], [0x0a], [0x30, 0x0a]]
    ((idleCampaign.sweepDown "cpu" 2 Results.empty).run.run .initial)
  have restored := course_transcript Host.recite [[0x30, 0x0a], [0x31, 0x0a]]
    (restore "cpu" ((∅ : CpuSet).insertMany [0, 1]))
  have parts : SweepParts idleCampaign "cpu" .initial _ _ _ _ := .guarded rfl read lowered restored
  have run := run_of_sweep_parts parts
  have succeeded : ∀ exchange ∈ (transcript Host.recite [[0x30, 0x0a], [0x31, 0x0a]]
      (restore "cpu" ((∅ : CpuSet).insertMany [0, 1]))).1, Succeeded exchange := by
    intro exchange member
    have listed : exchange ∈ idleExchanges.drop 8 := member
    simp only [idleExchanges, List.drop_succ_cons, List.drop_zero, List.mem_cons,
      List.not_mem_nil, or_false] at listed
    rcases listed with rfl | rfl | rfl <;> trivial
  refine ⟨_, _, _, _, _, run, cpu_run_idle, parts, succeeded, ?_⟩
  exact (cpus_restored_of_sweep idleCampaign "cpu" run cpu_run_idle).2 _ parts succeeded

end Campaign

end TraceOverhead
