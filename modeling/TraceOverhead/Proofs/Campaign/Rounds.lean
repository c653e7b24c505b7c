import TraceOverhead.Proofs.Campaign.Passes
import TraceOverhead.Proofs.Cpu.Counting
import TraceOverhead.Proofs.Cpu.Restoration
import TraceOverhead.Proofs.Report.Shape
/-!
Sweeps as rounds. A round sets a number of CPUs and runs the suite; the rounds of a sweep go down
from the number of CPUs it found, one by one, until there are none left, a number cannot be set or a
suite fails. Main statements: every run of a sweep has this form, and what it has recorded by then
is what its rounds measured.
-/

namespace TraceOverhead

open Dialogue Hotplug

/-- One number of CPUs in a sweep: how it was set, the suite that was run then, and its passes. -/
structure Round where
  count : Nat
  setting : List (Exchange host)
  suite : List (Exchange instruments)
  passes : List Pass

def Round.exchanges (round : Round) : List (Exchange instruments) :=
  round.setting.map Exchange.onHost ++ round.suite

def Round.key (round : Round) : String := cpuKey round.count

theorem map_key_eq (rounds : List Round) :
    rounds.map Round.key = (rounds.map Round.count).map cpuKey := by
  rw [List.map_map]
  rfl

namespace Results

def recordAll (results : Results) (rounds : List Round) : Results :=
  rounds.foldl (fun results round => results.record round.key round.passes) results

/-- The passes are filed under the key, together with their averages. -/
structure Files (results : Results) (key : String) (passes : List Pass) : Prop where
  data : results.data[key]? = some passes
  average : results.average[key]? = some (averagePasses passes)

theorem files_record (results : Results) (key : String) (passes : List Pass) :
    (results.record key passes).Files key passes :=
  ⟨Std.TreeMap.getElem?_insert_self, Std.TreeMap.getElem?_insert_self⟩

theorem get_record_of_ne (results : Results) {key other : String} (passes : List Pass)
    (apart : key ≠ other) :
    (results.record key passes).data[other]? = results.data[other]? ∧
      (results.record key passes).average[other]? = results.average[other]? := by
  have unequal : compare key other ≠ .eq := fun same =>
    apart (Std.LawfulEqOrd.eq_of_compare same)
  constructor
  · exact Std.TreeMap.getElem?_insert.trans (if_neg unequal)
  · exact Std.TreeMap.getElem?_insert.trans (if_neg unequal)

theorem get_record_all_of_not_mem (results : Results) {rounds : List Round} {key : String}
    (absent : key ∉ rounds.map Round.key) :
    (results.recordAll rounds).data[key]? = results.data[key]? ∧
      (results.recordAll rounds).average[key]? = results.average[key]? := by
  induction rounds generalizing results with
  | nil => exact ⟨rfl, rfl⟩
  | cons round rounds induction =>
      rw [List.map_cons, List.mem_cons, not_or] at absent
      have later := induction (results.record round.key round.passes) absent.2
      have here := get_record_of_ne results round.passes (Ne.symm absent.1)
      exact ⟨later.1.trans here.1, later.2.trans here.2⟩

/-- Rounds with keys of their own do not overwrite each other. -/
theorem files_of_mem (results : Results) {rounds : List Round}
    (distinct : (rounds.map Round.key).Nodup) {round : Round} (member : round ∈ rounds) :
    (results.recordAll rounds).Files round.key round.passes := by
  induction rounds generalizing results with
  | nil => contradiction
  | cons first rounds induction =>
      obtain ⟨fresh, others⟩ := List.nodup_cons.1 distinct
      rcases List.mem_cons.1 member with same | later
      · subst same
        have kept := get_record_all_of_not_mem (results.record round.key round.passes) fresh
        have filed := files_record results round.key round.passes
        exact ⟨kept.1.trans filed.data, kept.2.trans filed.average⟩
      · exact induction _ others later

end Results

namespace Campaign

/-- How the number of CPUs was found for a sweep of that number alone. -/
inductive Counted (root : String) : List (Exchange host) → Nat → Prop
  | read {answer : Except IoFailure Bytes} {cpus : CpuSet} (listing : listed answer = .ok cpus) :
      Counted root [⟨Host.Request.readFile (Path.join root "online"), answer⟩] cpus.size
  | unread {answer : Except IoFailure Bytes} {failure : Error}
      (listing : listed answer = .error failure) (threads : Nat) :
      Counted root
        [⟨Host.Request.readFile (Path.join root "online"), answer⟩,
          ⟨Host.Request.log .warn ("cannot read online CPUs (" ++ failure.message ++
            "), using available parallelism"), ()⟩,
          ⟨Host.Request.parallelism, threads⟩] threads

/-- Rounds from one number of CPUs down to another, which is not measured any more. -/
inductive Rounds (campaign : Campaign) (root : String) :
    Nat → CampaignState → List Round → Nat → CampaignState → Prop
  | none (count : Nat) (state : CampaignState) : Rounds campaign root count state [] count state
  | round {count last : Nat} {before middle after : CampaignState} {setting : List (Exchange host)}
      {suite : List (Exchange instruments)} {passes : List Pass} {rounds : List Round}
      (set : Course (setCount root (count + 1)).outcome setting (.ok ()))
      (run : Run campaign.runSuite before suite (.ok passes) middle)
      (rest : Rounds campaign root count middle rounds last after) :
      Rounds campaign root (count + 1) before (⟨count + 1, setting, suite, passes⟩ :: rounds) last
        after

def countSkipped (count : Nat) (failure : Error) : Exchange host :=
  ⟨Host.Request.log .warn ("failed to set CPU count to " ++ Number.decimal count ++
    ", skipping: " ++ failure.message), ()⟩

/-- What becomes of a sweep after its rounds. -/
inductive RoundsEnd (campaign : Campaign) (root : String) (results : Results) :
    Nat → CampaignState → List (Exchange instruments) → Except Error Results → CampaignState → Prop
  | finished (state : CampaignState) : RoundsEnd campaign root results 0 state [] (.ok results) state
  | refused {count : Nat} (state : CampaignState) {setting : List (Exchange host)} {failure : Error}
      (set : Course (setCount root (count + 1)).outcome setting (.error failure)) :
      RoundsEnd campaign root results (count + 1) state
        ((setting ++ [countSkipped (count + 1) failure]).map Exchange.onHost) (.ok results) state
  | broken {count : Nat} {before after : CampaignState} {setting : List (Exchange host)}
      {suite : List (Exchange instruments)} {failure : Error}
      (set : Course (setCount root (count + 1)).outcome setting (.ok ()))
      (run : Run campaign.runSuite before suite (.error failure) after) :
      RoundsEnd campaign root results (count + 1) before
        (setting.map Exchange.onHost ++ suite) (.error failure) after

variable {campaign : Campaign} {root : String} {before after : CampaignState}
  {exchanges : List (Exchange instruments)}

theorem counted_of_run {outcome : Except Error Nat}
    (run : Run (currentCount root) before exchanges outcome after) :
    ∃ asked count, Counted root asked count ∧ exchanges = asked.map Exchange.onHost ∧
      outcome = .ok count ∧ after = before := by
  obtain ⟨first, reached, middle, later, tried, continued, rfl⟩ := run_caught_bind_iff.1 run
  obtain ⟨course, rfl⟩ := run_attempt_iff.1 tried
  obtain ⟨asked, counted, rfl⟩ := course_on_host_iff.1 course
  obtain ⟨answer, rfl, rfl⟩ := course_online_count_iff.1 counted
  cases listing : listed answer with
  | ok cpus =>
      rw [listing] at continued
      obtain ⟨rfl, rfl, rfl⟩ := run_pure_iff.1 continued
      exact ⟨_, _, .read listing, rfl, rfl, rfl⟩
  | error failure =>
      rw [listing] at continued
      obtain ⟨rest, asking, rfl⟩ := run_log_bind_iff.1 continued
      obtain ⟨threads, told, rfl, rfl⟩ := run_on_host_iff.1 asking
      obtain ⟨asked, parallelism, rfl⟩ := course_on_host_iff.1 told
      rw [course_request_iff.1 parallelism]
      exact ⟨_, _, .unread listing threads, rfl, rfl, rfl⟩

theorem rounds_of_run_sweep_down {count : Nat} {results : Results}
    {outcome : Except Error Results}
    (run : Run (campaign.sweepDown root count results) before exchanges outcome after) :
    ∃ rounds last middle ending, Rounds campaign root count before rounds last middle ∧
      RoundsEnd campaign root (results.recordAll rounds) last middle ending outcome after ∧
      exchanges = rounds.flatMap Round.exchanges ++ ending := by
  induction count generalizing results before exchanges with
  | zero =>
      obtain ⟨rfl, rfl, rfl⟩ := run_pure_iff.1 run
      exact ⟨[], 0, _, [], .none 0 _, .finished _, rfl⟩
  | succ count induction =>
      obtain ⟨first, reached, middle, later, tried, continued, rfl⟩ := run_caught_bind_iff.1 run
      obtain ⟨course, rfl⟩ := run_attempt_iff.1 tried
      obtain ⟨setting, set, rfl⟩ := course_on_host_iff.1 course
      cases reached with
      | error failure =>
          obtain ⟨rest, done, rfl⟩ := run_log_bind_iff.1 continued
          obtain ⟨rfl, rfl, rfl⟩ := run_pure_iff.1 done
          refine ⟨[], count + 1, _, _, .none _ _, .refused _ set, ?_⟩
          rw [List.map_append]
          rfl
      | ok =>
          rcases run_bind_iff.1 continued with
            ⟨failure, failed, rfl⟩ | ⟨suite, passes, middle, rest, measured, lowered, rfl⟩
          · exact ⟨[], count + 1, _, _, .none _ _, .broken set failed, rfl⟩
          · obtain ⟨rounds, last, final, ending, others, ended, rfl⟩ := induction lowered
            refine ⟨⟨count + 1, setting, suite, passes⟩ :: rounds, last, final, ending,
              .round set measured others, ended, ?_⟩
            simp only [List.flatMap_cons, Round.exchanges, List.append_assoc]

/-- Every number from the first down to the last has its round, and none has two. -/
theorem counts_of_rounds {count last : Nat} {rounds : List Round}
    (run : Rounds campaign root count before rounds last after) :
    last ≤ count ∧
      rounds.map Round.count = (List.range' (last + 1) (count - last)).reverse := by
  induction run with
  | none count state => simp
  | @round count last _ _ _ _ _ _ _ set run rest induction =>
      obtain ⟨within, counts⟩ := induction
      have size : count + 1 - last = (count - last) + 1 := by omega
      have highest : last + 1 + (count - last) = count + 1 := by omega
      refine ⟨by omega, ?_⟩
      rw [List.map_cons, counts, size, List.range'_1_concat, highest, List.reverse_append]
      rfl

theorem mem_counts_iff {count last number : Nat} {rounds : List Round}
    (run : Rounds campaign root count before rounds last after) :
    number ∈ rounds.map Round.count ↔ last < number ∧ number ≤ count := by
  obtain ⟨within, counts⟩ := counts_of_rounds run
  rw [counts, List.mem_reverse, List.mem_range'_1]
  omega

theorem nodup_keys_of_rounds {count last : Nat} {rounds : List Round}
    (run : Rounds campaign root count before rounds last after) :
    (rounds.map Round.key).Nodup := by
  have counts : (rounds.map Round.count).Nodup := by
    rw [(counts_of_rounds run).2, List.nodup_reverse]
    exact List.nodup_range'
  rw [map_key_eq]
  exact counts.map fun _ _ same => cpu_key_inj same

end Campaign

end TraceOverhead
