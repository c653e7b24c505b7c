import TraceOverhead.Proofs.Campaign.Rounds
/-!
What a sweep that ends well has measured, and where it is filed. Each key stands for a number of
CPUs that was read off the machine just before its suite, and passes and averages are filed under
the same keys. Main statements: the keys of a sweep are those of a run of numbers down from the one
that was found, and whether the first of them is there hangs on the list of the CPUs offline.
-/

namespace TraceOverhead

open Dialogue Hotplug

namespace Results

variable {rounds : List Round} {key : String}

/-- Passes and averages have the same keys, those of the rounds. -/
theorem keys_record_all (distinct : (rounds.map Round.key).Nodup) :
    (key ∈ (empty.recordAll rounds).data ↔ key ∈ rounds.map Round.key) ∧
      (key ∈ (empty.recordAll rounds).average ↔ key ∈ rounds.map Round.key) := by
  rw [Std.TreeMap.mem_iff_isSome_getElem?, Std.TreeMap.mem_iff_isSome_getElem?]
  by_cases member : key ∈ rounds.map Round.key
  · obtain ⟨round, inside, rfl⟩ := List.mem_map.1 member
    have filed : (empty.recordAll rounds).Files round.key round.passes :=
      files_of_mem empty distinct inside
    simp only [filed.data, filed.average, Option.isSome_some, member, and_self]
  · obtain ⟨data, average⟩ := get_record_all_of_not_mem empty member
    rw [data, average, empty, Std.TreeMap.getElem?_emptyc, Std.TreeMap.getElem?_emptyc]
    simp [member]

/-- A single number of CPUs is the case of one round. -/
theorem keys_record_empty (count : Nat) (passes : List Pass) :
    (key ∈ (empty.record (cpuKey count) passes).data ↔ key = cpuKey count) ∧
      (key ∈ (empty.record (cpuKey count) passes).average ↔ key = cpuKey count) := by
  have distinct : ([(⟨count, [], [], passes⟩ : Round)].map Round.key).Nodup :=
    List.nodup_singleton _
  have keys := @keys_record_all _ key distinct
  rw [List.map_singleton, List.mem_singleton] at keys
  exact keys

end Results

namespace Campaign

variable {campaign : Campaign} {root : String} {before after : CampaignState}
  {exchanges : List (Exchange instruments)} {results : Results}

/-- The parts of a sweep that ended well: the first look at the CPUs, the rounds, the attempt to
set the number `last`, which was not measured any more, and the restoration. -/
structure SweepAccount where
  reading : List (Exchange host)
  saved : CpuSet
  rounds : List Round
  last : Nat
  ending : List (Exchange host)
  restoring : List (Exchange host)

/-- What was asked in such a sweep. -/
def SweepAccount.asked (account : SweepAccount) : List (Exchange instruments) :=
  account.reading.map Exchange.onHost ++ ((account.rounds.flatMap Round.exchanges ++
    account.ending.map Exchange.onHost) ++ account.restoring.map Exchange.onHost)

/-- The parts are those of a sweep: every round went well, there was one for each number down to
`last`, and `last` could not be set unless it is zero. -/
structure SweepAccount.Holds (campaign : Campaign) (root : String) (before after : CampaignState)
    (account : SweepAccount) : Prop where
  found : Course (online root).outcome account.reading (.ok account.saved)
  lowered : Rounds campaign root account.saved.size before account.rounds account.last after
  finished : account.last = 0 → account.ending = []
  refused : 0 < account.last → ∃ setting failure,
    Course (setCount root account.last).outcome setting (.error failure) ∧
      account.ending = setting ++ [countSkipped account.last failure]
  restored : Course (restore root account.saved) account.restoring ()

/-- The results of a sweep are filed under a run of numbers of CPUs, each with the passes of the
suite that was run when there were so many. -/
structure SweptResults (campaign : Campaign) (root : String) (account : SweepAccount)
    (results : Results) : Prop where
  within : account.last ≤ account.saved.size
  data_keys : ∀ key, key ∈ results.data ↔
    ∃ count, account.last < count ∧ count ≤ account.saved.size ∧ key = cpuKey count
  average_keys : ∀ key, key ∈ results.average ↔ key ∈ results.data
  written_once : results = Results.empty.recordAll account.rounds ∧
    (account.rounds.map Round.key).Nodup
  averaged : ∀ (key : String) (passes : List Pass), results.data[key]? = some passes →
    results.average[key]? = some (averagePasses passes)
  measured : ∀ count, account.last < count → count ≤ account.saved.size →
    ∃ earlier round later, account.rounds = earlier ++ round :: later ∧ round.count = count ∧
      results.data[cpuKey count]? = some round.passes ∧
      (∃ start finish, Run campaign.runSuite start round.suite (.ok round.passes) finish) ∧
      LastCount root (hostExchanges (account.reading.map Exchange.onHost ++
        (earlier.flatMap Round.exchanges ++ round.setting.map Exchange.onHost))) count

/-- What a sweep of the current number of CPUs alone asked, and how its results are filed. -/
structure SingleResults (campaign : Campaign) (root : String) (before after : CampaignState)
    (exchanges : List (Exchange instruments)) (results : Results) (counting : List (Exchange host))
    (count : Nat) (suite : List (Exchange instruments)) (passes : List Pass) : Prop where
  asked : exchanges = counting.map Exchange.onHost ++ suite
  counted : Counted root counting count
  measured : Run campaign.runSuite before suite (.ok passes) after
  data_keys : ∀ key, key ∈ results.data ↔ key = cpuKey count
  average_keys : ∀ key, key ∈ results.average ↔ key = cpuKey count
  filed : results.Files (cpuKey count) passes
  unwritten : ∀ exchange ∈ exchanges, ∀ path content,
    exchange.request = .host (.writeFile path content) → ¬ CpuFile root path

section Sweeps

theorem round_of_rounds {count last : Nat} {earlier later : List Round} {round : Round}
    (run : Rounds campaign root count before (earlier ++ round :: later) last after) :
    Course (setCount root round.count).outcome round.setting (.ok ()) ∧
      ∃ start finish, Run campaign.runSuite start round.suite (.ok round.passes) finish := by
  induction earlier generalizing count before with
  | nil =>
      cases run with
      | round set run rest => exact ⟨set, _, _, run⟩
  | cons first earlier induction =>
      cases run with
      | round set run rest => exact induction rest

theorem mem_keys_iff {count last : Nat} {rounds : List Round} {key : String}
    (run : Rounds campaign root count before rounds last after) :
    key ∈ rounds.map Round.key ↔ ∃ number, last < number ∧ number ≤ count ∧ key = cpuKey number := by
  rw [map_key_eq, List.mem_map]
  constructor
  · intro parts
    obtain ⟨number, member, rfl⟩ := parts
    exact ⟨number, ((mem_counts_iff run).1 member).1, ((mem_counts_iff run).1 member).2, rfl⟩
  · intro parts
    obtain ⟨number, above, within, rfl⟩ := parts
    exact ⟨number, (mem_counts_iff run).2 ⟨above, within⟩, rfl⟩

/-- What was recorded in the rounds of a sweep is filed as it should be. -/
theorem swept_results_of_account {account : SweepAccount}
    (holds : account.Holds campaign root before after) :
    SweptResults campaign root account (Results.empty.recordAll account.rounds) := by
  have lowered := holds.lowered
  have distinct := nodup_keys_of_rounds lowered
  refine ⟨(counts_of_rounds lowered).1, ?_, ?_, ⟨rfl, distinct⟩, ?_, ?_⟩
  · intro key
    rw [(Results.keys_record_all distinct).1, mem_keys_iff lowered]
  · intro key
    rw [(Results.keys_record_all distinct).1, (Results.keys_record_all distinct).2]
  · intro key passes filed
    have member : key ∈ account.rounds.map Round.key := by
      rw [← (Results.keys_record_all distinct).1, Std.TreeMap.mem_iff_isSome_getElem?, filed]
      rfl
    obtain ⟨round, inside, rfl⟩ := List.mem_map.1 member
    have files := Results.files_of_mem Results.empty distinct inside
    obtain rfl := Option.some.inj (files.data.symm.trans filed)
    exact files.average
  · intro count above within
    obtain ⟨round, inside, rfl⟩ := List.mem_map.1 ((mem_counts_iff lowered).2 ⟨above, within⟩)
    obtain ⟨earlier, later, split⟩ := List.append_of_mem inside
    have filed := (Results.files_of_mem Results.empty distinct inside).data
    rw [split] at lowered
    obtain ⟨set, suite⟩ := round_of_rounds lowered
    refine ⟨earlier, round, later, split, rfl, filed, suite, ?_⟩
    rw [host_exchanges_append, host_exchanges_append, host_exchanges_map_on_host round.setting]
    exact last_count_append (last_count_append (last_count_of_set_count set))

theorem account_of_run (enabled : campaign.config.cpuSweep = true)
    (run : Run (campaign.sweep root) before exchanges (.ok results) after) :
    ∃ account : SweepAccount, exchanges = account.asked ∧
      account.Holds campaign root before after ∧
      results = Results.empty.recordAll account.rounds := by
  obtain ⟨restoring, parts⟩ := sweep_parts_of_run run
  cases parts with
  | unguarded disabled => exact absurd disabled (by simp [enabled])
  | @guarded reading _ lowering saved _ _ _ found lowered restored =>
      obtain ⟨rounds, last, middle, ending, steps, ended, rfl⟩ := rounds_of_run_sweep_down lowered
      cases ended with
      | finished =>
          refine ⟨⟨reading, saved, rounds, 0, [], restoring⟩, rfl,
            ⟨found, steps, fun _ => rfl, ?_, restored⟩, rfl⟩
          intro positive
          contradiction
      | @refused count _ setting failure set =>
          refine ⟨⟨reading, saved, rounds, count + 1, setting ++ [countSkipped _ failure],
            restoring⟩, rfl, ⟨found, steps, ?_, ?_, restored⟩, rfl⟩
          · intro impossible
            contradiction
          · intro _
            exact ⟨setting, failure, set, rfl⟩

theorem single_results_of_run (disabled : campaign.config.cpuSweep = false)
    (run : Run (campaign.sweep root) before exchanges (.ok results) after) :
    ∃ counting count suite passes, SingleResults campaign root before after exchanges results
      counting count suite passes := by
  have unwritten := unguarded_counts disabled _ _ _ _ run
  rw [sweep, if_neg (by simp [disabled])] at run
  rcases run_bind_iff.1 run with
    ⟨failure, _, impossible⟩ | ⟨first, count, middle, suite, counting, measured, rfl⟩
  · contradiction
  obtain ⟨asked, number, counted, rfl, found, rfl⟩ := counted_of_run counting
  obtain rfl := Except.ok.inj found
  obtain ⟨reached, held, recorded⟩ := run_bind_pure_iff.1 measured
  cases reached with
  | error failure => contradiction
  | ok passes =>
      obtain rfl := Except.ok.inj recorded
      refine ⟨asked, count, suite, passes, rfl, counted, held, ?_, ?_, ?_, ?_⟩
      · intro key
        exact (Results.keys_record_empty _ _).1
      · intro key
        exact (Results.keys_record_empty _ _).2
      · exact Results.files_record _ _ _
      · intro exchange member path content written file
        have allowed := unwritten exchange member
        rw [written] at allowed
        obtain ⟨sysfs, rfl⟩ := allowed
        exact not_cpu_file_count sysfs file

/-- The results of every sweep that ends well are those of a run of numbers of CPUs downwards from
the one that was found, or of the current number alone. -/
theorem results_of_sweep (campaign : Campaign) (root : String) {before after : CampaignState}
    {exchanges : List (Exchange instruments)} {results : Results}
    (run : Run (campaign.sweep root) before exchanges (.ok results) after) :
    (campaign.config.cpuSweep = true → ∃ account : SweepAccount, exchanges = account.asked ∧
      account.Holds campaign root before after ∧ SweptResults campaign root account results) ∧
    (campaign.config.cpuSweep = false → ∃ counting count suite passes,
      SingleResults campaign root before after exchanges results counting count suite passes) := by
  constructor
  · intro enabled
    obtain ⟨account, asked, holds, rfl⟩ := account_of_run enabled run
    exact ⟨account, asked, holds, swept_results_of_account holds⟩
  · intro disabled
    exact single_results_of_run disabled run

/-- What two CPUs are listed as while the second is switched off and on again. -/
def twoCpuLists : List Bytes :=
  [[0x30, 0x2d, 0x31, 0x0a], [0x30, 0x2d, 0x31, 0x0a], [0x0a], [0x30, 0x2d, 0x31, 0x0a], [0x0a],
    [0x30, 0x0a], [0x30, 0x0a], [0x31, 0x0a]]

def singleCampaign : Campaign :=
  { idleCampaign with config := { idleCampaign.config with cpuSweep := false } }

/-- Two CPUs are measured one after the other and, where the list of the CPUs cannot be parsed, as
many as there are threads. -/
theorem results_of_idle_sweeps :
    (∃ account exchanges results after,
      Run (idleCampaign.sweep "cpu") .initial exchanges (.ok results) after ∧
      exchanges = account.asked ∧ account.Holds idleCampaign "cpu" .initial after ∧
      SweptResults idleCampaign "cpu" account results ∧
      results.data.toList = [("1_cpus", []), ("2_cpus", [])]) ∧
    ∃ counting count suite passes exchanges results after,
      Run (singleCampaign.sweep "cpu") .initial exchanges (.ok results) after ∧
      SingleResults singleCampaign "cpu" .initial after exchanges results counting count suite
        passes ∧ results.data.toList = [("1_cpus", [])] := by
  have swept := run_trial Instruments.recite twoCpuLists (idleCampaign.sweep "cpu") .initial
  have counted := run_trial Instruments.recite [[0x78]] (singleCampaign.sweep "cpu") .initial
  constructor
  · obtain ⟨results, ended, keys⟩ : ∃ results : Results,
        (trial Instruments.recite twoCpuLists (idleCampaign.sweep "cpu") .initial).2.1 =
          .ok results ∧ results.data.toList = [("1_cpus", []), ("2_cpus", [])] := ⟨_, rfl, rfl⟩
    rw [ended] at swept
    obtain ⟨account, asked, holds, labelled⟩ := (results_of_sweep idleCampaign "cpu" swept).1 rfl
    exact ⟨account, _, results, _, swept, asked, holds, labelled, keys⟩
  · obtain ⟨results, ended, keys⟩ : ∃ results : Results,
        (trial Instruments.recite [[0x78]] (singleCampaign.sweep "cpu") .initial).2.1 =
          .ok results ∧ results.data.toList = [("1_cpus", [])] := ⟨_, rfl, rfl⟩
    rw [ended] at counted
    obtain ⟨counting, count, suite, passes, single⟩ :=
      (results_of_sweep singleCampaign "cpu" counted).2 rfl
    exact ⟨counting, count, suite, passes, _, results, _, counted, single, keys⟩

end Sweeps

end Campaign

end TraceOverhead
