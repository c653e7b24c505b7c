import TraceOverhead.Proofs.Campaign.Results
import TraceOverhead.Proofs.Campaign.Sessions
/-!
The number of CPUs with which a sweep begins. No CPU has to be switched for it, but the list of those
offline is read all the same. Main statement: a sweep that ends well has measured the first number
if that list could be read; and if it could not, the sweep has measured nothing and ends well.
-/

namespace TraceOverhead

open Dialogue Hotplug

namespace Hotplug

def isWrite : Host.Request → Bool
  | .writeFile .. => true
  | _ => false

/-- Until something is written, the list of the CPUs that are online is found unchanged. -/
def Steady (root : String) (content : Bytes) (asked : List (Exchange host)) : Prop :=
  ∀ answer ∈ (asked.takeWhile fun exchange => !isWrite exchange.request).filterMap
    (onlineAnswer? root), answer = .ok content

variable {root : String} {asked : List (Exchange host)} {content : Bytes} {count : Nat}

theorem steady_read {path : String} {answer : Except IoFailure Bytes}
    (steady : Steady root content (⟨Host.Request.readFile path, answer⟩ :: asked)) :
    (path = Path.join root "online" → answer = .ok content) ∧ Steady root content asked := by
  rw [Steady, List.takeWhile_cons_of_pos rfl] at steady
  constructor
  · rintro rfl
    exact steady answer (List.mem_filterMap.2 ⟨_, List.mem_cons_self, online_answer answer⟩)
  · intro later found
    apply steady later
    obtain ⟨exchange, member, same⟩ := List.mem_filterMap.1 found
    exact List.mem_filterMap.2 ⟨exchange, List.mem_cons_of_mem _ member, same⟩

/-- To set a number of CPUs both lists are read, before it is found that the number is the current
one. -/
theorem set_count_start {outcome : Except Error Unit}
    (course : Course (setCount root count).outcome asked outcome) :
    ∃ (answer : Except IoFailure Bytes) (rest : List (Exchange host)),
      asked = ⟨Host.Request.readFile (Path.join root "online"), answer⟩ :: rest ∧
      ∀ current, listed answer = .ok current → current.size = count → 0 < count →
        ∃ missing : Except IoFailure Bytes,
          rest = [⟨Host.Request.readFile (Path.join root "offline"), missing⟩] ∧
            outcome = (listed missing).map fun _ => () := by
  cases course_set_count_iff.1 course with
  | @onlineUnlisted answer failure unlisted =>
      refine ⟨answer, [], rfl, ?_⟩
      intro current listing
      rw [unlisted] at listing
      contradiction
  | @offlineUnlisted answer other current failure found unlisted =>
      refine ⟨answer, _, rfl, ?_⟩
      intro _ _ _ _
      exact ⟨other, rfl, by rw [unlisted]; rfl⟩
  | @listed answer other current missing rest outcome found lost approached =>
      refine ⟨answer, _, rfl, ?_⟩
      intro shown listing same positive
      obtain rfl := Except.ok.inj (found.symm.trans listing)
      cases approached with
      | tooMany above => omega
      | tooFew none => omega
      | same => exact ⟨other, rfl, by rw [lost]; rfl⟩
      | halted plan => exact absurd same.symm (possible_of_plan plan).2.1
      | switched plan => exact absurd same.symm (possible_of_plan plan).2.1

end Hotplug

namespace Campaign

variable {campaign : Campaign} {root : String} {before after : CampaignState}
  {exchanges : List (Exchange instruments)} {outcome : Except Error Results}

/-- A sweep downwards begins with setting its first number, and without that measures nothing. -/
theorem first_setting_of_run {count : Nat}
    (run : Run (campaign.sweepDown root (count + 1) Results.empty) before exchanges outcome after) :
    ∃ setting reached later, Course (setCount root (count + 1)).outcome setting reached ∧
      exchanges = setting.map Exchange.onHost ++ later ∧
      (∀ failure, reached = .error failure → outcome = .ok Results.empty) ∧
      ∀ results, reached = .ok () → outcome = .ok results → cpuKey (count + 1) ∈ results.data := by
  obtain ⟨rounds, last, middle, ending, steps, ended, rfl⟩ := rounds_of_run_sweep_down run
  cases steps with
  | none =>
      cases ended with
      | @refused _ _ setting failure set =>
          refine ⟨setting, .error failure, [countSkipped (count + 1) failure].map Exchange.onHost, set,
            List.map_append, ?_, ?_⟩
          · intro _ _
            rfl
          · intro results impossible
            contradiction
      | @broken _ _ _ setting suite failure set failed =>
          refine ⟨setting, .ok (), suite, set, rfl, ?_, ?_⟩
          · intro other impossible
            contradiction
          · intro results _ impossible
            contradiction
  | @round _ _ _ _ _ setting suite passes rounds set measured rest =>
      refine ⟨setting, .ok (), suite ++ (rounds.flatMap Round.exchanges ++ ending), set, ?_, ?_, ?_⟩
      · simp only [List.flatMap_cons, Round.exchanges, List.append_assoc]
      · intro other impossible
        contradiction
      · intro results _ succeeded
        have distinct := nodup_keys_of_rounds (.round set measured rest)
        have recorded : results =
            Results.empty.recordAll (⟨count + 1, setting, suite, passes⟩ :: rounds) := by
          cases ended with
          | finished | refused => exact (Except.ok.inj succeeded).symm
          | broken => contradiction
        rw [recorded, (Results.keys_record_all distinct).1]
        exact List.mem_cons_self

/-- A sweep that finds CPUs online measures at their number unless the list of the CPUs offline
cannot be read, in which case it ends well without having measured. -/
theorem first_count_measured_of_sweep (enabled : campaign.config.cpuSweep = true)
    (run : Run (campaign.sweep root) before exchanges outcome after) {content : Bytes} {cpus : CpuSet}
    (steady : Steady root content (hostExchanges exchanges)) (listing : listed (.ok content) = .ok cpus)
    (positive : 0 < cpus.size) :
    ∃ (missing : Except IoFailure Bytes) (rest : List (Exchange host)),
      hostExchanges exchanges =
        ⟨Host.Request.readFile (Path.join root "online"), .ok content⟩ ::
          ⟨Host.Request.readFile (Path.join root "online"), .ok content⟩ ::
          ⟨Host.Request.readFile (Path.join root "offline"), missing⟩ :: rest ∧
      (∀ offline results, listed missing = .ok offline → outcome = .ok results →
        cpuKey cpus.size ∈ results.data) ∧
      ∀ failure, listed missing = .error failure → outcome = .ok Results.empty := by
  obtain ⟨restoring, parts⟩ := sweep_parts_of_run run
  cases parts with
  | unguarded disabled => exact absurd disabled (by simp [enabled])
  | unread _ read =>
      obtain ⟨answer, rfl, failed⟩ := course_online_iff.1 read
      obtain rfl := (steady_read steady).1 rfl
      rw [listing] at failed
      contradiction
  | @guarded _ _ lowering saved _ _ _ read lowered restored =>
      obtain ⟨answer, rfl, found⟩ := course_online_iff.1 read
      have followed := steady_read steady
      obtain rfl := followed.1 rfl
      obtain rfl := Except.ok.inj (listing.symm.trans found.symm)
      obtain ⟨count, size⟩ := Nat.exists_eq_add_one.2 positive
      rw [size] at lowered ⊢
      obtain ⟨setting, reached, later, set, rfl, refused, measured⟩ := first_setting_of_run lowered
      obtain ⟨answer, others, rfl, same⟩ := set_count_start set
      have again := followed.2
      obtain rfl := (steady_read again).1 rfl
      obtain ⟨missing, rfl, rfl⟩ := same cpus listing size (Nat.succ_pos count)
      refine ⟨missing, _, rfl, ?_, ?_⟩
      · intro offline results shown succeeded
        exact measured results (by rw [shown]; rfl) succeeded
      · intro failure unread
        exact refused failure (by rw [unread]; rfl)

/-- A machine with one CPU, which is online, and programs and sessions that give no trouble. -/
def oneCpuMachine (offline : Except IoFailure Bytes) :
    (request : Instruments.Request) → Unit → Instruments.Answer request × Unit
  | .host (.readFile path), _ =>
    (if path = Path.join "cpu" "offline" then offline else .ok [0x30, 0x0a], ())
  | request, _ => ((Instruments.obey [0x5b, 0x5d] [] request []).1, ())

/-- What the one CPU's sweep comes to, with the list of the CPUs offline as given. -/
def oneCpuSweep (offline : Except IoFailure Bytes) :
    List (Exchange instruments) × Except Error Results × CampaignState :=
  trial (oneCpuMachine offline) () (smallCampaign.sweep "cpu") .initial

theorem run_one_cpu_sweep (offline : Except IoFailure Bytes) :
    Run (smallCampaign.sweep "cpu") .initial (oneCpuSweep offline).1 (oneCpuSweep offline).2.1
      (oneCpuSweep offline).2.2 :=
  run_trial (oneCpuMachine offline) () (smallCampaign.sweep "cpu") .initial

theorem ends_well {measured : Results → Bool} {outcome : Except Error Results}
    (ended : outcome.toOption.any measured = true) :
    ∃ results, outcome = .ok results ∧ measured results = true := by
  cases outcome with
  | error failure => contradiction
  | ok results => exact ⟨results, rfl, ended⟩

/-- The one CPU is measured where no CPU is listed as offline. -/
theorem first_count_measured_of_one_cpu :
    ∃ exchanges results after,
      Run (smallCampaign.sweep "cpu") .initial exchanges (.ok results) after ∧
      Steady "cpu" [0x30, 0x0a] (hostExchanges exchanges) ∧ "1_cpus" ∈ results.data := by
  have run := run_one_cpu_sweep (.ok [0x0a])
  have steady : Steady "cpu" [0x30, 0x0a] (hostExchanges (oneCpuSweep (.ok [0x0a])).1) := by
    rw [Steady]
    decide +kernel
  have measured : (oneCpuSweep (.ok [0x0a])).2.1.toOption.any
      (fun results => !results.data.isEmpty) = true := by decide +kernel
  obtain ⟨results, ended, filled⟩ := ends_well measured
  rw [ended] at run
  have listing : listed (.ok [0x30, 0x0a]) = .ok ((∅ : CpuSet).insertMany [0]) := rfl
  obtain ⟨missing, rest, asked, first, unread⟩ :=
    first_count_measured_of_sweep rfl run steady listing (by decide)
  refine ⟨_, results, _, run, steady, ?_⟩
  cases shown : listed missing with
  | ok offline => exact first offline results shown rfl
  | error failure =>
      rw [Except.ok.inj (unread failure shown)] at filled
      contradiction

/-- The one CPU is not measured where it is not known which CPUs are offline, and the sweep ends well
nevertheless. -/
theorem one_cpu_unmeasured_without_offline_list :
    ∃ exchanges results after cpus, smallCampaign.config.cpuSweep = true ∧
      Run (smallCampaign.sweep "cpu") .initial exchanges (.ok results) after ∧
      Steady "cpu" [0x30, 0x0a] (hostExchanges exchanges) ∧
      listed (.ok [0x30, 0x0a]) = .ok cpus ∧ 0 < cpus.size ∧ cpuKey cpus.size ∉ results.data := by
  have run := run_one_cpu_sweep (.error .notFound)
  have steady : Steady "cpu" [0x30, 0x0a] (hostExchanges (oneCpuSweep (.error .notFound)).1) := by
    rw [Steady]
    decide +kernel
  have unmeasured : (oneCpuSweep (.error .notFound)).2.1.toOption.any
      (fun results => results.data.isEmpty) = true := by decide +kernel
  obtain ⟨results, ended, nothing⟩ := ends_well unmeasured
  rw [ended] at run
  exact ⟨_, results, _, (∅ : CpuSet).insertMany [0], rfl, run, steady, rfl, by decide,
    Std.TreeMap.not_mem_of_isEmpty nothing⟩

end Campaign

end TraceOverhead
