import TraceOverhead.Report.Files
import TraceOverhead.Proofs.Json.Place
import TraceOverhead.Proofs.Report.Shape
/-!
The outputs of a report side by side. The property text has one entry for every scalar of the
report, the plots one for every average that is finite, and the dump shows the same averages: what
a plot file holds is the word that stands in the dump at the place of the average, and where there
is no plot the dump says null.
-/

namespace TraceOverhead

open Flatten Json

def Results.average? (results : Results) (cpus : Nat) (name : String) : Option Float :=
  results.average[cpuKey cpus]?.bind fun averages => averages[name]?

def plotKey (cpus : Nat) (name : String) : String := cpuKey cpus ++ "." ++ name

/-- The word in the dump of a report for an average. -/
def Report.dumpedWords (report : Report) (cpus : Nat) (name : String) : List Lexeme :=
  lexemesAt [.member "average", .member (cpuKey cpus), .member name]
    (textPlaces (report.toJson.indented ++ "\n"))

section Averages

variable {results : Results}

theorem plot_key_inj {first second : Nat} {name other : String}
    (same : plotKey first name = plotKey second other) : first = second ∧ name = other := by
  have shared := congrArg String.toList same
  simp only [plotKey, String.toList_append, List.append_assoc] at shared
  have dot : ∀ rest, Broken .dotted (".".toList ++ rest) := broken_cons rfl
  have parts := append_broken_inj (plain_iff.1 (plain_cpu_key first)).2
    (plain_iff.1 (plain_cpu_key second)).2 (dot name.toList) (dot other.toList) shared
  constructor
  · exact cpu_key_inj (String.toList_inj.1 parts.1)
  · exact String.toList_inj.1 (List.append_cancel_left parts.2)

theorem mem_average_leaves_iff (keyed : results.Keyed) {leaf : Leaf} :
    leaf ∈ results.averageToJson.leaves ↔
      ∃ cpus name average, results.average? cpus name = some average ∧
        Number.isFinite average ∧
        ([.member (cpuKey cpus), .member name], .number (.double average)) = leaf := by
  rw [Results.averageToJson, mem_keyed_leaves_iff]
  constructor
  · intro present
    obtain ⟨key, averages, found, inner, below, rfl⟩ := present
    obtain ⟨name, average, value, last, scalar, rfl⟩ := mem_keyed_leaves_iff.1 below
    obtain ⟨cpus, rfl⟩ := keyed.average key (mem_of_get found)
    rw [Json.float] at scalar
    split at scalar
    · rename_i finite
      refine ⟨cpus, name, average, ?_, finite, ?_⟩
      · rw [Results.average?, found]
        exact value
      · rw [List.mem_singleton.1 scalar]
        rfl
    · contradiction
  · intro named
    obtain ⟨cpus, name, average, held, finite, rfl⟩ := named
    obtain ⟨averages, found, value⟩ := Option.bind_eq_some_iff.1 held
    have scalar : ([], .number (.double average)) ∈ (Json.float average).leaves := by
      simp [Json.float, finite, leaves]
    have below := mem_keyed_leaves_iff.2 ⟨name, average, value, _, scalar, rfl⟩
    exact ⟨cpuKey cpus, averages, found, _, below, rfl⟩

theorem leaf_entry_average (cpus : Nat) (name : String) (value : Json) :
    leafEntry .dotted "" ([.member (cpuKey cpus), .member name], value) =
      (plotKey cpus name, value) := by
  have plain : isPlain .dotted (cpuKey cpus) := plain_cpu_key cpus
  have nonempty : cpuKey cpus ≠ "" := (plain_iff.1 plain).1
  have path : memberPath (cpuKey cpus) name = plotKey cpus name := by
    simp [memberPath, nonempty, plotKey]
  rw [← path]
  rfl

theorem get_plot_entries_iff (keyed : results.Keyed) {key : String} {value : Json} :
    (Report.plotEntries results)[key]? = some value ↔
      ∃ cpus name average, results.average? cpus name = some average ∧
        Number.isFinite average ∧ key = plotKey cpus name ∧ value = .number (.double average) := by
  rw [Report.plotEntries, get_flatten_iff (separable_average_table keyed)]
  constructor
  · intro present
    obtain ⟨leaf, member, entry⟩ := present
    obtain ⟨cpus, name, average, held, finite, rfl⟩ := (mem_average_leaves_iff keyed).1 member
    rw [leaf_entry_average] at entry
    obtain ⟨rfl, rfl⟩ := Prod.mk.inj entry
    exact ⟨cpus, name, average, held, finite, rfl, rfl⟩
  · intro named
    obtain ⟨cpus, name, average, held, finite, rfl, rfl⟩ := named
    exact ⟨_, (mem_average_leaves_iff keyed).2 ⟨cpus, name, average, held, finite, rfl⟩,
      leaf_entry_average cpus name _⟩

end Averages

section Shared

theorem leaf_entry_under_average (cpus : Nat) (name : String) (value : Json) :
    leafEntry .bracketed ""
      ([.member "average", .member (cpuKey cpus), .member name], value) =
        ("average." ++ plotKey cpus name, value) := by
  have path : memberPath (memberPath "average" (cpuKey cpus)) name =
      "average." ++ plotKey cpus name := by
    simp [memberPath, plotKey, ← String.toList_inj]
  rw [← path]
  rfl

theorem part_of_average_entry {part : String} {tree value : Json} {leaf : Leaf} {key : String}
    (plain : isPlain .bracketed part) (member : leaf ∈ tree.leaves.map (Step.member part).before)
    (entry : leafEntry .bracketed "" leaf = ("average." ++ key, value)) : part = "average" := by
  obtain ⟨inner, _, rfl⟩ := List.mem_map.1 member
  obtain ⟨rest, broken, reached⟩ := trail_path_of_ne_empty .bracketed (plain_iff.1 plain).1 inner.1
  have path : trailPath .bracketed part inner.1 = "average." ++ key := congrArg Prod.fst entry
  have dot : Broken .bracketed ('.' :: key.toList) := broken_cons rfl _
  rw [path] at reached
  have named : isUnbroken .bracketed "average".toList := by decide
  have split : "average".toList ++ '.' :: key.toList = part.toList ++ rest := by
    rw [← reached, String.toList_append]
    rfl
  have parts := append_broken_inj named (plain_iff.1 plain).2 dot broken split
  exact (String.toList_inj.1 parts.1).symm

theorem get_property_entries_average_iff {report : Report} (keyed : report.results.Keyed)
    {key : String} {value : Json} :
    (Report.propertyEntries report)["average." ++ key]? = some value ↔
      ∃ cpus name average, report.results.average? cpus name = some average ∧
        Number.isFinite average ∧ key = plotKey cpus name ∧ value = .number (.double average) := by
  rw [Report.propertyEntries, get_flatten_iff (separable_report keyed)]
  constructor
  · intro present
    obtain ⟨leaf, member, entry⟩ := present
    rw [Report.toJson, leaves] at member
    simp only [memberLeaves, List.mem_append, List.not_mem_nil, or_false] at member
    rcases member with run | data | under | platform
    · exact absurd (part_of_average_entry (by decide) run entry) (by decide)
    · exact absurd (part_of_average_entry (by decide) data entry) (by decide)
    · obtain ⟨inner, below, rfl⟩ := List.mem_map.1 under
      obtain ⟨cpus, name, average, held, finite, rfl⟩ := (mem_average_leaves_iff keyed).1 below
      have path := leaf_entry_under_average cpus name (.number (.double average))
      obtain ⟨same, rfl⟩ := Prod.mk.inj (entry.symm.trans path)
      refine ⟨cpus, name, average, held, finite, ?_, rfl⟩
      have tails := congrArg String.toList same
      simp only [String.toList_append, List.append_cancel_left_eq] at tails
      exact String.toList_inj.1 tails
    · exact absurd (part_of_average_entry (by decide) platform entry) (by decide)
  · intro named
    obtain ⟨cpus, name, average, held, finite, rfl, rfl⟩ := named
    have below := (mem_average_leaves_iff keyed).2 ⟨cpus, name, average, held, finite, rfl⟩
    refine ⟨_, ?_, leaf_entry_under_average cpus name _⟩
    rw [Report.toJson, leaves]
    simp only [memberLeaves, List.mem_append]
    exact .inr (.inr (.inl (List.mem_map_of_mem below)))

end Shared

section Dump

def Report.parts (report : Report) : List (String × Json) :=
  [("run", report.run.toJson), ("data", report.results.dataToJson),
    ("average", report.results.averageToJson), ("platform", report.platform.toJson)]

theorem Report.to_json_eq (report : Report) : report.toJson = .object report.parts := rfl

theorem Report.nodup_parts (report : Report) : (report.parts.map Prod.fst).Nodup := by
  have distinct : (["run", "data", "average", "platform"] : List String).Nodup := by decide
  exact distinct

theorem dumped_words_eq {report : Report} {cpus : Nat} {name : String} {average : Float}
    (held : report.results.average? cpus name = some average) :
    report.dumpedWords cpus name = lexemesAt [] (Json.float average).placed := by
  obtain ⟨averages, found, value⟩ := Option.bind_eq_some_iff.1 held
  have part : ("average", report.results.averageToJson) ∈ report.parts := by simp [Report.parts]
  have table := mem_keyed Averages.toJson found
  have entry := mem_keyed Json.float value
  rw [Report.dumpedWords, text_places_indented, Report.to_json_eq,
    lexemes_at_member (Report.nodup_parts report) part, Results.averageToJson,
    lexemes_at_member (by rw [map_fst_keyed]; exact nodup_keys _) table, Averages.toJson,
    lexemes_at_member (by rw [map_fst_keyed]; exact nodup_keys _) entry]

theorem numeral_chars_ne_null {average : Float} (finite : Number.isFinite average) :
    numeralChars (.double average) ≠ "null".toList := by
  intro same
  have letter : 'n' ∈ numeralChars (.double average) := by
    rw [same]
    decide
  rw [numeralChars, if_pos finite] at letter
  have numeric := Number.is_numeric_of_mem_text finite letter
  contradiction

end Dump

namespace Report

/-- What the files written of a report have to do with each other. -/
structure OutputsAgree (report : Report) : Prop where
  kept : (propertyEntries report).toList.Perm
    (report.toJson.leaves.map (leafEntry .bracketed ""))
  distinct : ((report.toJson.leaves.map (leafEntry .bracketed "")).map Prod.fst).Nodup
  plotted : ∀ key value, (plotEntries report.results)[key]? = some value ↔
    ∃ cpus name average, report.results.average? cpus name = some average ∧
      Number.isFinite average ∧ key = plotKey cpus name ∧ value = .number (.double average)
  plottedApart : ∀ cpus name otherCpus other,
    plotKey cpus name = plotKey otherCpus other ↔ cpus = otherCpus ∧ name = other
  shared : ∀ key, (propertyEntries report)["average." ++ key]? = (plotEntries report.results)[key]?
  dumped : ∀ cpus name average, report.results.average? cpus name = some average →
    ∃ word, report.dumpedWords cpus name = [.bare word] ∧
      match (plotEntries report.results)[plotKey cpus name]? with
      | some value => ReportFiles.plotLine value = "YVALUE=" ++ String.ofList word ++ "\n" ∧
          word ≠ "null".toList
      | none => word = "null".toList

theorem outputs_agree (report : Report) (keyed : report.results.Keyed) : report.OutputsAgree where
  kept := flatten_perm (separable_report keyed)
  distinct := by
    rw [List.map_map]
    exact nodup_leaf_paths (separable_report keyed) ""
  plotted := fun _ _ => get_plot_entries_iff keyed
  plottedApart := by
    intro cpus name otherCpus other
    constructor
    · exact plot_key_inj
    · intro same
      rw [same.1, same.2]
  shared := by
    intro key
    apply Option.ext
    intro value
    rw [get_property_entries_average_iff keyed, get_plot_entries_iff keyed]
  dumped := by
    intro cpus name average held
    rw [dumped_words_eq held, Json.float]
    cases finite : Number.isFinite average with
    | true =>
        have entry : (plotEntries report.results)[plotKey cpus name]? =
            some (.number (.double average)) :=
          (get_plot_entries_iff keyed).2 ⟨cpus, name, average, held, finite, rfl, rfl⟩
        rw [entry]
        exact ⟨numeralChars (.double average), rfl, rfl, numeral_chars_ne_null finite⟩
    | false =>
        have entry : (plotEntries report.results)[plotKey cpus name]? = none := by
          rw [Option.eq_none_iff_forall_ne_some]
          intro value found
          obtain ⟨other, otherName, kept, there, counted, same, _⟩ :=
            (get_plot_entries_iff keyed).1 found
          obtain ⟨rfl, rfl⟩ := plot_key_inj same
          rw [held] at there
          obtain rfl := Option.some.inj there
          rw [finite] at counted
          contradiction
        rw [entry]
        exact ⟨"null".toList, rfl, rfl⟩

/-- Two benchmarks with names that look like paths, at one number of CPUs. -/
def dottedReport : Report where
  run := ⟨1, "0.1.0", "quick", 1, 2, "2024-01-01T00:00:00Z", none⟩
  results := Results.empty.record (cpuKey 2)
    [⟨"", .kernel ⟨1.0, 2.0, 3.0⟩⟩, ⟨"baseline.[0]", .kernel ⟨2.0, 0.0 / 0.0, 1.0⟩⟩]
  platform := ⟨"Linux", "node", "6.1", "1", "x86_64", ""⟩

theorem dotted_report_outputs_agree :
    dottedReport.results.Keyed ∧ dottedReport.OutputsAgree := by
  have keyed : dottedReport.results.Keyed := keyed_record keyed_empty 2 _
  exact ⟨keyed, outputs_agree dottedReport keyed⟩

end Report

end TraceOverhead
