import TraceOverhead.Report
import TraceOverhead.Proofs.Pass.Shape
import TraceOverhead.Proofs.Text.Bytes
/-!
The tree of a report and the tree of its averages have paths of their own for all their leaves, in
both styles, as long as passes and averages are filed under numbers of CPUs. The names of passes and
averages may be any text.
-/

namespace TraceOverhead

open Flatten

variable {style : IndexStyle}

theorem nodup_keys {Value : Type} (table : Std.TreeMap String Value) :
    (table.toList.map Prod.fst).Nodup := by
  have distinct := Std.TreeMap.distinct_keys_toList (t := table)
  rw [List.Nodup, List.pairwise_map]
  apply distinct.imp
  intro first second unequal same
  exact unequal (by rw [same]; exact Std.ReflCmp.compare_self)

theorem mem_iff_listed {Value : Type} {table : Std.TreeMap String Value} {key : String} :
    key ∈ table ↔ ∃ value, (key, value) ∈ table.toList := by
  simp only [Std.TreeMap.mem_toList_iff_getElem?_eq_some, Std.TreeMap.mem_iff_isSome_getElem?,
    Option.isSome_iff_exists]

theorem mem_of_found {Value : Type} {table : Std.TreeMap String Value} {key : String}
    {value : Value} (found : table[key]? = some value) : key ∈ table :=
  mem_iff_listed.2 ⟨value, Std.TreeMap.mem_toList_iff_getElem?_eq_some.2 found⟩

theorem sorted_by_bytes {Value : Type} (table : Std.TreeMap String Value) :
    table.toList.Pairwise fun first second => Text.toBytes first.1 < Text.toBytes second.1 :=
  (Std.TreeMap.ordered_keys_toList (t := table)).imp Text.compare_eq_lt_iff.1

theorem map_fst_keyed {Value : Type} (table : Std.TreeMap String Value) (encode : Value → Json) :
    (table.toList.map fun (key, value) => (key, encode value)).map Prod.fst =
      table.toList.map Prod.fst := by
  rw [List.map_map]
  rfl

theorem mem_keyed {Value : Type} {table : Std.TreeMap String Value} {key : String} {value : Value}
    (encode : Value → Json) (found : table[key]? = some value) :
    (key, encode value) ∈ table.toList.map fun (key, value) => (key, encode value) :=
  List.mem_map_of_mem (Std.TreeMap.mem_toList_iff_getElem?_eq_some.2 found)

theorem cpu_key_inj {first second : Nat} (same : cpuKey first = cpuKey second) :
    first = second := by
  have shared := congrArg String.toList same
  simp only [cpuKey, String.toList_append, List.append_cancel_right_eq] at shared
  exact Number.decimal_inj.1 (String.toList_inj.1 shared)

theorem plain_cpu_key (cpus : Nat) : isPlain style (cpuKey cpus) := by
  rw [plain_iff]
  constructor
  · simp [cpuKey]
  · rw [cpuKey, String.toList_append, isUnbroken, List.all_append, Bool.and_eq_true]
    constructor
    · apply unbroken_iff.2
      intro character digit
      exact not_is_break_of_is_digit (Number.is_digit_of_mem_decimal digit)
    · cases style <;> rfl

/-- Passes and averages are filed under numbers of CPUs. -/
structure Results.Keyed (results : Results) : Prop where
  data : ∀ key ∈ results.data, ∃ cpus, key = cpuKey cpus
  average : ∀ key ∈ results.average, ∃ cpus, key = cpuKey cpus

theorem keyed_empty : Results.empty.Keyed := by
  constructor
  · intro key present
    exact absurd present Std.TreeMap.not_mem_emptyc
  · intro key present
    exact absurd present Std.TreeMap.not_mem_emptyc

theorem keyed_record {results : Results} (keyed : results.Keyed) (cpus : Nat)
    (passes : List Pass) : (results.record (cpuKey cpus) passes).Keyed := by
  constructor
  · intro key present
    rcases Std.TreeMap.mem_insert.1 present with same | old
    · exact ⟨cpus, (Std.LawfulEqOrd.eq_of_compare same).symm⟩
    · exact keyed.data key old
  · intro key present
    rcases Std.TreeMap.mem_insert.1 present with same | old
    · exact ⟨cpus, (Std.LawfulEqOrd.eq_of_compare same).symm⟩
    · exact keyed.average key old

theorem separable_keyed {Value : Type} (table : Std.TreeMap String Value) (encode : Value → Json)
    (keyed : ∀ key ∈ table, ∃ cpus, key = cpuKey cpus)
    (below : ∀ value, Separable style (encode value)) :
    Separable style (.object (table.toList.map fun (key, value) => (key, encode value))) := by
  apply separable_record (table.toList.map Prod.fst) (map_fst_keyed table encode)
    (nodup_keys table)
  · rw [List.all_eq_true]
    intro key listed
    obtain ⟨entry, member, rfl⟩ := List.mem_map.1 listed
    have found := Std.TreeMap.mem_toList_iff_getElem?_eq_some.1 member
    obtain ⟨cpus, same⟩ := keyed entry.1 (mem_of_get found)
    rw [same]
    exact plain_cpu_key cpus
  · intro member here
    obtain ⟨entry, _, rfl⟩ := List.mem_map.1 here
    exact below entry.2

theorem mem_keyed_leaves_iff {Value : Type} {table : Std.TreeMap String Value}
    {encode : Value → Json} {leaf : Json.Leaf} :
    leaf ∈ (Json.object (table.toList.map fun (key, value) => (key, encode value))).leaves ↔
      ∃ key value, table[key]? = some value ∧
        ∃ inner ∈ (encode value).leaves, (Json.Step.member key).before inner = leaf := by
  rw [Json.leaves, Json.member_leaves_eq, List.flatMap_map, List.mem_flatMap]
  constructor
  · intro present
    obtain ⟨entry, held, inside⟩ := present
    obtain ⟨inner, below, rfl⟩ := List.mem_map.1 inside
    exact ⟨entry.1, entry.2, Std.TreeMap.mem_toList_iff_getElem?_eq_some.1 held, inner, below, rfl⟩
  · intro present
    obtain ⟨key, value, found, inner, below, rfl⟩ := present
    exact ⟨(key, value), Std.TreeMap.mem_toList_iff_getElem?_eq_some.2 found,
      List.mem_map_of_mem below⟩

theorem is_scalar_float (value : Float) : isScalar (Json.float value) := by
  rw [Json.float]
  split <;> rfl

theorem separable_averages (averages : Averages) : Separable style averages.toJson := by
  apply Separable.table
  · rw [map_fst_keyed]
    exact nodup_keys averages
  · intro member here
    obtain ⟨entry, _, rfl⟩ := List.mem_map.1 here
    exact is_scalar_float entry.2

theorem separable_passes (passes : List Pass) : Separable style (Pass.listToJson passes) := by
  apply Separable.array
  intro item here
  obtain ⟨pass, _, rfl⟩ := List.mem_map.1 here
  exact separable_pass pass

theorem separable_average_table {results : Results} (keyed : results.Keyed) :
    Separable style results.averageToJson :=
  separable_keyed results.average Averages.toJson keyed.average separable_averages

theorem separable_run (info : RunInfo) : Separable style info.toJson := by
  apply separable_record RunInfo.fieldNames rfl (by decide) (by cases style <;> decide)
  have text : ∀ value, Separable style (.string value) := fun value => Separable.scalar _ rfl
  have count : ∀ value, Separable style (Json.natural value) := fun value => Separable.scalar _ rfl
  simp [text, count, separable_optional text]

theorem separable_platform (platform : Platform) : Separable style platform.toJson := by
  apply separable_record Platform.fieldNames rfl (by decide) (by cases style <;> decide)
  have text : ∀ value, Separable style (.string value) := fun value => Separable.scalar _ rfl
  simp [text]

theorem separable_report {report : Report} (keyed : report.results.Keyed) :
    Separable style report.toJson := by
  apply separable_record ["run", "data", "average", "platform"] rfl (by decide)
    (by cases style <;> decide)
  have data : Separable style report.results.dataToJson :=
    separable_keyed report.results.data Pass.listToJson keyed.data separable_passes
  simp [separable_run, separable_platform, data, separable_average_table keyed]

end TraceOverhead
