import TraceOverhead.Proofs.Pass.Numbers
/-!
Averages over passes. Each is the mean of one field of one benchmark, over the passes of exactly
that benchmark that have the field; there is one for every field that some pass has.
-/

namespace TraceOverhead

/-- The numbers in a field of the passes of a name, in pass order. -/
def fieldValues (passes : List Pass) (name : String) (field : NumericField) : List Float :=
  (passes.filter fun pass => pass.name = name).filterMap fun pass => pass.result.number? field

section Aggregate

def keepAverage (passes : List FlatMap) (averages : Averages) (path : String) : Averages :=
  match averageAt? passes path with
  | some average => averages.insert path average
  | none => averages

theorem get_keep_average (passes : List FlatMap) (averages : Averages) (path key : String) :
    (keepAverage passes averages path)[key]? =
      if path = key then (averageAt? passes key).or averages[key]? else averages[key]? := by
  rw [keepAverage]
  by_cases same : path = key
  · subst same
    cases averageAt? passes path with
    | none => simp
    | some average => simp
  · cases averageAt? passes path with
    | none => simp [same]
    | some average => simp [Std.TreeMap.getElem?_insert, same]

theorem get_keep_averages (passes : List FlatMap) (paths : List String) (averages : Averages)
    (key : String) :
    (paths.foldl (keepAverage passes) averages)[key]? =
      if key ∈ paths then (averageAt? passes key).or averages[key]? else averages[key]? := by
  induction paths generalizing averages with
  | nil => simp
  | cons path paths induction =>
      rw [List.foldl_cons, induction, get_keep_average]
      by_cases same : path = key
      · subst same
        cases averageAt? passes path <;> simp
      · have other : ¬ key = path := fun equal => same equal.symm
        simp [same, other]

theorem mem_paths_of_number {passes : List FlatMap} {entries : FlatMap} {key : String}
    {value : Float} (here : entries ∈ passes) (held : FlatMap.number? entries key = some value) :
    key ∈ passes.flatMap fun entries => entries.toList.map Prod.fst := by
  obtain ⟨leaf, found, _⟩ := number_iff.1 held
  have listed := Std.TreeMap.mem_toList_iff_getElem?_eq_some.2 found
  exact List.mem_flatMap.2 ⟨entries, here, List.mem_map_of_mem listed⟩

theorem get_aggregate (passes : List FlatMap) (key : String) :
    (aggregate passes)[key]? = averageAt? passes key := by
  have gathered := get_keep_averages passes
    (passes.flatMap fun entries => entries.toList.map Prod.fst) ∅ key
  have folded : aggregate passes = (passes.flatMap fun entries =>
    entries.toList.map Prod.fst).foldl (keepAverage passes) ∅ := rfl
  rw [folded, gathered]
  have nothing : (∅ : Averages)[key]? = none := Std.TreeMap.getElem?_emptyc
  rw [nothing, Option.or_none]
  by_cases present : key ∈ passes.flatMap fun entries => entries.toList.map Prod.fst
  · rw [if_pos present]
  · rw [if_neg present, averageAt?]
    have unheard : occurrences passes key = [] := by
      rw [occurrences, List.filterMap_eq_nil_iff]
      intro entries here
      cases held : FlatMap.number? entries key with
      | none => rfl
      | some value => exact absurd (mem_paths_of_number here held) present
    rw [unheard]

end Aggregate

section Fields

theorem occurrences_at_average_key (passes : List Pass) (name : String) (field : NumericField) :
    occurrences (passes.map fun pass => flatten .dotted pass.toJson) (averageKey name field) =
      fieldValues passes name field := by
  rw [occurrences, fieldValues, List.filterMap_map, List.filterMap_filter]
  apply List.filterMap_congr
  intro pass _
  rw [Function.comp_apply, number_at_average_key]
  simp

theorem average_at_average_key (passes : List Pass) (name : String) (field : NumericField) :
    (averagePasses passes)[averageKey name field]? =
      match fieldValues passes name field with
      | [] => none
      | values => some (mean values) := by
  rw [averagePasses, get_aggregate]
  cases heard : fieldValues passes name field <;>
    simp [averageAt?, occurrences_at_average_key, heard]

theorem average_key_of_mem {passes : List Pass} {key : String}
    (present : key ∈ averagePasses passes) :
    ∃ name field, averageKey name field = key ∧ fieldValues passes name field ≠ [] := by
  have found := Std.TreeMap.mem_iff_isSome_getElem?.1 present
  rw [averagePasses, get_aggregate, averageAt?] at found
  cases heard : occurrences (passes.map fun pass => flatten .dotted pass.toJson) key with
  | nil =>
      rw [heard] at found
      contradiction
  | cons value values =>
      have counted : value ∈ occurrences (passes.map fun pass => flatten .dotted pass.toJson) key :=
        heard ▸ List.mem_cons_self
      obtain ⟨entries, listed, held⟩ := List.mem_filterMap.1 counted
      obtain ⟨pass, _, rfl⟩ := List.mem_map.1 listed
      obtain ⟨field, rfl, _⟩ := number_flatten_pass_iff.1 held
      refine ⟨pass.name, field, rfl, ?_⟩
      rw [← occurrences_at_average_key, heard]
      exact List.cons_ne_nil value values

theorem field_values_ne_nil_iff {passes : List Pass} {name : String} {field : NumericField} :
    fieldValues passes name field ≠ [] ↔
      ∃ pass ∈ passes, pass.name = name ∧ (pass.result.number? field).isSome := by
  rw [fieldValues, ne_eq, List.filterMap_eq_nil_iff]
  simp only [List.mem_filter, decide_eq_true_eq, and_imp, not_forall, Option.isSome_iff_ne_none,
    exists_prop]

/-- There is one average for every field that some pass of a name has, under a key of its own, and
it is the mean over exactly the passes of that name that have the field. -/
theorem average_passes_by_field (passes : List Pass) :
    (∀ key, key ∈ averagePasses passes ↔
      ∃ name field, averageKey name field = key ∧
        ∃ pass ∈ passes, pass.name = name ∧ (pass.result.number? field).isSome) ∧
    (∀ name field other otherField,
      averageKey name field = averageKey other otherField ↔ name = other ∧ field = otherField) ∧
    ∀ name field value, (averagePasses passes)[averageKey name field]? = some value ↔
      fieldValues passes name field ≠ [] ∧
        value = (fieldValues passes name field).foldl (· + ·) 0.0 /
          Number.ofNat (fieldValues passes name field).length := by
  refine ⟨?_, ?_, ?_⟩
  · intro key
    simp only [← field_values_ne_nil_iff]
    constructor
    · exact average_key_of_mem
    · intro named
      obtain ⟨name, field, rfl, counted⟩ := named
      rw [Std.TreeMap.mem_iff_isSome_getElem?, average_at_average_key]
      cases heard : fieldValues passes name field with
      | nil => contradiction
      | cons value values => rfl
  · intro name field other otherField
    constructor
    · exact average_key_inj
    · intro same
      rw [same.1, same.2]
  · intro name field value
    rw [average_at_average_key]
    cases fieldValues passes name field with
    | nil => simp
    | cons first values => simp [mean, eq_comm]

end Fields

end TraceOverhead
