import TraceOverhead.Proofs.Pass.Fields
import TraceOverhead.Proofs.Pass.Shape
/-!
The numbers of a pass are those of its fields: its tree holds no others, and its flat view has each
of them under the key of its field.
-/

namespace TraceOverhead

section Results

open Json

variable {trail : List Step} {value : Float}

theorem mem_numbers_baseline {result : BaselineResult} :
    (trail, value) ∈ result.toJson.numbers ↔
      ∃ quantity : Quantity, [Step.member quantity.name] = trail ∧
        result.number? quantity = some value := by
  rw [BaselineResult.toJson, mem_numbers_object]
  simp only [List.mem_cons, List.not_mem_nil, or_false, exists_eq_or_imp, exists_eq_left,
    mem_numbers_float, mem_numbers_optional_float, not_mem_numbers_strings, and_false, exists_false,
    false_or]
  constructor
  · intro cases
    obtain ⟨rest, rfl, rfl, held⟩ | ⟨rest, rfl, rfl, held⟩ := cases
    · exact ⟨.startTime, rfl, held⟩
    · exact ⟨.runTime, rfl, held⟩
  · intro named
    obtain ⟨quantity, rfl, held⟩ := named
    cases quantity with
    | startTime => exact .inl ⟨[], rfl, rfl, held⟩
    | runTime => exact .inr ⟨[], rfl, rfl, held⟩
    | perEvent | startOverhead | startOverheadPercent | eventCount => contradiction

theorem mem_numbers_event_count {eventCount : Option UInt64} :
    (∃ member ∈ (eventCount.map fun count => ("event_count", Json.natural count.toNat)).toList,
      ∃ rest, Step.member member.1 :: rest = trail ∧ (rest, value) ∈ member.2.numbers) ↔
      [Step.member "event_count"] = trail ∧
        (eventCount.map fun count => Number.ofNat count.toNat) = some value := by
  cases eventCount with
  | none => simp
  | some count => simp [mem_numbers_natural]

theorem mem_numbers_tracing {result : TracingResult} :
    (trail, value) ∈ result.toJson.numbers ↔
      ∃ quantity : Quantity, [Step.member quantity.name] = trail ∧
        result.number? quantity = some value := by
  rw [TracingResult.toJson, mem_numbers_object]
  simp only [List.mem_append, or_and_right, exists_or, mem_numbers_event_count]
  simp only [List.mem_cons, List.not_mem_nil, or_false, exists_eq_or_imp, exists_eq_left,
    mem_numbers_float, mem_numbers_optional_float, not_mem_numbers_strings, and_false, exists_false,
    false_or, or_assoc]
  constructor
  · intro cases
    obtain ⟨rest, rfl, rfl, held⟩ | ⟨rest, rfl, rfl, held⟩ | ⟨rest, rfl, rfl, held⟩ |
      ⟨rest, rfl, rfl, held⟩ | ⟨rest, rfl, rfl, held⟩ | ⟨rfl, held⟩ := cases
    · exact ⟨.startTime, rfl, held⟩
    · exact ⟨.runTime, rfl, held⟩
    · exact ⟨.perEvent, rfl, held⟩
    · exact ⟨.startOverhead, rfl, held⟩
    · exact ⟨.startOverheadPercent, rfl, held⟩
    · exact ⟨.eventCount, rfl, held⟩
  · intro named
    obtain ⟨quantity, rfl, held⟩ := named
    cases quantity with
    | startTime => exact .inl ⟨[], rfl, rfl, held⟩
    | runTime => exact .inr (.inl ⟨[], rfl, rfl, held⟩)
    | perEvent => exact .inr (.inr (.inl ⟨[], rfl, rfl, held⟩))
    | startOverhead => exact .inr (.inr (.inr (.inl ⟨[], rfl, rfl, held⟩)))
    | startOverheadPercent => exact .inr (.inr (.inr (.inr (.inl ⟨[], rfl, rfl, held⟩))))
    | eventCount => exact .inr (.inr (.inr (.inr (.inr ⟨rfl, held⟩))))

/-- The numbers of a result are those of its fields. -/
theorem mem_numbers_result {result : PassResult} :
    (trail, value) ∈ result.toJson.numbers ↔
      ∃ field : NumericField,
        [Step.member field.part.name, Step.member field.quantity.name] = trail ∧
          result.number? field = some value := by
  cases result with
  | user measurement =>
      rw [PassResult.toJson, UserMeasurement.toJson, mem_numbers_object]
      simp only [List.mem_cons, List.not_mem_nil, or_false, exists_eq_or_imp, exists_eq_left,
        mem_numbers_baseline, mem_numbers_tracing]
      constructor
      · intro cases
        obtain ⟨rest, rfl, quantity, rfl, held⟩ | ⟨rest, rfl, quantity, rfl, held⟩ |
          ⟨rest, rfl, quantity, rfl, held⟩ := cases
        · exact ⟨⟨.baseline, quantity⟩, rfl, held⟩
        · exact ⟨⟨.tracingDisabled, quantity⟩, rfl, held⟩
        · exact ⟨⟨.tracingEnabled, quantity⟩, rfl, held⟩
      · intro named
        obtain ⟨⟨part, quantity⟩, rfl, held⟩ := named
        cases part with
        | baseline => exact .inl ⟨_, rfl, quantity, rfl, held⟩
        | tracingDisabled => exact .inr (.inl ⟨_, rfl, quantity, rfl, held⟩)
        | tracingEnabled => exact .inr (.inr ⟨_, rfl, quantity, rfl, held⟩)
  | kernel measurement =>
      rw [PassResult.toJson, KernelMeasurement.toJson, mem_numbers_object]
      simp only [List.mem_cons, List.not_mem_nil, or_false, exists_eq_or_imp, exists_eq_left,
        mem_numbers_object, mem_numbers_float]
      constructor
      · intro cases
        obtain ⟨rest, rfl, inner, rfl, rfl, held⟩ | ⟨rest, rfl, inner⟩ := cases
        · exact ⟨⟨.baseline, .runTime⟩, rfl, held⟩
        · obtain ⟨inner, rfl, rfl, held⟩ | ⟨inner, rfl, rfl, held⟩ := inner
          · exact ⟨⟨.tracingEnabled, .runTime⟩, rfl, held⟩
          · exact ⟨⟨.tracingEnabled, .perEvent⟩, rfl, held⟩
      · intro named
        obtain ⟨⟨part, quantity⟩, rfl, held⟩ := named
        cases part with
        | baseline =>
            cases quantity with
            | runTime => exact .inl ⟨_, rfl, [], rfl, rfl, held⟩
            | startTime | perEvent | startOverhead | startOverheadPercent | eventCount =>
                contradiction
        | tracingDisabled => contradiction
        | tracingEnabled =>
            cases quantity with
            | runTime => exact .inr ⟨_, rfl, .inl ⟨[], rfl, rfl, held⟩⟩
            | perEvent => exact .inr ⟨_, rfl, .inr ⟨[], rfl, rfl, held⟩⟩
            | startTime | startOverhead | startOverheadPercent | eventCount => contradiction

end Results

section Reading

open Flatten

theorem leaf_entry_field (name : String) (field : NumericField) (value : Json) :
    leafEntry .dotted ""
      ([.member name, .member field.part.name, .member field.quantity.name], value) =
        (averageKey name field, value) := by
  have inner : memberPath (memberPath name field.part.name) field.quantity.name =
      averageKey name field := by
    have part : field.part.name ≠ "" := by cases field.part <;> decide
    rw [averageKey, NumericField.path]
    by_cases empty : name = ""
    · simp [memberPath, empty, part]
    · simp [memberPath, empty, String.append_assoc]
  rw [← inner]
  rfl

theorem number_iff {entries : FlatMap} {key : String} {value : Float} :
    FlatMap.number? entries key = some value ↔
      ∃ held, entries[key]? = some held ∧ Json.float? held = some value := by
  rw [FlatMap.number?]
  cases entries[key]? with
  | none => simp
  | some held => cases held <;> simp [Json.float?]

/-- The flat view of a pass holds numbers where its fields do and nowhere else. -/
theorem number_flatten_pass_iff {pass : Pass} {key : String} {value : Float} :
    FlatMap.number? (flatten .dotted pass.toJson) key = some value ↔
      ∃ field, averageKey pass.name field = key ∧ pass.result.number? field = some value := by
  rw [number_iff]
  simp only [get_flatten_iff (separable_pass pass)]
  constructor
  · intro found
    obtain ⟨held, ⟨leaf, member, reached⟩, read⟩ := found
    rw [Pass.toJson, Json.leaves, Json.member_leaves_eq, List.flatMap_singleton] at member
    obtain ⟨inner, below, rfl⟩ := List.mem_map.1 member
    have same : inner.2 = held := congrArg Prod.snd reached
    obtain ⟨field, trail, number⟩ := mem_numbers_result.1
      (Json.mem_numbers_iff.2 ⟨inner, below, rfl, same ▸ read⟩)
    refine ⟨field, ?_, number⟩
    have path := congrArg Prod.fst reached
    rw [Json.Step.before, ← trail, leaf_entry_field] at path
    exact path
  · intro named
    obtain ⟨field, rfl, number⟩ := named
    obtain ⟨inner, below, trail, read⟩ :=
      Json.mem_numbers_iff.1 (mem_numbers_result.2 ⟨field, rfl, number⟩)
    refine ⟨inner.2, ⟨(Json.Step.member pass.name).before inner, ?_, ?_⟩, read⟩
    · rw [Pass.toJson, Json.leaves, Json.member_leaves_eq, List.flatMap_singleton]
      exact List.mem_map_of_mem below
    · rw [Json.Step.before, trail]
      exact leaf_entry_field pass.name field inner.2

theorem number_at_average_key {pass : Pass} {name : String} {field : NumericField} :
    FlatMap.number? (flatten .dotted pass.toJson) (averageKey name field) =
      if pass.name = name then pass.result.number? field else none := by
  apply Option.ext
  intro value
  rw [number_flatten_pass_iff]
  constructor
  · intro found
    obtain ⟨other, same, number⟩ := found
    obtain ⟨rfl, rfl⟩ := average_key_inj same
    rw [if_pos rfl]
    exact number
  · intro held
    split at held
    · rename_i same
      exact ⟨field, by rw [same], held⟩
    · contradiction

end Reading

end TraceOverhead
