import TraceOverhead.Json.Record
import TraceOverhead.Proofs.Flatten.Leaves
/-!
The numbers among the leaves of a tree, with the trails that lead to them, for the kinds of trees
that results are made of.
-/

namespace TraceOverhead

def finite? (value : Float) : Option Float := if Number.isFinite value then some value else none

namespace Json

def numbers (tree : Json) : List (List Step × Float) :=
  tree.leaves.filterMap fun leaf => (float? leaf.2).map fun value => (leaf.1, value)

section Numbers

variable {trail : List Step} {value : Float}

theorem mem_numbers_iff {tree : Json} :
    (trail, value) ∈ tree.numbers ↔
      ∃ leaf ∈ tree.leaves, leaf.1 = trail ∧ float? leaf.2 = some value := by
  rw [numbers, List.mem_filterMap]
  constructor
  · intro present
    obtain ⟨leaf, member, held⟩ := present
    obtain ⟨number, read, same⟩ := Option.map_eq_some_iff.1 held
    obtain ⟨rfl, rfl⟩ := Prod.mk.inj same
    exact ⟨leaf, member, rfl, read⟩
  · intro present
    obtain ⟨leaf, member, rfl, read⟩ := present
    exact ⟨leaf, member, by rw [read]; rfl⟩

theorem mem_numbers_float {number : Float} :
    (trail, value) ∈ (Json.float number).numbers ↔ trail = [] ∧ finite? number = some value := by
  rw [Json.float, finite?]
  cases Number.isFinite number with
  | false => simp [numbers, leaves]
  | true => simp [numbers, leaves, float?, Numeral.toFloat, eq_comm]

theorem mem_numbers_optional_float {number : Option Float} :
    (trail, value) ∈ (Json.optional Json.float number).numbers ↔
      trail = [] ∧ number.bind finite? = some value := by
  cases number with
  | none => simp [Json.optional, numbers, leaves]
  | some number => exact mem_numbers_float

theorem of_int_natural (count : Nat) : Number.ofInt count = Number.ofNat count := by
  have positive : ¬ (count : Int) < 0 := by omega
  simp [Number.ofInt, Number.ofNat, positive]

theorem mem_numbers_natural {count : Nat} :
    (trail, value) ∈ (Json.natural count).numbers ↔ trail = [] ∧ Number.ofNat count = value := by
  simp [Json.natural, numbers, leaves, float?, Numeral.toFloat, of_int_natural, eq_comm]

theorem item_leaves_strings (texts : List String) (index : Nat) (leaf : Leaf)
    (member : leaf ∈ itemLeaves index (texts.map Json.string)) : float? leaf.2 = none := by
  induction texts generalizing index with
  | nil => contradiction
  | cons text texts induction =>
      rw [List.map_cons, itemLeaves, List.mem_append] at member
      rcases member with first | rest
      · rw [List.mem_singleton.1 first]
        rfl
      · exact induction (index + 1) rest

theorem not_mem_numbers_strings {texts : List String} :
    (trail, value) ∉ (Json.strings texts).numbers := by
  intro present
  obtain ⟨leaf, member, _, read⟩ := mem_numbers_iff.1 present
  rw [item_leaves_strings texts 0 leaf member] at read
  contradiction

theorem mem_numbers_object {members : List (String × Json)} :
    (trail, value) ∈ (Json.object members).numbers ↔
      ∃ member ∈ members, ∃ rest, Step.member member.1 :: rest = trail ∧
        (rest, value) ∈ member.2.numbers := by
  rw [mem_numbers_iff, leaves, member_leaves_eq]
  constructor
  · intro present
    obtain ⟨leaf, below, rfl, read⟩ := present
    obtain ⟨member, here, inside⟩ := List.mem_flatMap.1 below
    obtain ⟨inner, held, rfl⟩ := List.mem_map.1 inside
    exact ⟨member, here, inner.1, rfl, mem_numbers_iff.2 ⟨inner, held, rfl, read⟩⟩
  · intro present
    obtain ⟨member, here, rest, rfl, inside⟩ := present
    obtain ⟨inner, held, rfl, read⟩ := mem_numbers_iff.1 inside
    exact ⟨(Step.member member.1).before inner,
      List.mem_flatMap.2 ⟨member, here, List.mem_map_of_mem held⟩, rfl, read⟩

end Numbers

end Json

end TraceOverhead
