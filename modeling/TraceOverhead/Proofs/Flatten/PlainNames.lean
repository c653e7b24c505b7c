import TraceOverhead.Proofs.Flatten.LastLeaf
/-!
Flat views of trees with ordinary names. A name is ordinary for a style if it is not empty and holds
no character that the style leads on with. Main statement: where all names are ordinary no two leaves
come under one path, at whatever depths they are, so the flat view has exactly one entry for each
leaf.
-/

namespace TraceOverhead

namespace Json

mutual

/-- All names of members, at every depth. -/
def names : Json → List String
  | .array items => itemNames items
  | .object members => memberNames members
  | .null | .bool _ | .number _ | .string _ => []

def itemNames : List Json → List String
  | [] => []
  | item :: items => names item ++ itemNames items

def memberNames : List (String × Json) → List String
  | [] => []
  | (name, value) :: members => name :: (names value ++ memberNames members)

end

theorem mem_item_names_iff {items : List Json} {name : String} :
    name ∈ itemNames items ↔ ∃ item ∈ items, name ∈ item.names := by
  induction items with
  | nil => simp [itemNames]
  | cons item items induction => simp [itemNames, induction]

theorem mem_member_names_iff {members : List (String × Json)} {name : String} :
    name ∈ memberNames members ↔ ∃ member ∈ members, name = member.1 ∨ name ∈ member.2.names := by
  induction members with
  | nil => simp [memberNames]
  | cons member members induction => simp [memberNames, induction, or_assoc]

end Json

namespace Flatten

open Json

variable {style : IndexStyle}

theorem plain_name_iff {name : String} :
    isPlain style name ↔
      name ≠ "" ∧ '.' ∉ name.toList ∧ (style = .bracketed → '[' ∉ name.toList) := by
  rw [plain_iff, unbroken_iff]
  cases style with
  | dotted =>
      simp only [isBreak, decide_eq_false_iff_not]
      grind
  | bracketed =>
      simp only [isBreak, Bool.or_eq_false_iff, decide_eq_false_iff_not]
      grind

/-- Where every name is ordinary the names side by side tell the paths below them apart. -/
theorem separable_of_plain_names {tree : Json} (ordered : Ordered tree)
    (plain : ∀ name ∈ tree.names, isPlain style name) : Separable style tree := by
  induction ordered with
  | scalar value flat => exact .scalar value flat
  | array items below induction =>
      apply Separable.array
      intro item member
      apply induction item member
      intro name inside
      exact plain name (mem_item_names_iff.2 ⟨item, member, inside⟩)
  | object members increasing below induction =>
      apply Separable.record
      · exact nodup_names_of_increasing increasing
      · intro member here
        exact plain member.1 (mem_member_names_iff.2 ⟨member, here, .inl rfl⟩)
      · intro member here
        apply induction member here
        intro name inside
        exact plain name (mem_member_names_iff.2 ⟨member, here, .inr inside⟩)

/-- If all names are ordinary every leaf has an entry of its own under its path, and there are no
other entries. -/
theorem flat_view_of_plain_names (style : IndexStyle) (tree : Json)
    (plain : ∀ name ∈ tree.canonical.names,
      name ≠ "" ∧ '.' ∉ name.toList ∧ (style = .bracketed → '[' ∉ name.toList)) :
    (∀ trail value other found, tree.canonical.LeafAt trail value →
        tree.canonical.LeafAt other found → leafPath style trail = leafPath style other →
          trail = other ∧ value = found) ∧
      (∀ path value, (flatten style tree)[path]? = some value ↔
        ∃ trail, tree.canonical.LeafAt trail value ∧ leafPath style trail = path) ∧
      (flatten style tree).size = tree.canonical.leaves.length := by
  have ordered := ordered_canonical tree
  have separable : Separable style tree.canonical :=
    separable_of_plain_names ordered fun name inside => plain_name_iff.2 (plain name inside)
  have same : flatten style tree = flatten style tree.canonical := by
    rw [flatten, flatten, canonical_eq_of_ordered ordered]
  refine ⟨?_, ?_, ?_⟩
  · intro trail value other found leaf another together
    have here := (mem_leaves_iff _ _ _).2 leaf
    have there := (mem_leaves_iff _ _ _).2 another
    rw [← trail_path_eq_leaf_path, ← trail_path_eq_leaf_path] at together
    have one := List.inj_on_of_nodup_map (nodup_leaf_paths separable "") here there together
    exact Prod.mk.inj one
  · intro path value
    rw [same, get_flatten_iff separable]
    constructor
    · rintro ⟨⟨trail, held⟩, here, entry⟩
      rw [leaf_entry_eq] at entry
      obtain ⟨rfl, rfl⟩ := Prod.mk.inj entry
      exact ⟨trail, (mem_leaves_iff _ _ _).1 here, rfl⟩
    · rintro ⟨trail, leaf, rfl⟩
      exact ⟨(trail, value), (mem_leaves_iff _ _ _).2 leaf, leaf_entry_eq ..⟩
  · have listed := (flatten_perm separable).length_eq
    rw [List.length_map, Std.TreeMap.length_toList, ← same] at listed
    exact listed

/-- Names that look like places, at several depths below an array. -/
def indexLike : Json :=
  .array
    [.object [("0", .array [.bool true, .object [("0]", Json.natural 1), ("1", .null)]]),
      ("10", .string "a")],
      .null, .array [.array [.bool false]]]

theorem flat_view_of_index_like_names :
    (∀ name ∈ indexLike.canonical.names,
        name ≠ "" ∧ '.' ∉ name.toList ∧ (IndexStyle.bracketed = .bracketed → '[' ∉ name.toList)) ∧
      (flatten .bracketed indexLike).size = 4 := by
  have plain : ∀ name ∈ indexLike.canonical.names,
      name ≠ "" ∧ '.' ∉ name.toList ∧ (IndexStyle.bracketed = .bracketed → '[' ∉ name.toList) := by
    decide +kernel
  exact ⟨plain, (flat_view_of_plain_names .bracketed indexLike plain).2.2⟩

end Flatten
end TraceOverhead
