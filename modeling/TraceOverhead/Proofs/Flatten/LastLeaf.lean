import TraceOverhead.Proofs.Json.Ordered
/-!
Flat views of arbitrary trees. Names may hold dots or be empty, so several leaves may come under one
path. Main statement: whatever the names are, the flat view has an entry at the paths of the leaves
and nowhere else, and what it holds there is the leaf that a depth-first walk through the tree comes
to last.
-/

namespace TraceOverhead.Flatten

open Json

section Paths

variable {style : IndexStyle}

/-- What a step adds to a path that is not empty. -/
def stepText (style : IndexStyle) : Step → String
  | .member name => "." ++ name
  | .item index => match style with
    | .dotted => "." ++ Number.decimal index
    | .bracketed => "[" ++ Number.decimal index ++ "]"

def trailText (style : IndexStyle) (trail : List Step) : String :=
  (trail.map (stepText style)).foldr (· ++ ·) ""

/-- The path of a trail, where empty names that nothing comes before leave no mark and the first name
after them has no dot. -/
def leafPath (style : IndexStyle) (trail : List Step) : String :=
  match trail.dropWhile fun step => step = .member "" with
  | .member name :: rest => name ++ trailText style rest
  | rest => trailText style rest

theorem step_path_eq_append {path : String} (nonempty : path ≠ "") (step : Step) :
    stepPath style path step = path ++ stepText style step := by
  cases step with
  | member name => simp [stepPath, memberPath, nonempty, stepText, String.append_assoc]
  | item index => cases style <;> simp [stepPath, itemPath, stepText, String.append_assoc]

theorem trail_path_eq_append {path : String} (nonempty : path ≠ "") (trail : List Step) :
    trailPath style path trail = path ++ trailText style trail := by
  induction trail generalizing path with
  | nil => simp [trailPath, trailText]
  | cons step trail induction =>
      have further : stepPath style path step ≠ "" := by
        rw [step_path_eq_append nonempty]
        simp [nonempty]
      change trailPath style (stepPath style path step) trail = _
      rw [induction further, step_path_eq_append nonempty, String.append_assoc]
      rfl

theorem trail_path_eq_leaf_path (trail : List Step) : trailPath style "" trail = leafPath style trail := by
  induction trail with
  | nil => rfl
  | cons step trail induction =>
      change trailPath style (stepPath style "" step) trail = _
      cases step with
      | member name =>
          by_cases empty : name = ""
          · subst empty
            rw [leafPath, List.dropWhile_cons_of_pos (by simp)]
            exact induction
          · rw [leafPath, List.dropWhile_cons_of_neg (by simpa using empty)]
            exact trail_path_eq_append empty trail
      | item index =>
          have reached : stepPath style "" (.item index) = stepText style (.item index) := by
            cases style <;> simp [stepPath, itemPath, stepText]
          have nonempty : stepText style (.item index) ≠ "" := by
            cases style <;> simp [stepText]
          rw [leafPath, List.dropWhile_cons_of_neg (by simp), reached]
          exact trail_path_eq_append nonempty trail

example : leafPath .bracketed [.member "", .member "a", .member "", .item 0] = "a.[0]" := by decide

end Paths

/-- Of the leaves that come under one path, the one that a depth-first walk comes to last. -/
structure LastLeaf (style : IndexStyle) (tree : Json) (path : String) (trail : List Step)
    (value : Json) : Prop where
  leaf : tree.LeafAt trail value
  rendered : leafPath style trail = path
  last : ∀ other found, tree.LeafAt other found → leafPath style other = path →
    other = trail ∨ TrailPrecedes other trail

theorem mem_filed_iff {Value : Type} {pairs : List (String × Value)} {key : String} :
    key ∈ pairs.foldl insertEntry ∅ ↔ ∃ pair ∈ pairs, pair.1 = key := by
  induction pairs using List.reverseRecOn with
  | nil => simp
  | append_singleton pairs pair induction =>
      rw [List.foldl_append, List.foldl_cons, List.foldl_nil, insertEntry, Std.TreeMap.mem_insert,
        induction, Std.compare_eq_iff_eq]
      simp only [List.mem_append, List.mem_singleton]
      constructor
      · rintro (rfl | ⟨other, member, rfl⟩)
        · exact ⟨pair, .inr rfl, rfl⟩
        · exact ⟨other, .inl member, rfl⟩
      · rintro ⟨other, member | rfl, rfl⟩
        · exact .inr ⟨other, member, rfl⟩
        · exact .inl rfl

theorem leaf_entry_eq (style : IndexStyle) (leaf : Leaf) :
    leafEntry style "" leaf = (leafPath style leaf.1, leaf.2) := by
  rw [leafEntry, trail_path_eq_leaf_path]

/-- In a tree in order the leaf that was filed last under a path is the last to be come to. -/
theorem last_leaf_iff {style : IndexStyle} {tree : Json} (ordered : Ordered tree) {path : String}
    {value : Json} :
    (∃ earlier later, tree.leaves.map (leafEntry style "") = earlier ++ (path, value) :: later ∧
        ∀ pair ∈ later, pair.1 ≠ path) ↔
      ∃ trail, LastLeaf style tree path trail value := by
  have increasing := increasing_leaves ordered
  constructor
  · rintro ⟨earlier, later, split, apart⟩
    obtain ⟨first, second, listed, rfl, rest⟩ := List.map_eq_append_iff.1 split
    obtain ⟨⟨trail, held⟩, others, rfl, entry, rfl⟩ := List.map_eq_cons_iff.1 rest
    rw [leaf_entry_eq] at entry
    obtain ⟨rfl, rfl⟩ := Prod.mk.inj entry
    have here : (trail, held) ∈ tree.leaves := by simp [listed]
    refine ⟨trail, (mem_leaves_iff _ _ _).1 here, rfl, ?_⟩
    intro other found leaf same
    have there := (mem_leaves_iff _ _ _).2 leaf
    rw [listed] at there increasing
    rcases List.mem_append.1 there with before | after
    · exact .inr ((List.pairwise_append.1 increasing).2.2 _ before _ List.mem_cons_self)
    · rcases List.mem_cons.1 after with this | after
      · exact .inl (Prod.mk.inj this).1
      · have other := apart _ (List.mem_map_of_mem after)
        rw [leaf_entry_eq] at other
        exact absurd same other
  · rintro ⟨trail, leaf, rfl, last⟩
    obtain ⟨first, second, listed⟩ := List.append_of_mem ((mem_leaves_iff _ _ _).2 leaf)
    refine ⟨first.map (leafEntry style ""), second.map (leafEntry style ""), ?_, ?_⟩
    · rw [listed, List.map_append, List.map_cons, leaf_entry_eq]
    · intro pair member same
      obtain ⟨⟨other, found⟩, after, rfl⟩ := List.mem_map.1 member
      rw [leaf_entry_eq] at same
      have there : (other, found) ∈ tree.leaves := by simp [listed, after]
      rw [listed] at increasing
      have follows : TrailPrecedes trail other :=
        (List.pairwise_cons.1 (List.pairwise_append.1 increasing).2.1).1 _ after
      rcases last other found ((mem_leaves_iff _ _ _).1 there) same with rfl | precedes
      · exact trail_precedes_asymm follows follows
      · exact trail_precedes_asymm follows precedes

/-- The flat view holds the last leaf of every path, and the objects of the tree are gone through in
the byte order of their names. A tree that is in this order is read as it is. -/
theorem flat_view_of_last_leaves (style : IndexStyle) (tree : Json) :
    tree.canonical.Ordered ∧ (tree.canonical = tree ↔ tree.Ordered) ∧
      (∀ path, path ∈ flatten style tree ↔
        ∃ trail value, tree.canonical.LeafAt trail value ∧ leafPath style trail = path) ∧
      ∀ path value, (flatten style tree)[path]? = some value ↔
        ∃ trail, LastLeaf style tree.canonical path trail value := by
  have ordered := ordered_canonical tree
  have filed : flatten style tree =
      (tree.canonical.leaves.map (leafEntry style "")).foldl insertEntry ∅ := insert_leaves_eq ..
  refine ⟨ordered, ⟨fun same => same ▸ ordered, canonical_eq_of_ordered⟩, ?_, ?_⟩
  · intro path
    rw [filed, mem_filed_iff]
    constructor
    · rintro ⟨pair, member, rfl⟩
      obtain ⟨⟨trail, value⟩, here, rfl⟩ := List.mem_map.1 member
      rw [leaf_entry_eq]
      exact ⟨trail, value, (mem_leaves_iff _ _ _).1 here, rfl⟩
    · rintro ⟨trail, value, leaf, rfl⟩
      have here := (mem_leaves_iff _ _ _).2 leaf
      exact ⟨_, List.mem_map_of_mem here, by rw [leaf_entry_eq]⟩
  · intro path value
    rw [filed, get_filed_iff]
    exact last_leaf_iff ordered

end TraceOverhead.Flatten
