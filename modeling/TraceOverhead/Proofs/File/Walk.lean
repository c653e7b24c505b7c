import TraceOverhead.Proofs.File.Tree
/-!
What a walk finds of a tree. It comes to whatever lies in a directory that can be opened by its
path, so it comes to everything if no directory is too deep for its path.
-/

namespace TraceOverhead.FileTree

variable {tree : FileTree} {working here : Location} {path : String} {names : List String}
  {entry : FileEntry} {found : Finding}

/-- Whatever is there lies in a directory. -/
def Grounded (tree : FileTree) : Prop :=
  ∀ (above : Location) name entry, tree[above ++ [name]]? = some entry →
    above = [] ∨ tree[above]? = some FileEntry.directory

theorem grounded_iff : tree.Grounded ↔ ∀ held ∈ tree.toList,
    held.1.dropLast = [] ∨ tree[held.1.dropLast]? = some FileEntry.directory := by
  constructor
  · rintro grounded ⟨location, entry⟩ listed
    have held := Std.TreeMap.mem_toList_iff_getElem?_eq_some.1 listed
    rcases List.eq_nil_or_concat' location with rfl | ⟨above, name, rfl⟩
    · exact .inl rfl
    · simpa using grounded above name entry held
  · intro listed above name entry held
    simpa using listed _ (Std.TreeMap.mem_toList_iff_getElem?_eq_some.2 held)

instance : Decidable tree.Grounded := decidable_of_iff _ grounded_iff.symm

/-- Whether what a path leads to can be opened by that path. -/
def Openable (path : String) : Prop := byteLength path < pathLimit

theorem opening_failure_eq_none_iff : openingFailure? path = none ↔ Openable path := by
  rw [openingFailure?, Openable]
  split <;> simp <;> omega

theorem mem_below_iff :
    (names, entry) ∈ tree.below here ↔ names ≠ [] ∧ tree[here ++ names]? = some entry := by
  rw [below, List.mem_filterMap]
  constructor
  · rintro ⟨⟨location, held⟩, listed, kept⟩
    dsimp only at kept
    split at kept
    · rename_i under
      rw [Bool.and_eq_true, List.isPrefixOf_iff_prefix, decide_eq_true_iff] at under
      obtain ⟨⟨rest, rfl⟩, other⟩ := under
      rw [List.drop_left] at kept
      obtain ⟨rfl, rfl⟩ := Prod.mk.inj (Option.some.inj kept)
      exact ⟨by simpa using other, Std.TreeMap.mem_toList_iff_getElem?_eq_some.1 listed⟩
    · contradiction
  · rintro ⟨more, held⟩
    refine ⟨(here ++ names, entry), Std.TreeMap.mem_toList_iff_getElem?_eq_some.2 held, ?_⟩
    simp [more]

theorem above_of_grounded {above : List String} {name : String} (grounded : tree.Grounded)
    (held : tree[here ++ (above ++ [name])]? = some entry) :
    above = [] ∨ tree[here ++ above]? = some FileEntry.directory := by
  rw [← List.append_assoc] at held
  rcases grounded (here ++ above) name entry held with root | inside
  · exact .inl (List.append_eq_nil_iff.1 root).2
  · exact .inr inside

section Walks

variable (arrives : tree.arrive .look working path = .ok (.directory here))
include arrives

/-- A walk comes to what lies in a directory that can be opened. -/
theorem mem_walk_iff : (names, found) ∈ tree.walk working path ↔
    (names = [] ∧ found = .directory none) ∨
      ∃ entry, names ≠ [] ∧ tree[here ++ names]? = some entry ∧
        Openable (Path.extend path names.dropLast) ∧
        found = finding (Path.extend path names) entry := by
  rw [walk, arrives]
  simp only [List.mem_cons, Prod.mk.injEq, List.mem_map, List.mem_filter, Prod.exists,
    Option.isNone_iff_eq_none, opening_failure_eq_none_iff, mem_below_iff]
  refine or_congr_right ⟨?_, ?_⟩
  · rintro ⟨_, entry, ⟨⟨more, held⟩, opened⟩, rfl, rfl⟩
    exact ⟨entry, more, held, opened, rfl⟩
  · rintro ⟨entry, more, held, opened, rfl⟩
    exact ⟨names, entry, ⟨⟨more, held⟩, opened⟩, rfl, rfl⟩

theorem openable_of_arrives : Openable path := (arrive_ok arrives).2.2.1

/-- If no directory that a walk comes to fails to open, the walk comes to all directories. -/
theorem openable_of_walk (grounded : tree.Grounded)
    (opened : ∀ names failure, (names, Finding.directory failure) ∈ tree.walk working path →
      failure = none)
    (names : List String)
    (held : names = [] ∨ tree[here ++ names]? = some FileEntry.directory) :
    Openable (Path.extend path names) := by
  induction names using List.reverseRecOn with
  | nil => exact openable_of_arrives arrives
  | append_singleton above name induction =>
      have directory := held.resolve_left (by simp)
      have upper := above_of_grounded grounded directory
      have reached := (mem_walk_iff arrives).2 (.inr ⟨.directory, by simp, directory,
        by simpa using induction upper, rfl⟩)
      exact opening_failure_eq_none_iff.1 (opened _ _ reached)

/-- Then it comes to everything. -/
theorem mem_walk_of_opened (grounded : tree.Grounded)
    (opened : ∀ names failure, (names, Finding.directory failure) ∈ tree.walk working path →
      failure = none)
    (more : names ≠ []) (held : tree[here ++ names]? = some entry) :
    (names, finding (Path.extend path names) entry) ∈ tree.walk working path := by
  refine (mem_walk_iff arrives).2 (.inr ⟨entry, more, held, ?_, rfl⟩)
  apply openable_of_walk arrives grounded opened
  rw [← List.dropLast_append_getLast more] at held
  exact above_of_grounded grounded held

end Walks

end TraceOverhead.FileTree
