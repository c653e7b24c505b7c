import TraceOverhead.Proofs.File.Tree
/-!
Making directories. Whatever becomes of it, a tree only gets directories where nothing was. Main
statements: if it succeeds, the path leads to a directory, and directories that are there are not
made again.
-/

namespace TraceOverhead.FileTree

variable {tree other more : FileTree} {here there working : Location} {names : List String}
  {slashed ended : Bool} {purpose : Purpose} {path : String} {paths : List String}

section Additions

/-- Another tree has at most directories more. -/
def Adds (tree other : FileTree) : Prop :=
  ∀ location : Location, other[location]? = tree[location]? ∨
    tree[location]? = none ∧ other[location]? = some FileEntry.directory

/-- At one location another tree has at most a directory more. -/
def Spares (tree other : FileTree) (location : Location) : Prop :=
  other[location]? = tree[location]? ∨
    tree[location]? = none ∧ other[location]? = some FileEntry.directory

theorem adds_refl (tree : FileTree) : tree.Adds tree := fun _ => .inl rfl

theorem adds_trans (first : tree.Adds other) (second : other.Adds more) : tree.Adds more := by
  intro location
  rcases second location with same | ⟨vacant, made⟩
  · rw [same]
    exact first location
  · rcases first location with kept | ⟨_, directory⟩
    · exact .inr ⟨kept.symm.trans vacant, made⟩
    · rw [directory] at vacant
      contradiction

theorem adds_insert (vacant : tree[there]? = none) : tree.Adds (tree.insert there .directory) := by
  intro location
  rw [get_insert]
  split
  · rename_i same
    exact .inr ⟨same ▸ vacant, rfl⟩
  · exact .inl rfl

theorem not_link_of_adds (adds : tree.Adds other)
    (unlinked : ∀ target, tree[there]? ≠ some (FileEntry.link target)) (target : String) :
    other[there]? ≠ some (FileEntry.link target) := by
  rcases adds there with same | ⟨_, directory⟩
  · rw [same]
    exact unlinked target
  · rw [directory]
    nofun

end Additions

section Entries

theorem keeps_insert_directory (vacant : tree[there]? = none) :
    tree.Keeps (tree.insert there .directory) :=
  keeps_insert (by simp [vacant]) .directory

theorem descend_made (vacant : tree.descend .entry slashed here names = .ok (.vacant there)) :
    descend (tree.insert there .directory) .look ended here names = .ok (.directory there) := by
  have keeps := keeps_insert_directory (held_of_descend vacant)
  fun_induction descend tree .entry slashed here names with
  | case1 | case4 | case5 | case7 | case8 | case9 | case11 => cases vacant
  | case2 here names induction => exact induction vacant
  | case3 here names induction => exact induction vacant
  | case6 here name names dot up place unslashed short found induction =>
    have kept := keeps _ _ found (by simp)
    rw [descend_directory ⟨dot, up⟩ (by decide) short kept]
    exact induction vacant
  | case10 here name names dot up place unslashed short found last =>
    -- The last name is the one that was made, and nothing is left to go through.
    obtain rfl : place = there := Arrival.vacant.inj (Except.ok.inj vacant)
    obtain rfl := List.isEmpty_iff.1 last
    rw [descend_name ⟨dot, up⟩, if_neg (by simp), if_neg short, get_insert, if_pos rfl]
    rfl

variable {links : Nat}

/-- A directory that is made where a path leads is there for it. -/
theorem follow_made (vacant : tree.follow .entry links here names slashed = .ok (.vacant there)) :
    follow (tree.insert there .directory) .look links here names ended =
      .ok (.directory there) := by
  have keeps := keeps_insert_directory (held_of_follow vacant)
  fun_induction follow tree .entry links here names slashed generalizing ended with
  | case1 | case2 => cases vacant
  | case3 here names slashed location target rest passed onward links induction =>
    rw [follow_link (descend_of_keeps .look (by decide) keeps trivial passed) (by simp)]
    exact induction vacant
  | case4 links here names slashed arrived =>
    exact follow_eq_descend (descend_made vacant) (by simp)

theorem make_directory_vacant (made : tree.makeDirectory working path = .ok other) :
    ∃ there, tree.arrive .entry working path = .ok (.vacant there) ∧
      other = tree.insert there .directory := by
  rw [makeDirectory] at made
  cases arrives : tree.arrive .entry working path with
  | error failure => simp [arrives, bind, Except.bind] at made
  | ok arrival =>
      rw [arrives] at made
      cases arrival with
      | directory | file | link => contradiction
      | vacant there => exact ⟨there, rfl, (Except.ok.inj made).symm⟩

theorem is_directory_of_make_directory (made : tree.makeDirectory working path = .ok other) :
    other.isDirectory working path = true := by
  obtain ⟨there, arrives, rfl⟩ := make_directory_vacant made
  obtain ⟨whole, nonempty, short, followed⟩ := arrive_ok arrives
  exact is_directory_iff.2
    ⟨there, (arrive_eq_follow whole nonempty short).trans (follow_made followed)⟩

theorem make_directory_ok (made : tree.makeDirectory working path = .ok other) :
    tree.Adds other ∧ ∃ there, other.Leads working path there := by
  obtain ⟨there, present⟩ := is_directory_iff.1 (is_directory_of_make_directory made)
  refine ⟨?_, there, leads_of_arrives present⟩
  obtain ⟨place, arrives, rfl⟩ := make_directory_vacant made
  exact adds_insert (held_of_follow (arrive_ok arrives).2.2.2)

/-- A directory that is there is not made again. -/
theorem make_directory_of_is_directory (present : tree.isDirectory working path = true) :
    tree.makeDirectory working path = .error .alreadyExists := by
  obtain ⟨there, arrives⟩ := is_directory_iff.1 present
  obtain ⟨whole, nonempty, short, followed⟩ := arrive_ok arrives
  obtain ⟨arrival, reached, passage⟩ := follow_entry_of_directory followed
  rw [makeDirectory, arrive_eq_follow whole nonempty short, reached]
  cases arrival with
  | directory | link => rfl
  | file | vacant => exact passage.elim

end Entries

section Ancestries

/-- What is there when the making of directories has stopped: if it succeeded, the first path leads
to a directory. -/
def Leaves (tree : FileTree) (working : Location) (paths : List String)
    (ended : FileTree × Except IoFailure Unit) : Prop :=
  tree.Adds ended.1 ∧ (ended.2 = .ok () → ∀ path ∈ paths.head?, ∃ there,
    ended.1.Leads working path there)

theorem leads_empty (tree : FileTree) (working : Location) : tree.Leads working "" working := by
  have relative : Path.isAbsolute "" = false := by decide +kernel
  rw [Leads, relative]
  exact follow_eq_descend rfl nofun

theorem leads_of_is_directory (present : tree.isDirectory working path = true) :
    ∃ there, tree.Leads working path there := by
  obtain ⟨there, arrives⟩ := is_directory_iff.1 present
  exact ⟨there, leads_of_arrives arrives⟩

/-- What is a directory for its path is one wherever its steps still lead. -/
theorem is_directory_of_leads (present : tree.isDirectory working path = true)
    (leads : other.Leads working path there) : other.isDirectory working path = true := by
  obtain ⟨place, arrives⟩ := is_directory_iff.1 present
  obtain ⟨whole, nonempty, short, _⟩ := arrive_ok arrives
  exact is_directory_iff.2 ⟨there, (arrive_eq_follow whole nonempty short).trans leads⟩

theorem is_directory_of_excused {failure : IoFailure}
    (passed : (if tree.isDirectory working path then .ok () else .error failure) =
      (.ok () : Except IoFailure Unit)) : tree.isDirectory working path = true := by
  split at passed
  · assumption
  · contradiction

variable {above : List String}

theorem leaves_cons {outcome : Except IoFailure Unit} (adds : tree.Adds other)
    (leads : outcome = .ok () → ∃ there, other.Leads working path there) :
    tree.Leaves working (path :: above) (other, outcome) := by
  refine ⟨adds, fun ended first held => ?_⟩
  obtain rfl := Option.some.inj held
  exact leads ended

theorem leaves_of_made (adds : tree.Adds other)
    (made : other.makeDirectory working path = .ok more) :
    tree.Leaves working (path :: above) (more, .ok ()) := by
  obtain ⟨further, leads⟩ := make_directory_ok made
  exact leaves_cons (adds_trans adds further) fun _ => leads

theorem leaves_of_refused (adds : tree.Adds other) (failure : IoFailure) :
    tree.Leaves working (path :: above)
      (other, if other.isDirectory working path then .ok () else .error failure) :=
  leaves_cons adds fun ended => leads_of_is_directory (is_directory_of_excused ended)

theorem leaves_make_ancestry (tree : FileTree) (working : Location) (paths : List String) :
    tree.Leaves working paths (tree.makeAncestry working paths) := by
  fun_induction makeAncestry tree working paths with
  | case1 => exact ⟨adds_refl tree, nofun⟩
  | case2 path above empty =>
    refine leaves_cons (adds_refl tree) fun _ => ?_
    rw [String.isEmpty_iff.1 empty]
    exact ⟨working, leads_empty tree working⟩
  | case3 path above nonempty made making => exact leaves_of_made (adds_refl tree) making
  | case4 path above nonempty missing reached failure stopped induction =>
    rw [stopped] at induction
    exact ⟨induction.1, nofun⟩
  | case5 path above nonempty missing reached raised made making induction =>
    rw [raised] at induction
    exact leaves_of_made induction.1 making
  | case6 path above nonempty missing reached raised failure refused induction =>
    rw [raised] at induction
    exact leaves_of_refused induction.1 failure
  | case7 path above nonempty failure other refused =>
    exact leaves_of_refused (adds_refl tree) failure

theorem adds_make_directories (tree : FileTree) (working : Location) (path : String) :
    tree.Adds (tree.makeDirectories working path).1 := (leaves_make_ancestry ..).1

theorem leads_of_make_directories (made : (tree.makeDirectories working path).2 = .ok ()) :
    ∃ there, (tree.makeDirectories working path).1.Leads working path there :=
  (leaves_make_ancestry ..).2 made path rfl

theorem make_directories_empty (tree : FileTree) (working : Location) :
    tree.makeDirectories working "" = (tree, .ok ()) := rfl

theorem make_directories_of_is_directory (present : tree.isDirectory working path = true) :
    tree.makeDirectories working path = (tree, .ok ()) := by
  obtain ⟨there, arrives⟩ := is_directory_iff.1 present
  have nonempty : path.isEmpty = false := by simpa using (arrive_ok arrives).2.1
  rw [makeDirectories, ancestry, makeAncestry, nonempty, make_directory_of_is_directory present]
  simp [present]

/-- Directories that could be made are there. -/
theorem is_directory_of_make_directories (nonempty : path ≠ "")
    (made : (tree.makeDirectories working path).2 = .ok ()) :
    (tree.makeDirectories working path).1.isDirectory working path = true := by
  have filled : path.isEmpty = false := by simpa using nonempty
  generalize ended : tree.makeDirectories working path = reached at made ⊢
  rw [makeDirectories, ancestry, makeAncestry, filled, if_neg Bool.false_ne_true] at ended
  split at ended
  · obtain rfl := ended
    exact is_directory_of_make_directory ‹_›
  · split at ended
    · obtain rfl := ended
      contradiction
    · split at ended
      · obtain rfl := ended
        exact is_directory_of_make_directory ‹_›
      · obtain rfl := ended
        exact is_directory_of_excused made
  · obtain rfl := ended
    exact is_directory_of_excused made

end Ancestries

end TraceOverhead.FileTree
