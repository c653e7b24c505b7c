import TraceOverhead.File.Tree
import TraceOverhead.Proofs.File.Path
/-!
Following paths through a tree. A path that leads to a directory only passes directories and links,
so it still leads there when files are added, and what is named behind it is looked for in that
directory.
-/

namespace TraceOverhead.FileTree

variable {tree other : FileTree} {purpose : Purpose} {here there : Location} {name : String}
  {names rest : List String} {slashed ended : Bool} {arrival : Arrival}

/-- What is kept of a tree if nothing but files comes and goes. -/
def Keeps (tree other : FileTree) : Prop :=
  ∀ (location : Location) entry, tree[location]? = some entry →
    (∀ content, entry ≠ FileEntry.file content) → other[location]? = some entry

section Steps

theorem steps_append_slash {path : String} {first second : List Char}
    (text : path.toList = first ++ '/' :: second) :
    steps path = steps (String.ofList first) ++ steps (String.ofList second) := by
  simp [steps, text, Text.pieces_append_separator]

theorem steps_join {base : String} (relative : name.startsWith "/" = false) :
    steps (Path.join base name) = steps base ++ steps name := by
  have joined := Path.join_relative relative base
  rcases Path.opening_cases base with ⟨rfl, opened⟩ | ⟨front, opened, based⟩
  · rw [opened, List.nil_append] at joined
    rw [String.toList_inj.1 joined]
    rfl
  · rw [opened, List.append_assoc, List.singleton_append] at joined
    have before : steps base = steps (String.ofList front) := by
      rcases based with whole | slashed
      · rw [← whole, String.ofList_toList]
      · rw [steps_append_slash slashed]
        exact List.append_nil _
    rw [steps_append_slash joined, String.ofList_toList, before]

theorem byte_length_append (first second : String) :
    byteLength (first ++ second) = byteLength first + byteLength second := by
  simp [byteLength, Text.toBytes]

theorem byte_length_join_le (base name : String) :
    byteLength (Path.join base name) ≤ byteLength base + 1 + byteLength name := by
  have slash : byteLength "/" = 1 := rfl
  rw [Path.join]
  split
  · omega
  · split
    · rw [byte_length_append]
      omega
    · rw [byte_length_append, byte_length_append, slash]

theorem steps_ne_nil {path : String} {character : Char} (member : character ∈ path.toList)
    (other : character ≠ '/') : steps path ≠ [] := by
  intro nothing
  have kept : character ∈ (Text.pieces '/' path.toList).flatten := by
    rw [Text.flatten_pieces]
    simp [member, other]
  obtain ⟨piece, listed, inside⟩ := List.mem_flatten.1 kept
  have empty := List.filter_eq_nil_iff.1 (List.map_eq_nil_iff.1 nothing) piece listed
  have blank : piece = [] := by simpa using empty
  rw [blank] at inside
  contradiction

theorem steps_single {name : String} (nonempty : name ≠ "") (whole : '/' ∉ name.toList) :
    steps name = [name] := by
  rw [steps, Text.pieces_of_not_mem whole]
  simp [nonempty]

end Steps

section Descent

theorem descend_name (proper : name ≠ "." ∧ name ≠ "..") :
    tree.descend purpose slashed here (name :: rest) =
      if rest.isEmpty && slashed && purpose = .write then .error .isADirectory
      else if nameLimit < byteLength name then .error .nameTooLong
      else match tree[here ++ [name]]? with
        | some .directory => tree.descend purpose slashed (here ++ [name]) rest
        | some (.file content) =>
          if rest.isEmpty && !(slashed && purpose = .look) then .ok (.file (here ++ [name]) content)
          else .error .notADirectory
        | some (.link target) => .ok (.link (here ++ [name]) target rest)
        | none => if rest.isEmpty then .ok (.vacant (here ++ [name])) else .error .notFound :=
  descend.eq_4 tree purpose slashed here name rest proper.1 proper.2

theorem descend_inner (proper : name ≠ "." ∧ name ≠ "..") (short : ¬ nameLimit < byteLength name)
    (more : rest ≠ []) :
    tree.descend purpose slashed here (name :: rest) = match tree[here ++ [name]]? with
      | some .directory => tree.descend purpose slashed (here ++ [name]) rest
      | some (.file _) => .error .notADirectory
      | some (.link target) => .ok (.link (here ++ [name]) target rest)
      | none => .error .notFound := by
  have inner : rest.isEmpty = false := by simpa using more
  rw [descend_name proper, inner, if_neg short]
  rfl

/-- What becomes of further steps behind an arrival. -/
def resume (tree : FileTree) (purpose : Purpose) (slashed : Bool) (rest : List String) :
    Arrival → Except IoFailure Arrival
  | .directory there => tree.descend purpose slashed there rest
  | .file .. => .error .notADirectory
  | .vacant _ => .error .notFound
  | .link there target left => .ok (.link there target (left ++ rest))

theorem descend_append (more : rest ≠ [])
    (reached : tree.descend .look slashed here names = .ok arrival) :
    tree.descend purpose ended here (names ++ rest) =
      tree.resume purpose ended rest arrival := by
  have longer : ∀ left : List String, left ++ rest ≠ [] := by simp [more]
  fun_induction descend tree .look slashed here names with
  | case1 here =>
    obtain rfl := Except.ok.inj reached
    rfl
  | case2 here names induction => exact induction reached
  | case3 here names induction => exact induction reached
  | case4 | case5 | case8 | case11 => contradiction
  | case6 here name names dot up there unslashed short found induction =>
    rw [List.cons_append, descend_inner ⟨dot, up⟩ short (longer names), found]
    exact induction reached
  | case7 here name names dot up there unslashed short content found last
  | case9 here name names dot up there unslashed short target found
  | case10 here name names dot up there unslashed short found last =>
    obtain rfl := Except.ok.inj reached
    rw [List.cons_append, descend_inner ⟨dot, up⟩ short (longer names), found]
    rfl

def destination : Arrival → Location
  | .directory there | .file there _ | .vacant there | .link there .. => there

/-- What lies where a path arrives. -/
def Held (tree : FileTree) : Arrival → Prop
  | .directory _ => True
  | .file there content => tree[there]? = some (.file content)
  | .vacant there => tree[there]? = none
  | .link there target _ => tree[there]? = some (.link target)

theorem held_of_descend (reached : tree.descend purpose slashed here names = .ok arrival) :
    tree.Held arrival := by
  fun_induction descend tree purpose slashed here names with
  | case1 =>
    obtain rfl := Except.ok.inj reached
    trivial
  | case2 here names induction => exact induction reached
  | case3 here names induction => exact induction reached
  | case4 | case5 | case8 | case11 => contradiction
  | case6 here name names dot up there unslashed short found induction => exact induction reached
  | case7 here name names dot up there unslashed short content found
  | case9 here name names dot up there unslashed short target found
  | case10 here name names dot up there unslashed short found =>
    obtain rfl := Except.ok.inj reached
    exact found

theorem destination_of_descend_single (proper : name ≠ "." ∧ name ≠ "..")
    (reached : tree.descend purpose slashed here [name] = .ok arrival) :
    destination arrival = here ++ [name] := by
  rw [descend_name proper] at reached
  split at reached
  · contradiction
  · split at reached
    · contradiction
    · split at reached
      · obtain rfl := Except.ok.inj reached
        rfl
      · split at reached
        · obtain rfl := Except.ok.inj reached
          rfl
        · contradiction
      · obtain rfl := Except.ok.inj reached
        rfl
      · obtain rfl := Except.ok.inj reached
        rfl

def IsPassage : Arrival → Prop
  | .directory _ | .link .. => True
  | .file .. | .vacant _ => False

/-- What a path passes is passed on the way to anything else too that is not to be written. -/
theorem descend_of_keeps (onward : Purpose) (unwritten : onward ≠ .write)
    (keeps : tree.Keeps other) (passage : IsPassage arrival)
    (reached : tree.descend purpose slashed here names = .ok arrival) :
    other.descend onward ended here names = .ok arrival := by
  fun_induction descend tree purpose slashed here names with
  | case1 here => exact reached
  | case2 here names induction => exact induction reached
  | case3 here names induction => exact induction reached
  | case4 | case5 | case8 | case11 => contradiction
  | case6 here name names dot up there unslashed short found induction =>
    have kept := keeps _ _ found nofun
    rw [descend_directory ⟨dot, up⟩ unwritten short kept]
    exact induction reached
  | case7 | case10 =>
    obtain rfl := Except.ok.inj reached
    exact passage.elim
  | case9 here name names dot up there unslashed short target found =>
    have kept := keeps _ _ found nofun
    rw [descend_name ⟨dot, up⟩, if_neg (by simp [unwritten]), if_neg short, kept]
    exact reached

end Descent

section Links

variable {links : Nat}

theorem follow_link {target : String}
    (passed : tree.descend purpose slashed here names = .ok (.link there target rest))
    (onward : ¬ (rest.isEmpty && purpose = .entry) = true) :
    tree.follow purpose (links + 1) here names slashed =
      tree.follow purpose links (if Path.isAbsolute target then [] else there.dropLast)
        (steps target ++ rest) (slashed || (rest.isEmpty && target.endsWith "/")) := by
  rw [follow, passed]
  exact if_neg onward

theorem follow_eq_descend {outcome : Except IoFailure Arrival}
    (reached : tree.descend purpose slashed here names = outcome)
    (unlinked : ∀ location target left, outcome ≠ .ok (.link location target left)) :
    tree.follow purpose links here names slashed = outcome := by
  rw [follow, reached]
  split
  · exact absurd rfl (unlinked _ _ _)
  · rfl

theorem held_of_follow
    (reached : tree.follow purpose links here names slashed = .ok arrival) : tree.Held arrival := by
  fun_induction follow tree purpose links here names slashed with
  | case1 links here names slashed location target rest passed last =>
    obtain rfl := Except.ok.inj reached
    exact held_of_descend passed
  | case2 => cases reached
  | case3 here names slashed location target rest passed onward links induction =>
    exact induction reached
  | case4 links here names slashed arrived => exact held_of_descend reached

theorem follow_of_keeps (keeps : tree.Keeps other)
    (reached : tree.follow .look links here names slashed = .ok (.directory there)) :
    other.follow .look links here names slashed = .ok (.directory there) := by
  fun_induction follow tree .look links here names slashed with
  | case1 | case2 => cases reached
  | case3 here names slashed location target rest passed onward links induction =>
    rw [follow_link (descend_of_keeps .look (by decide) keeps trivial passed) onward]
    exact induction reached
  | case4 links here names slashed arrived =>
    exact follow_eq_descend (descend_of_keeps .look (by decide) keeps trivial reached) nofun

theorem keeps_refl (tree : FileTree) : tree.Keeps tree := fun _ _ found _ => found

/-- What leads to a directory leads to it, or to a link, where an entry is to be made. -/
theorem follow_entry_of_directory
    (reached : tree.follow .look links here names slashed = .ok (.directory there)) :
    ∃ arrival, tree.follow .entry links here names slashed = .ok arrival ∧ IsPassage arrival := by
  fun_induction follow tree .look links here names slashed with
  | case1 | case2 => cases reached
  | case3 here names slashed location target rest passed onward links induction =>
    have same : tree.descend .entry slashed here names = .ok (.link location target rest) :=
      descend_of_keeps .entry (by decide) (keeps_refl tree) trivial passed
    by_cases last : (rest.isEmpty && Purpose.entry = .entry) = true
    · exact ⟨.link location target rest, by rw [follow, same]; exact if_pos last, trivial⟩
    · rw [follow_link same last]
      exact induction reached
  | case4 links here names slashed arrived =>
    have same : tree.descend .entry slashed here names = .ok (.directory there) :=
      descend_of_keeps .entry (by decide) (keeps_refl tree) trivial reached
    exact ⟨.directory there, follow_eq_descend same nofun, trivial⟩

/-- What is named behind a path to a directory is looked for there, with what is left of the links
that may be followed. -/
theorem follow_append (more : rest ≠ [])
    (reached : tree.follow .look links here names slashed = .ok (.directory there)) :
    ∃ left, tree.follow purpose links here (names ++ rest) ended =
      tree.follow purpose left there rest ended := by
  fun_induction follow tree .look links here names slashed with
  | case1 | case2 => cases reached
  | case3 here names slashed location target left passed onward links induction =>
    -- What is left behind the link is looked for from where it leads, so one link fewer is left.
    have longer : (left ++ rest).isEmpty = false := by simp [more]
    obtain ⟨kept, same⟩ := induction reached
    refine ⟨kept, ?_⟩
    have passed : tree.descend purpose ended here (names ++ rest) =
      .ok (.link location target (left ++ rest)) := descend_append more passed
    rw [follow_link passed (by simp [longer]), longer, ← List.append_assoc, Bool.false_and,
      Bool.or_false]
    exact same
  | case4 links here names slashed arrived =>
    refine ⟨links, ?_⟩
    have passed : tree.descend purpose ended here (names ++ rest) =
      tree.descend purpose ended there rest := descend_append more reached
    rw [follow, follow, passed]

end Links
section Names

variable {working : Location} {base : String} {content : Bytes}

/-- A name as it may stand behind a path, but for the slashes in it. -/
structure Suitable (name : String) : Prop where
  opens : ∃ first rest, name.toList = first :: rest ∧ first ≠ '/' ∧ first ≠ '.'
  closes : ∃ front last, name.toList = front ++ [last] ∧ last ≠ '/'
  whole : '\x00' ∉ name.toList
  short : byteLength name ≤ nameLimit

theorem Suitable.relative (suitable : Suitable name) : name.startsWith "/" = false := by
  obtain ⟨first, rest, spelled, other, _⟩ := suitable.opens
  rw [String.startsWith_string_eq_false_iff, spelled]
  intro leading
  exact other (List.cons_prefix_cons.1 leading).1.symm

theorem Suitable.steps_ne_nil (suitable : Suitable name) : steps name ≠ [] := by
  obtain ⟨first, rest, spelled, other, _⟩ := suitable.opens
  exact FileTree.steps_ne_nil (spelled ▸ List.mem_cons_self) other

theorem arrive_eq_follow (whole : '\x00' ∉ name.toList) (nonempty : name ≠ "")
    (short : byteLength name < pathLimit) : tree.arrive purpose working name =
      tree.follow purpose linkLimit (if Path.isAbsolute name then [] else working) (steps name)
        (name.endsWith "/") := by
  have absent : name.toList.contains '\x00' = false := by simpa using whole
  rw [arrive, absent, if_neg Bool.false_ne_true, if_neg (by simpa using nonempty),
    if_neg (Nat.not_le_of_lt short)]

theorem arrive_ok (arrives : tree.arrive purpose working base = .ok arrival) :
    '\x00' ∉ base.toList ∧ base ≠ "" ∧ byteLength base < pathLimit ∧
      tree.follow purpose linkLimit (if Path.isAbsolute base then [] else working) (steps base)
        (base.endsWith "/") = .ok arrival := by
  have followed := arrives
  rw [arrive] at followed
  split at followed
  · contradiction
  · split at followed
    · contradiction
    · split at followed
      · contradiction
      · rename_i whole nonempty short
        exact ⟨by simpa using whole, by simpa using nonempty, Nat.lt_of_not_le short, followed⟩

theorem is_directory_iff : tree.isDirectory working base = true ↔
    ∃ here, tree.arrive .look working base = .ok (.directory here) := by
  rw [isDirectory]
  split
  · rename_i here arrives
    simp [arrives]
  · rename_i other
    simpa using other

/-- Where names behind a path are looked for. The empty path leads to where one works. -/
def Leads (tree : FileTree) (working : Location) (base : String) (there : Location) : Prop :=
  tree.follow .look linkLimit (if Path.isAbsolute base then [] else working) (steps base)
    (base.endsWith "/") = .ok (.directory there)

theorem leads_of_arrives (arrives : tree.arrive .look working base = .ok (.directory there)) :
    tree.Leads working base there := (arrive_ok arrives).2.2.2

theorem leads_of_keeps (keeps : tree.Keeps other) (leads : tree.Leads working base there) :
    other.Leads working base there := follow_of_keeps keeps leads

theorem leads_unique (leads : tree.Leads working base here)
    (again : tree.Leads working base there) :
    here = there := Arrival.directory.inj (Except.ok.inj (leads.symm.trans again))

/-- A directory that a path leads to, with room behind the path for any name. -/
structure Reached (tree : FileTree) (working : Location) (base : String) (there : Location) :
    Prop where
  arrives : tree.arrive .look working base = .ok (.directory there)
  room : byteLength base + 1 + nameLimit < pathLimit

theorem reached_of_keeps (keeps : tree.Keeps other) (reached : tree.Reached working base there) :
    other.Reached working base there := by
  obtain ⟨whole, nonempty, short, followed⟩ := arrive_ok reached.arrives
  refine ⟨?_, reached.room⟩
  rw [arrive_eq_follow whole nonempty short]
  exact follow_of_keeps keeps followed

theorem not_mem_opening {character : Char} (absent : character ∉ base.toList)
    (other : character ≠ '/') : character ∉ Path.opening base := by
  rw [Path.opening]
  split
  · exact List.not_mem_nil
  · split <;> simp [absent, other]

/-- A name behind a path is looked for in the directory that the path leads to. -/
theorem follow_join (purpose : Purpose) (leads : tree.Leads working base there)
    (relative : name.startsWith "/" = false) (more : steps name ≠ [])
    (closes : ∃ front last, name.toList = front ++ [last] ∧ last ≠ '/') :
    ∃ left, tree.follow purpose linkLimit
        (if Path.isAbsolute (Path.join base name) then [] else working)
        (steps (Path.join base name)) ((Path.join base name).endsWith "/") =
      tree.follow purpose left there (steps name) false := by
  obtain ⟨front, last, closing, inside⟩ := closes
  have unended : (Path.join base name).endsWith "/" = false := by
    apply Path.not_ends_with_slash _ inside
    · exact Path.opening base ++ front
    · rw [Path.join_relative relative, closing, List.append_assoc]
  rw [Path.absolute_join relative, steps_join relative, unended]
  exact follow_append more leads

theorem arrive_join (purpose : Purpose) (reached : tree.Reached working base there)
    (suitable : Suitable name) : ∃ left, tree.arrive purpose working (Path.join base name) =
      tree.follow purpose left there (steps name) false := by
  obtain ⟨whole, _, _, followed⟩ := arrive_ok reached.arrives
  obtain ⟨front, last, closing, _⟩ := suitable.closes
  have spelled := Path.join_relative suitable.relative base
  have absent : '\x00' ∉ (Path.join base name).toList := by
    rw [spelled, List.mem_append, not_or]
    exact ⟨not_mem_opening whole (by decide), suitable.whole⟩
  have nonempty : Path.join base name ≠ "" := by
    rw [ne_eq, ← String.toList_eq_nil_iff, spelled, closing]
    simp
  have short : byteLength (Path.join base name) < pathLimit := by
    have joined := byte_length_join_le base name
    have named := suitable.short
    have room := reached.room
    omega
  rw [arrive_eq_follow absent nonempty short]
  exact follow_join purpose followed suitable.relative suitable.steps_ne_nil suitable.closes

/-- Directly in a directory there are only files, as far as anything is there. -/
def Flat (tree : FileTree) (there : Location) : Prop :=
  ∀ part entry, tree[there ++ [part]]? = some entry → ∃ content, entry = FileEntry.file content

theorem Suitable.proper (suitable : Suitable name) {front back : List Char}
    (text : name.toList = front ++ back) (more : front ≠ []) :
    String.ofList front ≠ "." ∧ String.ofList front ≠ ".." := by
  obtain ⟨first, rest, spelled, _, dotless⟩ := suitable.opens
  obtain ⟨head, tail, rfl⟩ := List.exists_cons_of_ne_nil more
  rw [spelled] at text
  obtain ⟨rfl, _⟩ := List.cons.inj text
  constructor
  · intro same
    exact dotless (List.cons.inj (String.ofList_inj.1 same)).1
  · intro same
    exact dotless (List.cons.inj (String.ofList_inj.1 same)).1

/-- A name without a slash can be written to, and its file is directly in the directory. -/
theorem writable_join (reached : tree.Reached working base there) (suitable : Suitable name)
    (flat : tree.Flat there) (unbroken : '/' ∉ name.toList) :
    tree.writable working (Path.join base name) = .ok (there ++ [name]) := by
  obtain ⟨left, arrives⟩ := arrive_join .write reached suitable
  obtain ⟨first, rest, spelled, _⟩ := suitable.opens
  have nonempty : name.toList ≠ [] := by simp [spelled]
  have proper := suitable.proper (List.append_nil name.toList).symm nonempty
  rw [String.ofList_toList] at proper
  rw [steps_single (by simpa using nonempty) unbroken] at arrives
  have descended : tree.descend .write false there [name] = match tree[there ++ [name]]? with
      | some .directory => tree.descend .write false (there ++ [name]) []
      | some (.file content) => .ok (.file (there ++ [name]) content)
      | some (.link target) => .ok (.link (there ++ [name]) target [])
      | none => .ok (.vacant (there ++ [name])) := by
    rw [descend_name proper, if_neg (by simp), if_neg (Nat.not_lt_of_le suitable.short)]
    rfl
  cases found : tree[there ++ [name]]? with
  | none =>
      rw [found] at descended
      rw [writable, arrives, follow_eq_descend descended nofun]
      rfl
  | some entry =>
      obtain ⟨content, rfl⟩ := flat name entry found
      rw [found] at descended
      rw [writable, arrives, follow_eq_descend descended nofun]
      rfl

theorem writable_ok {path : String} {location : Location}
    (written : tree.writable working path = .ok location) :
    tree.arrive .write working path = .ok (.vacant location) ∨
      ∃ content, tree.arrive .write working path = .ok (.file location content) := by
  rw [writable] at written
  cases arrives : tree.arrive .write working path with
  | error failure => simp [arrives, bind, Except.bind] at written
  | ok arrival =>
      rw [arrives] at written
      cases arrival with
      | directory | link => contradiction
      | file place content =>
          obtain rfl := Except.ok.inj written
          exact .inr ⟨content, rfl⟩
      | vacant place =>
          obtain rfl := Except.ok.inj written
          exact .inl rfl

/-- A name that an entry of a directory can have. -/
structure EntryName (name : String) : Prop where
  nonempty : name ≠ ""
  unbroken : '/' ∉ name.toList
  proper : name ≠ "." ∧ name ≠ ".."

theorem EntryName.relative (named : EntryName name) : name.startsWith "/" = false :=
  Path.relative_of_whole named.unbroken

theorem join_ne_empty (nonempty : name ≠ "") : Path.join base name ≠ "" := by
  obtain ⟨before, spelled⟩ := Path.join_ends base name
  rw [ne_eq, ← String.toList_eq_nil_iff, spelled]
  simp [nonempty]

/-- Why a file of a name cannot be written in the directory that a path leads to, if it cannot. -/
def refusal? (tree : FileTree) (base : String) (there : Location) (name : String) :
    Option IoFailure :=
  if '\x00' ∈ (Path.join base name).toList then some .nulInPath
  else if pathLimit ≤ byteLength (Path.join base name) then some .nameTooLong
  else if nameLimit < byteLength name then some .nameTooLong
  else if tree[there ++ [name]]? = some .directory then some .isADirectory
  else none

theorem not_directory_of_unrefused (free : tree.refusal? base there name = none) :
    tree[there ++ [name]]? ≠ some .directory := by
  rw [refusal?] at free
  grind

/-- Of a tree it only matters which names are those of directories. -/
theorem refusal_congr (same : other[there ++ [name]]? = some FileEntry.directory ↔
      tree[there ++ [name]]? = some FileEntry.directory) :
    other.refusal? base there name = tree.refusal? base there name := by
  simp only [refusal?, same]

section Writable

variable (leads : tree.Leads working base there) (named : EntryName name)
  (unlinked : ∀ target, tree[there ++ [name]]? ≠ some (FileEntry.link target))
include leads named unlinked

/-- What is written to a name behind a path is looked for in the directory that the path leads
to. -/
theorem follow_join_name : tree.follow .write linkLimit
      (if Path.isAbsolute (Path.join base name) then [] else working)
      (steps (Path.join base name)) ((Path.join base name).endsWith "/") =
    tree.descend .write false there [name] := by
  have letters : name.toList ≠ [] := by simpa using named.nonempty
  have single := steps_single named.nonempty named.unbroken
  obtain ⟨left, joined⟩ := follow_join .write leads named.relative (by simp [single])
    ⟨_, _, (List.dropLast_append_getLast letters).symm,
      fun same => named.unbroken (same ▸ List.getLast_mem letters)⟩
  rw [joined, single]
  refine follow_eq_descend rfl fun place target rest passed => ?_
  obtain rfl : place = there ++ [name] := destination_of_descend_single named.proper passed
  exact unlinked target (held_of_descend passed)

theorem writable_join_eq : tree.writable working (Path.join base name) =
    match tree.refusal? base there name with
    | some failure => .error failure
    | none => .ok (there ++ [name]) := by
  have nonempty : (Path.join base name).isEmpty = false := by
    simpa using join_ne_empty named.nonempty
  have descended := follow_join_name leads named unlinked
  rw [descend_name named.proper] at descended
  simp only [writable, arrive, refusal?, List.contains_iff_mem, nonempty, Bool.false_eq_true,
    if_false, descended, Bool.and_false, Bool.false_and]
  split
  · rfl
  · split
    · rfl
    · split
      · rfl
      · cases found : tree[there ++ [name]]? with
        | none => rfl
        | some entry =>
            cases entry with
            | directory | file => rfl
            | link target => exact absurd found (unlinked target)

/-- It goes there unless the name is one of a link. -/
theorem writable_join_ok {location : Location}
    (written : tree.writable working (Path.join base name) = .ok location) :
    location = there ++ [name] ∧
      ∀ entry, tree[location]? = some entry → ∃ content, entry = FileEntry.file content := by
  rw [writable_join_eq leads named unlinked] at written
  split at written
  · contradiction
  · rename_i free
    obtain rfl := Except.ok.inj written
    refine ⟨rfl, fun entry found => ?_⟩
    cases entry with
    | directory => exact absurd found (not_directory_of_unrefused free)
    | file content => exact ⟨content, rfl⟩
    | link target => exact absurd found (unlinked target)

end Writable

/-- A name with a slash cannot be written to: what stands before the slash is no directory. -/
theorem writable_join_broken (reached : tree.Reached working base there) (suitable : Suitable name)
    (flat : tree.Flat there) (broken : '/' ∈ name.toList) :
    tree.writable working (Path.join base name) = .error .notFound ∨
      tree.writable working (Path.join base name) = .error .notADirectory := by
  obtain ⟨left, arrives⟩ := arrive_join .write reached suitable
  obtain ⟨front, back, text, whole⟩ := List.eq_append_cons_of_mem broken
  obtain ⟨first, rest, spelled, other, _⟩ := suitable.opens
  obtain ⟨before, last, closing, inside⟩ := suitable.closes
  have nonempty : front ≠ [] := by
    rintro rfl
    rw [spelled] at text
    exact other (List.cons.inj text).1
  have proper := suitable.proper text nonempty
  -- The name does not end with the slash, so there is a step behind it.
  have behind : last ∈ back := by
    have lasts : (front ++ '/' :: back).getLast? = some last := by rw [← text, closing]; simp
    rw [List.getLast?_append, List.getLast?_cons] at lasts
    cases trailing : back.getLast? with
    | none => simp [trailing, Ne.symm inside] at lasts
    | some final =>
        obtain rfl : final = last := by simpa [trailing] using lasts
        exact List.mem_of_getLast? trailing
  have more : steps (String.ofList back) ≠ [] :=
    steps_ne_nil (String.toList_ofList ▸ behind) inside
  have single : steps (String.ofList front) = [String.ofList front] :=
    steps_single (by simpa using nonempty) (by simpa using whole)
  have short : ¬ nameLimit < byteLength (String.ofList front) := by
    have parts : name = String.ofList front ++ String.ofList ('/' :: back) := by
      rw [← String.ofList_append, ← text, String.ofList_toList]
    have total := suitable.short
    rw [parts, byte_length_append] at total
    omega
  rw [steps_append_slash text, single, List.singleton_append] at arrives
  have descended : tree.descend .write false there
      (String.ofList front :: steps (String.ofList back)) = _ := descend_inner proper short more
  cases found : tree[there ++ [String.ofList front]]? with
  | none =>
      rw [found] at descended
      rw [writable, arrives, follow_eq_descend descended nofun]
      exact .inl rfl
  | some entry =>
      obtain ⟨content, rfl⟩ := flat _ entry found
      rw [found] at descended
      rw [writable, arrives, follow_eq_descend descended nofun]
      exact .inr rfl

end Names

section Files

variable {location place : Location} {content : Bytes} {files : List (String × Bytes)}
  {entry : FileEntry}

theorem get_insert (tree : FileTree) (location place : Location) (entry : FileEntry) :
    (tree.insert location entry)[place]? =
      if location = place then some entry else tree[place]? := by
  rw [Std.TreeMap.getElem?_insert]
  simp only [Std.compare_eq_iff_eq]

theorem get_of_below_nil {tree : FileTree} (nothing : tree.below there = []) (more : names ≠ []) :
    tree[there ++ names]? = none := by
  rw [Option.eq_none_iff_forall_ne_some]
  intro entry found
  have listed := Std.TreeMap.mem_toList_iff_getElem?_eq_some.2 found
  have kept := List.filterMap_eq_nil_iff.1 nothing _ listed
  simp [more] at kept

/-- A tree with files laid down in a directory, the later ones over the earlier. -/
def withFiles (tree : FileTree) (there : Location) (files : List (String × Bytes)) : FileTree :=
  files.foldl (fun tree file => tree.insert (there ++ [file.1]) (.file file.2)) tree

theorem keeps_insert
    (free : ∀ held, tree[location]? = some held → ∃ content, held = FileEntry.file content)
    (entry : FileEntry) : tree.Keeps (tree.insert location entry) := by
  intro place held found other
  rw [get_insert]
  split
  · rename_i same
    obtain ⟨content, rfl⟩ := free held (same ▸ found)
    exact absurd rfl (other content)
  · exact found

theorem flat_insert (flat : tree.Flat there) :
    Flat (tree.insert (there ++ [name]) (.file content)) there := by
  intro part entry found
  rw [get_insert] at found
  split at found
  · exact ⟨content, (Option.some.inj found).symm⟩
  · exact flat part entry found

theorem get_with_files (distinct : (files.map Prod.fst).Nodup) :
    (tree.withFiles there files)[place]? = some entry ↔
      (∃ file ∈ files, place = there ++ [file.1] ∧ entry = .file file.2) ∨
      ((∀ file ∈ files, place ≠ there ++ [file.1]) ∧ tree[place]? = some entry) := by
  induction files generalizing tree with
  | nil => simp [withFiles]
  | cons file files induction =>
      obtain ⟨fresh, others⟩ := List.nodup_cons.1 distinct
      have later : (tree.withFiles there (file :: files)) =
        withFiles (tree.insert (there ++ [file.1]) (.file file.2)) there files := rfl
      rw [later, induction others, get_insert, List.forall_mem_cons, List.exists_mem_cons_iff]
      by_cases same : place = there ++ [file.1]
      · subst same
        have absent : ∀ other ∈ files, there ++ [file.1] ≠ there ++ [other.1] := by
          intro other member again
          have name : file.1 = other.1 := List.singleton_inj.1 (List.append_cancel_left again)
          exact fresh (name ▸ List.mem_map_of_mem member)
        rw [if_pos rfl]
        constructor
        · rintro (⟨other, member, again, _⟩ | ⟨_, laid⟩)
          · exact absurd again (absent other member)
          · exact .inl (.inl ⟨rfl, (Option.some.inj laid).symm⟩)
        · rintro ((⟨_, rfl⟩ | ⟨other, member, again, _⟩) | ⟨⟨elsewhere, _⟩, _⟩)
          · exact .inr ⟨absent, rfl⟩
          · exact absurd again (absent other member)
          · exact absurd rfl elsewhere
      · rw [if_neg (Ne.symm same)]
        simp [same]

theorem get_with_files_elsewhere (distinct : (files.map Prod.fst).Nodup)
    (apart : ∀ file ∈ files, place ≠ there ++ [file.1]) :
    (tree.withFiles there files)[place]? = tree[place]? := by
  refine Option.ext fun entry => ?_
  rw [get_with_files distinct, and_iff_right apart, or_iff_right]
  rintro ⟨file, member, same, _⟩
  exact apart file member same

end Files

end TraceOverhead.FileTree
