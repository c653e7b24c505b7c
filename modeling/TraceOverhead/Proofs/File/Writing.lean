import Mathlib.Data.List.TakeWhile
import TraceOverhead.Proofs.File.Tree
import TraceOverhead.Simulation.Machine
/-!
Files that are written to a machine. What is written to a path is found by it. Files that are
written one after the other into a directory are all there in the end, or those before the first
that is refused; of files with fitting names only one with a slash in its name is refused.
-/

namespace TraceOverhead

namespace FileTree

variable {tree : FileTree} {here there working : Location} {names : List String} {slashed : Bool}
  {content : Bytes} {arrival : Arrival} {path : String} {links : Nat}

/-- Where content that is written lands. -/
def LandsAt (there : Location) : Arrival → Prop
  | .file place _ | .vacant place => place = there
  | .directory _ | .link .. => False

/-- What a path leads to for writing has nothing but a file in the way. -/
theorem free_of_lands (lands : LandsAt there arrival) (held : tree.Held arrival) :
    ∀ entry, tree[there]? = some entry → ∃ content, entry = FileEntry.file content := by
  intro entry found
  cases arrival with
  | directory | link => exact lands.elim
  | file place content =>
      obtain rfl : place = there := lands
      exact ⟨content, Option.some.inj (found.symm.trans held)⟩
  | vacant place =>
      obtain rfl : place = there := lands
      exact nomatch found.symm.trans held

theorem descend_single_written {name : String} (proper : name ≠ "." ∧ name ≠ "..")
    (short : ¬ nameLimit < byteLength name) :
    descend (tree.insert (here ++ [name]) (.file content)) .look false here [name] =
      .ok (.file (here ++ [name]) content) := by
  rw [descend_name proper, if_neg (by simp), if_neg short, get_insert, if_pos rfl]
  rfl

theorem descend_written (lands : LandsAt there arrival)
    (reached : tree.descend .write slashed here names = .ok arrival) :
    descend (tree.insert there (.file content)) .look slashed here names =
      .ok (.file there content) := by
  have keeps := keeps_insert (free_of_lands lands (held_of_descend reached)) (.file content)
  fun_induction descend tree .write slashed here names with
  | case1 =>
    obtain rfl := Except.ok.inj reached
    exact lands.elim
  | case2 here names induction => exact induction reached
  | case3 here names induction => exact induction reached
  | case4 | case5 | case8 | case11 => contradiction
  | case6 here name names dot up place unslashed short found induction =>
    have kept := keeps _ _ found (by simp)
    rw [descend_directory ⟨dot, up⟩ (by decide) short kept]
    exact induction reached
  | case7 here name names dot up place unslashed short held found last =>
    obtain rfl := Except.ok.inj reached
    obtain rfl : place = there := lands
    obtain ⟨rfl, rfl⟩ : names = [] ∧ slashed = false := by simp_all
    exact descend_single_written ⟨dot, up⟩ short
  | case9 =>
    obtain rfl := Except.ok.inj reached
    exact lands.elim
  | case10 here name names dot up place unslashed short found last =>
    obtain rfl := Except.ok.inj reached
    obtain rfl : place = there := lands
    obtain ⟨rfl, rfl⟩ : names = [] ∧ slashed = false := by simp_all
    exact descend_single_written ⟨dot, up⟩ short

theorem follow_written (lands : LandsAt there arrival)
    (reached : tree.follow .write links here names slashed = .ok arrival) :
    follow (tree.insert there (.file content)) .look links here names slashed =
      .ok (.file there content) := by
  have keeps := keeps_insert (free_of_lands lands (held_of_follow reached)) (.file content)
  fun_induction follow tree .write links here names slashed with
  | case1 links here names slashed location target rest passed last => simp at last
  | case2 => cases reached
  | case3 here names slashed location target rest passed onward links induction =>
    rw [follow_link (descend_of_keeps .look (by decide) keeps trivial passed) (by simp)]
    exact induction reached
  | case4 links here names slashed arrived =>
    exact follow_eq_descend (descend_written lands reached) (by simp)

theorem lands_of_writable (writable : tree.writable working path = .ok there) :
    ∃ arrival, tree.arrive .write working path = .ok arrival ∧ LandsAt there arrival := by
  rcases writable_ok writable with arrives | ⟨held, arrives⟩
  · exact ⟨_, arrives, rfl⟩
  · exact ⟨_, arrives, rfl⟩

theorem keeps_written (writable : tree.writable working path = .ok there) (entry : FileEntry) :
    tree.Keeps (tree.insert there entry) := by
  obtain ⟨arrival, arrives, lands⟩ := lands_of_writable writable
  exact keeps_insert (free_of_lands lands (held_of_follow (arrive_ok arrives).2.2.2)) entry

/-- What was written to a path is found by it. -/
theorem read_written (writable : tree.writable working path = .ok there) :
    read (tree.insert there (.file content)) working path = .ok content := by
  obtain ⟨arrival, arrives, lands⟩ := lands_of_writable writable
  obtain ⟨whole, nonempty, short, followed⟩ := arrive_ok arrives
  have found : arrive (tree.insert there (.file content)) .look working path =
      .ok (.file there content) :=
    (arrive_eq_follow whole nonempty short).trans (follow_written lands followed)
  rw [read, found]
  rfl

end FileTree

open FileTree

namespace Machine

variable {α β : Type}

theorem converse_bind (dialogue : Dialogue host α) (continuation : α → Dialogue host β)
    (machine : Machine) : converse (dialogue >>= continuation) machine =
      converse (continuation (converse dialogue machine).1) (converse dialogue machine).2 := by
  have parts := Dialogue.interpret_bind (m := StateM Machine) answer dialogue continuation
  exact congrFun parts machine

/-- An attempt in two parts goes on with its second part unless the first one fails. -/
theorem converse_attempt_bind (attempt : Attempt host α) (continuation : α → Attempt host β)
    (machine : Machine) : converse (attempt >>= continuation).outcome machine =
      match converse attempt.outcome machine with
      | (.ok value, reached) => converse (continuation value).outcome reached
      | (.error failure, reached) => (.error failure, reached) := by
  change converse (attempt.outcome >>= ExceptT.bindCont continuation) machine = _
  rw [converse_bind]
  cases converse attempt.outcome machine with
  | mk outcome reached => cases outcome <;> rfl

section Writing

variable {machine : Machine} {base path content : String} {there location : Location}
  {files : List (String × String)}

theorem converse_write_text_ok
    (writable : machine.files.writable machine.workingDirectory path = .ok location) :
    converse (Host.writeText path content).outcome machine = (.ok (),
      { machine with files := machine.files.insert location (.file (Text.toBytes content)) }) := by
  have written : machine.writeFile path (Text.toBytes content) =
      ({ machine with files := machine.files.insert location (.file (Text.toBytes content)) },
        .ok ()) := by
    rw [writeFile, write, writable]
    rfl
  change (((machine.writeFile path (Text.toBytes content)).2.mapError Error.io),
    (machine.writeFile path (Text.toBytes content)).1) = _
  rw [written]
  rfl

theorem converse_write_text_error {cause : IoFailure}
    (refused : machine.files.writable machine.workingDirectory path = .error cause) :
    converse (Host.writeText path content).outcome machine = (.error (.io cause), machine) := by
  have kept : machine.writeFile path (Text.toBytes content) = (machine, .error cause) := by
    rw [writeFile, write, refused]
    rfl
  change (((machine.writeFile path (Text.toBytes content)).2.mapError Error.io),
    (machine.writeFile path (Text.toBytes content)).1) = _
  rw [kept]
  rfl

/-- A path to a directory that is there or can be made, has nothing in it and room for any name. -/
structure Fresh (machine : Machine) (base : String) (there : Location) : Prop where
  made : (machine.makeDirectories base).2 = .ok ()
  reached : Reached (machine.makeDirectories base).1.files machine.workingDirectory base there
  empty : (machine.makeDirectories base).1.files.below there = []

theorem arrives_of_directory_at (found : machine.directoryAt? path = some location) :
    machine.files.arrive .look machine.workingDirectory path = .ok (.directory location) := by
  rw [directoryAt?] at found
  split at found
  · rename_i reached
    rw [reached, Option.some.inj found]
  · contradiction

/-- Whether a file has a name that is not taken for a path. -/
def isSingle (file : String × String) : Bool := !file.1.toList.contains '/'

def bytes (file : String × String) : String × Bytes := (file.1, Text.toBytes file.2)

/-- How the writing of files ends that all have such names, or that do not. -/
def WritingEnds : Bool → Except Error Unit → Prop
  | true, outcome => outcome = .ok ()
  | false, outcome => outcome = .error (.io .notFound) ∨ outcome = .error (.io .notADirectory)

/-- Files are written up to the first with a slash in its name. -/
theorem converse_write_texts (reached : machine.files.Reached machine.workingDirectory base there)
    (flat : machine.files.Flat there) (suitable : ∀ file ∈ files, Suitable file.1) :
    ∃ outcome, converse
        (Host.writeTexts (files.map fun file => (Path.join base file.1, file.2))).outcome machine =
      (outcome, { machine with
        files := machine.files.withFiles there ((files.takeWhile isSingle).map bytes) }) ∧
      WritingEnds (files.all isSingle) outcome := by
  induction files generalizing machine with
  | nil => exact ⟨.ok (), rfl, rfl⟩
  | cons file files induction =>
      obtain ⟨fits, others⟩ := List.forall_mem_cons.1 suitable
      rw [List.map_cons, Host.writeTexts, converse_attempt_bind]
      cases single : isSingle file with
      | true =>
          have whole : '/' ∉ file.1.toList := by simpa [isSingle] using single
          rw [converse_write_text_ok (writable_join reached fits flat whole)]
          let next : FileTree :=
            machine.files.insert (there ++ [file.1]) (.file (Text.toBytes file.2))
          have kept : next.Reached machine.workingDirectory base there :=
            reached_of_keeps (keeps_insert (flat file.1) _) reached
          obtain ⟨outcome, run, ended⟩ :=
            @induction { machine with files := next } kept (flat_insert flat) others
          refine ⟨outcome, ?_, ?_⟩
          · rw [List.takeWhile_cons_of_pos single]
            exact run
          · rw [List.all_cons, single, Bool.true_and]
            exact ended
      | false =>
          have broken : '/' ∈ file.1.toList := by simpa [isSingle] using single
          rw [List.takeWhile_cons_of_neg (by simp [single]), List.all_cons, single,
            Bool.false_and]
          rcases writable_join_broken reached fits flat broken with refused | refused
          · rw [converse_write_text_error refused]
            exact ⟨_, rfl, .inl rfl⟩
          · rw [converse_write_text_error refused]
            exact ⟨_, rfl, .inr rfl⟩

theorem converse_make_directories :
    converse (Host.makeDirectories base).outcome machine =
      ((machine.makeDirectories base).2.mapError Error.io, (machine.makeDirectories base).1) := rfl

/-- How the writing of files ends, given why the first that was refused was. -/
def writingOutcome : Option IoFailure → Except Error Unit
  | none => .ok ()
  | some cause => .error (.io cause)

/-- The files before the first that is refused. -/
def unrefused (tree : FileTree) (base : String) (there : Location)
    (files : List (String × String)) : List (String × String) :=
  files.takeWhile fun file => (tree.refusal? base there file.1).isNone

/-- A tree after the writing of files, as far as it comes. -/
def withUnrefused (tree : FileTree) (base : String) (there : Location)
    (files : List (String × String)) : FileTree :=
  tree.withFiles there ((unrefused tree base there files).map bytes)

/-- What is written in between makes no difference to what is refused. -/
theorem refusal_insert {tree : FileTree} {name : String} {content : Bytes}
    (free : tree.refusal? base there name = none) :
    refusal? (tree.insert (there ++ [name]) (.file content)) base there =
      tree.refusal? base there := by
  funext other
  apply refusal_congr
  rw [get_insert]
  split
  · rename_i same
    rw [← same]
    exact iff_of_false (by simp) (not_directory_of_unrefused free)
  · rfl

section Entries

variable (leads : machine.files.Leads machine.workingDirectory base there)
  (named : ∀ file ∈ files, EntryName file.1)
  (unlinked : ∀ file ∈ files, ∀ target,
    machine.files[there ++ [file.1]]? ≠ some (FileEntry.link target))
include leads named unlinked

/-- Files are written up to the first that is refused, unless a link leads elsewhere. -/
theorem converse_write_texts_eq :
    converse (Host.writeTexts
        (files.map fun file => (Path.join base file.1, file.2))).outcome machine =
      (writingOutcome (files.findSome? fun file => machine.files.refusal? base there file.1),
        { machine with files := withUnrefused machine.files base there files }) ∧
    (withUnrefused machine.files base there files).Leads machine.workingDirectory base there := by
  induction files generalizing machine with
  | nil => exact ⟨rfl, leads⟩
  | cons file files induction =>
      obtain ⟨name, names⟩ := List.forall_mem_cons.1 named
      obtain ⟨straight, others⟩ := List.forall_mem_cons.1 unlinked
      have place := writable_join_eq leads name straight
      rw [List.map_cons, Host.writeTexts, converse_attempt_bind, List.findSome?_cons,
        withUnrefused, unrefused]
      cases refused : machine.files.refusal? base there file.1 with
      | some cause =>
          rw [refused] at place
          rw [converse_write_text_error place, List.takeWhile_cons_of_neg (by simp [refused])]
          exact ⟨rfl, leads⟩
      | none =>
          rw [refused] at place
          rw [converse_write_text_ok place, List.takeWhile_cons_of_pos (by simp [refused])]
          let next : FileTree :=
            machine.files.insert (there ++ [file.1]) (.file (Text.toBytes file.2))
          have kept : next.Leads machine.workingDirectory base there :=
            leads_of_keeps (keeps_insert (writable_join_ok leads name straight place).2 _) leads
          -- A file that was written is no link, whatever name comes next.
          have unlinked : ∀ other ∈ files, ∀ target,
              next[there ++ [other.1]]? ≠ some (FileEntry.link target) := by
            intro other member target
            rw [get_insert]
            split
            · nofun
            · exact others other member target
          have rest := @induction { machine with files := next } kept names unlinked
          rw [withUnrefused, unrefused, refusal_insert refused] at rest
          exact rest

/-- Files that could all be written are there with what was written, unless a link led elsewhere. -/
theorem converse_write_texts_ok
    (written : (converse (Host.writeTexts
      (files.map fun file => (Path.join base file.1, file.2))).outcome machine).1 = .ok ()) :
    (converse (Host.writeTexts
        (files.map fun file => (Path.join base file.1, file.2))).outcome machine).2 =
      { machine with files := machine.files.withFiles there (files.map bytes) } ∧
    (machine.files.withFiles there (files.map bytes)).Leads machine.workingDirectory base
      there := by
  obtain ⟨run, kept⟩ := converse_write_texts_eq leads named unlinked
  rw [run] at written ⊢
  cases first : files.findSome? fun file => machine.files.refusal? base there file.1 with
  | some cause =>
      rw [first] at written
      contradiction
  | none =>
      have whole : unrefused machine.files base there files = files := by
        rw [unrefused, List.takeWhile_eq_self_iff]
        intro file member
        simpa using List.findSome?_eq_none_iff.1 first file member
      rw [withUnrefused, whole] at kept ⊢
      exact ⟨rfl, kept⟩

end Entries

end Writing

end Machine
end TraceOverhead
