import TraceOverhead.Proofs.File.Making
import TraceOverhead.Proofs.File.Writing
import TraceOverhead.Proofs.Json.Lexeme
import TraceOverhead.Proofs.Report.Plots
import TraceOverhead.Report.Files
/-!
The combined property text as it is read back: a line for every key, cut at its first equals sign
between spaces. Main statement: the text is written to any path that can be written to, it says what
the keys and their values are, and no other file changes.
-/

namespace TraceOverhead.ReportFiles

open FileTree Machine

variable {entries other : FlatMap} {machine : Machine} {path : String} {location : Location}

/-- A line cut at its first equals sign between spaces. -/
def assignment? : List Char → Option (List Char × List Char)
  | ' ' :: '=' :: ' ' :: value => some ([], value)
  | character :: rest => (assignment? rest).map fun (key, value) => (character :: key, value)
  | [] => none

def splitLine (line : String) : Option (String × String) :=
  (assignment? line.toList).map fun (key, value) => (String.ofList key, String.ofList value)

/-- A table whose entries each keep to a line, and whose keys cannot be taken for a key with a
value. -/
structure Legible (entries : FlatMap) : Prop where
  keys : ∀ key ∈ entries, '\n' ∉ key.toList ∧ ¬ [' ', '='] <:+: key.toList
  texts : ∀ key text : String, entries[key]? = some (Json.string text) → '\n' ∉ text.toList

/-- What a text says if each of its lines is cut: the keys of a table in the order of their bytes,
with their values. -/
structure Spells (text : String) (entries : FlatMap) : Prop where
  lines : ∃ lines : List String,
    Text.pieces '\n' text.toList = lines.map String.toList ++ [[]] ∧
      lines.length = entries.size ∧
      lines.map splitLine = entries.toList.map fun entry => some (entry.1, renderValue entry.2)
  ordered : entries.toList.Pairwise fun first second =>
    Text.toBytes first.1 < Text.toBytes second.1

section Lines

theorem assignment_append {key : List Char} (plain : ¬ [' ', '='] <:+: key) (value : List Char) :
    assignment? (key ++ ' ' :: '=' :: ' ' :: value) = some (key, value) := by
  induction key with
  | nil => rfl
  | cons character key induction =>
      have later : ¬ [' ', '='] <:+: key := fun inside => plain (List.infix_cons inside)
      rw [List.cons_append, assignment?.eq_2, induction later]
      · rfl
      · -- A key that starts with a space does not go on with an equals sign.
        rintro after rfl opening
        cases key with
        | nil => exact absurd (List.cons.inj opening).1 (by decide)
        | cons second key =>
            obtain rfl : second = '=' := (List.cons.inj opening).1
            exact plain ⟨[], key, rfl⟩

theorem split_line_append {key value line : String} (plain : ¬ [' ', '='] <:+: key.toList)
    (spelled : line.toList = key.toList ++ ' ' :: '=' :: ' ' :: value.toList) :
    splitLine line = some (key, value) := by
  rw [splitLine, spelled, assignment_append plain]
  simp

theorem not_mem_render_value {value : Json}
    (text : ∀ text : String, value = .string text → '\n' ∉ text.toList) :
    '\n' ∉ (renderValue value).toList := by
  have compact : '\n' ∉ value.compact.toList := by
    rw [Json.compact, String.toList_ofList]
    exact Json.not_mem_compact_chars value
  cases value with
  | null => decide
  | string content => exact text content rfl
  | bool | number | array | object => exact compact

/-- The line of an entry, without its end. -/
def entryLine (entry : String × Json) : String := entry.1 ++ " = " ++ renderValue entry.2

theorem property_line_eq (entry : String × Json) :
    (propertyLine entry).toList = (entryLine entry).toList ++ ['\n'] := by
  simp [propertyLine, entryLine]

theorem properties_text_eq (entries : FlatMap) : (propertiesText entries).toList =
    ((entries.toList.map entryLine).map String.toList).flatMap (· ++ ['\n']) := by
  rw [propertiesText, String.toList_join]
  simp [List.flatMap_map, property_line_eq]

variable (legible : Legible entries)
include legible

theorem not_mem_entry_line {entry : String × Json} (listed : entry ∈ entries.toList) :
    '\n' ∉ (entryLine entry).toList := by
  have key := (legible.keys entry.1 (mem_iff_listed.2 ⟨_, listed⟩)).1
  have value : '\n' ∉ (renderValue entry.2).toList := by
    apply not_mem_render_value
    rintro text same
    refine legible.texts entry.1 text (Std.TreeMap.mem_toList_iff_getElem?_eq_some.1 ?_)
    rw [← same]
    exact listed
  simp [entryLine, key, value]

theorem split_entry_line {entry : String × Json} (listed : entry ∈ entries.toList) :
    splitLine (entryLine entry) = some (entry.1, renderValue entry.2) := by
  apply split_line_append (legible.keys entry.1 (mem_iff_listed.2 ⟨_, listed⟩)).2
  simp [entryLine]

theorem spells_properties_text : Spells (propertiesText entries) entries := by
  refine ⟨⟨entries.toList.map entryLine, ?pieces, ?count, ?split⟩, sorted_by_bytes entries⟩
  case pieces =>
    rw [properties_text_eq, Text.pieces_lines]
    rw [List.map_map, List.forall_mem_map]
    exact fun entry listed => not_mem_entry_line legible listed
  case count => rw [List.length_map, Std.TreeMap.length_toList]
  case split =>
    rw [List.map_map]
    exact List.map_congr_left fun entry listed => split_entry_line legible listed

end Lines

section Tables

/-- An entry as a reader of the text sees it. -/
def shown (entry : String × Json) : String × String := (entry.1, renderValue entry.2)

theorem shown_eq_of_spells {text : String} (spells : Spells text entries)
    (again : Spells text other) : entries.toList.map shown = other.toList.map shown := by
  obtain ⟨lines, pieces, _, split⟩ := spells.lines
  obtain ⟨others, cut, _, divided⟩ := again.lines
  have texts := List.append_cancel_right (pieces.symm.trans cut)
  obtain rfl := List.map_injective_iff.2 (fun _ _ => String.toList_inj.1) texts
  apply List.map_injective_iff.2 fun _ _ => Option.some.inj
  rw [List.map_map, List.map_map]
  exact split.symm.trans divided

theorem get_rendered_iff {key text : String} :
    entries[key]?.map renderValue = some text ↔ (key, text) ∈ entries.toList.map shown := by
  rw [Option.map_eq_some_iff, List.mem_map]
  constructor
  · rintro ⟨value, found, rfl⟩
    exact ⟨(key, value), Std.TreeMap.mem_toList_iff_getElem?_eq_some.2 found, rfl⟩
  · rintro ⟨⟨name, value⟩, listed, same⟩
    obtain ⟨rfl, rfl⟩ := Prod.mk.inj same
    exact ⟨value, Std.TreeMap.mem_toList_iff_getElem?_eq_some.1 listed, rfl⟩

/-- A text says which keys there are and what their values look like. -/
theorem rendered_eq_of_spells {text : String} (spells : Spells text entries)
    (again : Spells text other) (key : String) :
    entries[key]?.map renderValue = other[key]?.map renderValue := by
  ext rendered
  simp only [get_rendered_iff, shown_eq_of_spells spells again]

end Tables

section Writing

/-- A machine with the directories that a path needs, if they can be made. -/
def withParents (machine : Machine) (path : String) : Machine × Except IoFailure Unit :=
  match Path.parent? path with
  | none => (machine, .ok ())
  | some directory => machine.makeDirectories directory

/-- What has become of a machine by the writing of a text to a path. -/
structure TextWritten (text path : String) (location : Location) (before after : Machine) :
    Prop where
  content : after.files.read after.workingDirectory path = .ok (Text.toBytes text)
  placed : after.files[location]? = some (.file (Text.toBytes text))
  parents : ∀ directory, Path.parent? path = some directory →
    directory = "" ∨ after.files.isDirectory after.workingDirectory directory = true
  others : ∀ place, place ≠ location → before.files.Spares after.files place
  elsewhere : after = { before with files := after.files }

variable (made : (withParents machine path).2 = .ok ())
include made

theorem converse_properties_text :
    converse (writePropertiesText entries path).outcome machine =
      converse (Host.writeText path (propertiesText entries)).outcome
        (withParents machine path).1 := by
  rw [writePropertiesText]
  rw [withParents] at made ⊢
  cases parent : Path.parent? path with
  | none => rfl
  | some directory =>
      rw [parent] at made
      split
      · contradiction
      · obtain rfl : directory = "" := by simpa using ‹some directory = some ""›
        rfl
      · obtain rfl : directory = _ := Option.some.inj ‹_›
        rw [converse_attempt_bind, converse_make_directories, made]
        rfl

omit made in
/-- At most directories more come of the making of parents. -/
theorem with_parents_eq (machine : Machine) (path : String) :
    machine.files.Adds (withParents machine path).1.files ∧
      (withParents machine path).1 =
        { machine with files := (withParents machine path).1.files } := by
  rw [withParents]
  split
  · exact ⟨adds_refl _, rfl⟩
  · exact ⟨adds_make_directories machine.files machine.workingDirectory _, rfl⟩

theorem parent_made {directory : String} (parent : Path.parent? path = some directory)
    (nonempty : directory ≠ "") : (withParents machine path).1.files.isDirectory
      machine.workingDirectory directory = true := by
  rw [withParents, parent] at made ⊢
  exact is_directory_of_make_directories nonempty made

theorem text_written (writable : (withParents machine path).1.files.writable
      machine.workingDirectory path = .ok location) (text : String) :
    ∃ after, converse (Host.writeText path text).outcome (withParents machine path).1 =
      (.ok (), after) ∧ TextWritten text path location machine after := by
  obtain ⟨adds, same⟩ := with_parents_eq machine path
  have there := fun directory => @parent_made machine path made directory
  generalize withParents machine path = parented at *
  have run : converse (Host.writeText path text).outcome parented.1 = (.ok (), { machine with
      files := parented.1.files.insert location (.file (Text.toBytes text)) }) := by
    rw [same]
    exact converse_write_text_ok writable
  refine ⟨_, run, read_written writable, ?placed, ?parents, ?others, rfl⟩
  case placed => exact (get_insert ..).trans (if_pos rfl)
  case parents =>
    intro directory parent
    refine or_iff_not_imp_left.2 fun nonempty => ?_
    obtain ⟨above, arrives⟩ := is_directory_iff.1 (there directory parent nonempty)
    exact is_directory_of_leads (there directory parent nonempty)
      (leads_of_keeps (keeps_written writable _) (leads_of_arrives arrives))
  case others =>
    intro place apart
    have untouched := (get_insert parented.1.files location place
      (.file (Text.toBytes text))).trans (if_neg (Ne.symm apart))
    rw [Spares, untouched]
    exact adds place

end Writing

/-- The property text is written to every path that can be written to once its parents are made. It
says what the keys and their values are, as they are read, and nothing else changes. -/
theorem properties_read_back (entries : FlatMap) (legible : Legible entries) (machine : Machine)
    (path : String) (location : Location) (made : (withParents machine path).2 = .ok ())
    (writable : (withParents machine path).1.files.writable machine.workingDirectory path =
      .ok location) :
    (∃ after, converse (writePropertiesText entries path).outcome machine = (.ok (), after) ∧
      TextWritten (propertiesText entries) path location machine after) ∧
    Spells (propertiesText entries) entries ∧
    ∀ other, Legible other → propertiesText other = propertiesText entries →
      ∀ key : String, other[key]?.map renderValue = entries[key]?.map renderValue := by
  have spells := spells_properties_text legible
  refine ⟨?_, spells, fun other plain same => ?_⟩
  · rw [converse_properties_text made]
    exact text_written made writable (propertiesText entries)
  · exact rendered_eq_of_spells (same ▸ spells_properties_text plain) spells

section Small

/-- Keys and values that are hard to tell apart, and a line feed that is not written as it is. -/
def oddEntries : FlatMap :=
  (((∅ : FlatMap).insert "" (.string " = odd")).insert "a= b" .null).insert "z "
    (.array [.bool true, .string "two\nlines"])

def oddText : String := " =  = odd\na= b = None\nz  = [true,\"two\\nlines\"]\n"

theorem legible_odd_entries : Legible oddEntries := by
  have keys : ∀ key ∈ oddEntries.keys, '\n' ∉ key.toList ∧ ¬ [' ', '='] <:+: key.toList := by
    decide +kernel
  have texts : ∀ text ∈ oddEntries.toList.map fun entry => renderValue entry.2,
      '\n' ∉ text.toList := by decide +kernel
  refine ⟨fun key listed => keys key (Std.TreeMap.mem_keys.2 listed), fun key text found => ?_⟩
  have listed := Std.TreeMap.mem_toList_iff_getElem?_eq_some.2 found
  exact texts text (List.mem_map.2 ⟨_, listed, rfl⟩)

theorem odd_properties_read_back :
    Legible oddEntries ∧ propertiesText oddEntries = oddText ∧ Spells oddText oddEntries ∧
    (withParents Report.home "out/all.properties").2 = .ok () ∧
    (withParents Report.home "out/all.properties").1.files.writable Report.home.workingDirectory
      "out/all.properties" = .ok ["home", "out", "all.properties"] ∧
    ∃ after, converse (writePropertiesText oddEntries "out/all.properties").outcome Report.home =
        (.ok (), after) ∧
      TextWritten oddText "out/all.properties" ["home", "out", "all.properties"] Report.home
        after := by
  have text : propertiesText oddEntries = oddText := by decide +kernel
  have made : (withParents Report.home "out/all.properties").2 = .ok () := by decide +kernel
  have writable : (withParents Report.home "out/all.properties").1.files.writable
      Report.home.workingDirectory "out/all.properties" =
        .ok ["home", "out", "all.properties"] := by decide +kernel
  obtain ⟨written, spells, _⟩ :=
    properties_read_back oddEntries legible_odd_entries Report.home _ _ made writable
  rw [text] at written spells
  exact ⟨legible_odd_entries, text, spells, made, writable, written⟩

end Small

end TraceOverhead.ReportFiles
