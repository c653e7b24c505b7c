import Mathlib.Data.List.Nodup
import TraceOverhead.Proofs.File.Making
import TraceOverhead.Proofs.File.Writing
import TraceOverhead.Proofs.Tracepoint.Sources
import TraceOverhead.Tracepoint.Files
/-!
The files of generated tracepoints. Their names are told apart by the numbers in them, so no file is
written over another. Main statement: if all could be written, each of them holds its source, the
header calls what the others define, and nothing else changed but for directories that were made.
-/

namespace TraceOverhead.Tracepoint

open FileTree Machine TraceOverhead.Random

section Names

variable {count : Nat} {tracepoints : List Tracepoint} {name : String}

def templateName (number : Nat) : String := "random_tp_" ++ Number.decimal number ++ ".tp"

/-- The names of the files of tracepoints numbered from one, and of their header. -/
def fileNames (count : Nat) : List String :=
  (List.range' 1 count).map templateName ++ ["generated_tp.h"]

theorem template_name_inj {first second : Nat} (same : templateName first = templateName second) :
    first = second := by
  have texts := congrArg String.toList same
  simp only [templateName, String.toList_append] at texts
  have numbers := List.append_cancel_left (List.append_cancel_right texts)
  exact Number.decimal_inj.1 (String.toList_inj.1 numbers)

theorem template_name_spelled (number : Nat) : ∃ middle,
    (templateName number).toList = 'r' :: middle ++ ['p'] :=
  ⟨"andom_tp_".toList ++ (Number.decimal number).toList ++ ".t".toList, by simp [templateName]⟩

theorem is_operand_template_name (number : Nat) : IsOperand (templateName number) :=
  is_operand_append.2 ⟨is_operand_append.2 ⟨by decide, is_operand_decimal number⟩, by decide⟩

theorem mem_file_names_iff : name ∈ fileNames count ↔
    (∃ number ∈ List.range' 1 count, templateName number = name) ∨ name = "generated_tp.h" := by
  rw [fileNames, List.mem_append, List.mem_map, List.mem_singleton]

theorem nodup_file_names (count : Nat) : (fileNames count).Nodup := by
  rw [fileNames, List.nodup_append]
  refine ⟨List.Nodup.map (fun _ _ => template_name_inj) List.nodup_range',
    List.nodup_singleton _, ?_⟩
  intro template listed headed member same
  obtain ⟨number, _, rfl⟩ := List.mem_map.1 listed
  obtain ⟨middle, spelled⟩ := template_name_spelled number
  rw [same, List.mem_singleton.1 member] at spelled
  exact absurd (List.cons.inj spelled).1 (by decide)

theorem entry_name_of_mem (listed : name ∈ fileNames count) : EntryName name := by
  rcases mem_file_names_iff.1 listed with ⟨number, _, rfl⟩ | rfl
  · obtain ⟨middle, spelled⟩ := template_name_spelled number
    refine ⟨?_, not_mem_of_is_operand (is_operand_template_name number) rfl, ?_, ?_⟩ <;>
      intro same <;> rw [same] at spelled <;> exact absurd spelled (by simp)
  · exact ⟨by decide, by decide, by decide⟩

theorem suitable_of_mem (listed : name ∈ fileNames count) (short : byteLength name ≤ nameLimit) :
    Suitable name := by
  rcases mem_file_names_iff.1 listed with ⟨number, _, rfl⟩ | rfl
  · obtain ⟨middle, spelled⟩ := template_name_spelled number
    exact ⟨⟨'r', middle ++ ['p'], spelled, by decide, by decide⟩,
      ⟨'r' :: middle, 'p', spelled, by decide⟩,
      not_mem_of_is_operand (is_operand_template_name number) rfl, short⟩
  · exact ⟨⟨'g', _, rfl, by decide, by decide⟩, ⟨"generated_tp.".toList, 'h', rfl, by decide⟩,
      by decide, short⟩

/-- The files of tracepoints by their names. -/
def sources (tracepoints : List Tracepoint) : List (String × String) :=
  tracepoints.map (fun tracepoint => (tracepoint.fileName, tracepoint.definition)) ++
    [(headerName, header tracepoints)]

theorem names_of_sources (numbered : tracepoints.map Tracepoint.number = List.range' 1 count) :
    (sources tracepoints).map Prod.fst = fileNames count := by
  rw [sources, fileNames, ← numbered, List.map_append, List.map_map, List.map_map]
  rfl

theorem mem_file_names_of_source
    (numbered : tracepoints.map Tracepoint.number = List.range' 1 count) :
    ∀ file ∈ sources tracepoints, file.1 ∈ fileNames count := by
  intro file member
  rw [← names_of_sources numbered]
  exact List.mem_map_of_mem member

theorem write_all_eq (base : String) (tracepoints : List Tracepoint) :
    writeAll base tracepoints = Host.makeDirectories base >>= fun _ =>
      Host.writeTexts ((sources tracepoints).map fun file => (Path.join base file.1, file.2)) := by
  rw [sources, List.map_append, List.map_map]
  rfl

end Names

section Writing

variable {count : Nat} {tracepoints : List Tracepoint} {machine after : Machine} {base : String}
  {there : Location}

/-- What a machine has when the sources of numbered tracepoints have been written to a directory. -/
structure SourcesWritten (count : Nat) (tracepoints : List Tracepoint) (before after : Machine)
    (base : String) (there : Location) : Prop where
  leads : after.files.Leads after.workingDirectory base there
  names : (sources tracepoints).map Prod.fst = fileNames count
  distinct : (fileNames count).Nodup
  contents : ∀ file ∈ sources tracepoints,
    after.files[there ++ [file.1]]? = some (.file (Text.toBytes file.2))
  others : ∀ location, (∀ name ∈ fileNames count, location ≠ there ++ [name]) →
    after.files[location]? = before.files[location]? ∨
      before.files[location]? = none ∧ after.files[location]? = some .directory
  elsewhere : after = { before with files := after.files }

theorem sources_written_of_made
    (numbered : tracepoints.map Tracepoint.number = List.range' 1 count)
    (adds : machine.files.Adds after.files) (rest : after = { machine with files := after.files })
    (leads : after.files.Leads after.workingDirectory base there)
    (unlinked : ∀ name ∈ fileNames count, ∀ target,
      machine.files[there ++ [name]]? ≠ some (FileEntry.link target))
    (written : (converse (Host.writeTexts ((sources tracepoints).map
      fun file => (Path.join base file.1, file.2))).outcome after).1 = .ok ()) :
    SourcesWritten count tracepoints machine (converse (Host.writeTexts ((sources tracepoints).map
      fun file => (Path.join base file.1, file.2))).outcome after).2 base there := by
  have names := names_of_sources numbered
  have listed := mem_file_names_of_source numbered
  have distinct : (((sources tracepoints).map bytes).map Prod.fst).Nodup := by
    rw [List.map_map]
    exact names ▸ nodup_file_names count
  obtain ⟨ended, kept⟩ := converse_write_texts_ok leads
    (fun file member => entry_name_of_mem (listed file member))
    (fun file member => not_link_of_adds adds (unlinked file.1 (listed file member))) written
  rw [ended]
  refine ⟨kept, names, nodup_file_names count, ?contents, ?others, ?elsewhere⟩
  case contents =>
    intro file member
    exact (get_with_files distinct).2 (.inl ⟨bytes file, List.mem_map_of_mem member, rfl, rfl⟩)
  case others =>
    intro location apart
    dsimp only
    rw [get_with_files_elsewhere distinct]
    · exact adds location
    · rw [List.forall_mem_map]
      exact fun file member => apart file.1 (listed file member)
  case elsewhere => rw [rest]

theorem sources_written (numbered : tracepoints.map Tracepoint.number = List.range' 1 count)
    (written : (converse (writeAll base tracepoints).outcome machine).1 = .ok ()) :
    ∃ there, (machine.makeDirectories base).1.files.Leads machine.workingDirectory base there ∧
      ((∀ name ∈ fileNames count, ∀ target,
          machine.files[there ++ [name]]? ≠ some (FileEntry.link target)) →
        SourcesWritten count tracepoints machine
          (converse (writeAll base tracepoints).outcome machine).2 base there) := by
  rw [write_all_eq, converse_attempt_bind, converse_make_directories] at written ⊢
  cases made : (machine.makeDirectories base).2 with
  | error cause =>
      rw [made] at written
      contradiction
  | ok _ =>
      rw [made] at written
      obtain ⟨there, leads⟩ : ∃ there, (machine.makeDirectories base).1.files.Leads
          machine.workingDirectory base there := leads_of_make_directories made
      exact ⟨there, leads, fun unlinked => sources_written_of_made numbered
        (adds_make_directories machine.files machine.workingDirectory base) rfl leads unlinked
        written⟩

/-- All can be written to a directory with nothing in it while the names are not too long. -/
theorem write_all_ok (numbered : tracepoints.map Tracepoint.number = List.range' 1 count)
    (fresh : machine.Fresh base there)
    (short : ∀ name ∈ fileNames count, byteLength name ≤ nameLimit) :
    (converse (writeAll base tracepoints).outcome machine).1 = .ok () := by
  have listed := mem_file_names_of_source numbered
  have flat : Flat (machine.makeDirectories base).1.files there := by
    intro part entry found
    rw [get_of_below_nil fresh.empty (List.cons_ne_nil _ _)] at found
    contradiction
  have single : (sources tracepoints).all isSingle = true := by
    rw [List.all_eq_true]
    intro file member
    simpa [isSingle] using (entry_name_of_mem (listed file member)).unbroken
  obtain ⟨outcome, writing, ended⟩ := converse_write_texts fresh.reached flat
    fun file member => suitable_of_mem (listed file member) (short file.1 (listed file member))
  rw [single] at ended
  rw [write_all_eq, converse_attempt_bind, converse_make_directories, fresh.made]
  dsimp only [Except.mapError]
  rw [writing]
  exact ended

/-- The files that are written of generated tracepoints are complete, and their sources fit. -/
theorem generated_sources_complete (count : Nat) (seed : UInt64) (machine : Machine) (base : String)
    (written : (converse (writeAll base (generate count seed)).outcome machine).1 = .ok ()) :
    (generate count seed).map Tracepoint.number = List.range' 1 count ∧
    (∃ there, (machine.makeDirectories base).1.files.Leads machine.workingDirectory base there ∧
      ((∀ name ∈ fileNames count, ∀ target,
          machine.files[there ++ [name]]? ≠ some (FileEntry.link target)) →
        SourcesWritten count (generate count seed) machine
          (converse (writeAll base (generate count seed)).outcome machine).2 base there)) ∧
    Spliced (generate count seed) ∧
    ∀ tracepoint ∈ generate count seed, tracepoint.PassesDeclared := by
  have sound := sound_generate count seed
  exact ⟨sound.numbered, sources_written sound.numbered written, spliced_header sound.consistent,
    fun tracepoint listed => passes_declared (sound.consistent tracepoint listed)⟩

def emptyHome : Machine := Machine.bare ["home"]

theorem fresh_empty_home : emptyHome.Fresh "out/src" ["home", "out", "src"] := by
  have made : (emptyHome.makeDirectories "out/src").2 = .ok () := by decide +kernel
  have found : (emptyHome.makeDirectories "out/src").1.directoryAt? "out/src" =
      some ["home", "out", "src"] := by decide +kernel
  have empty : (emptyHome.makeDirectories "out/src").1.files.below ["home", "out", "src"] = [] := by
    decide +kernel
  exact ⟨made, ⟨arrives_of_directory_at found, by decide⟩, empty⟩

theorem vacant_empty_home (name : String) :
    emptyHome.files[["home", "out", "src"] ++ [name]]? = none := by
  have shallow : ∀ held ∈ emptyHome.files.toList, held.1.length ≤ 2 := by decide +kernel
  rw [Option.eq_none_iff_forall_ne_some]
  intro entry found
  exact absurd (shallow _ (Std.TreeMap.mem_toList_iff_getElem?_eq_some.2 found)) (by simp)

theorem generated_sources_at_home :
    (converse (writeAll "out/src" (generate 2 standardSeed)).outcome emptyHome).1 = .ok () ∧
    (∀ name ∈ fileNames 2, ∀ target,
      emptyHome.files[["home", "out", "src"] ++ [name]]? ≠ some (FileEntry.link target)) ∧
    SourcesWritten 2 (generate 2 standardSeed) emptyHome
      (converse (writeAll "out/src" (generate 2 standardSeed)).outcome emptyHome).2 "out/src"
        ["home", "out", "src"] := by
  have written := write_all_ok (sound_generate 2 standardSeed).numbered fresh_empty_home (by decide)
  have unlinked : ∀ name ∈ fileNames 2, ∀ target,
      emptyHome.files[["home", "out", "src"] ++ [name]]? ≠ some (FileEntry.link target) := by
    intro name _ target
    rw [vacant_empty_home]
    nofun
  obtain ⟨_, ⟨there, leads, complete⟩, _⟩ :=
    generated_sources_complete 2 standardSeed emptyHome "out/src" written
  obtain rfl := leads_unique leads (leads_of_arrives fresh_empty_home.reached.arrives)
  exact ⟨written, unlinked, complete unlinked⟩

end Writing

end TraceOverhead.Tracepoint
