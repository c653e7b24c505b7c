import TraceOverhead.Proofs.File.Making
import TraceOverhead.Proofs.Report.Plots
import TraceOverhead.Proofs.Text.Bytes
/-!
Plot files that cannot all be written, since a name is too long, has a zero in it or is that of a
directory. Main statement: the files are written up to the first key, in the order of the bytes,
whose file is refused, with its failure as the outcome; nothing else changes, and to write once more
after a success changes nothing at all.
-/

namespace TraceOverhead.ReportFiles

open FileTree Machine

variable {entries : FlatMap} {machine made : Machine} {base key : String} {there : Location}
  {value : Json}

/-- Where the plot file of a key is. -/
def plotPlace (there : Location) (key : String) : Location := there ++ [key ++ ".properties"]

def plotContent (value : Json) : FileEntry :=
  .file (Text.toBytes ("YVALUE=" ++ renderValue value ++ "\n"))

/-- Where the plot file of a key would be written, or why it cannot be. -/
def plotTarget (machine : Machine) (base key : String) : Except IoFailure Location :=
  machine.files.writable machine.workingDirectory (plotPath base key)

/-- What comes of the writing of plots. -/
def writePlots (entries : FlatMap) (base : String) (machine : Machine) :
    Except Error Unit × Machine :=
  converse (writePlotProperties entries base).outcome machine

/-- How the writing of plots into a directory that was made ends, and what the files of the keys
are then. -/
inductive PlotsEnd (entries : FlatMap) (made : Machine) (base : String) (there : Location)
    (after : FileTree) : Except Error Unit → Prop
  | complete
      (written : ∀ key value, entries[key]? = some value →
        plotTarget made base key = .ok (plotPlace there key) ∧
          after[plotPlace there key]? = some (plotContent value)) :
      PlotsEnd entries made base there after (.ok ())
  | cut {first : String} {cause : IoFailure} (listed : first ∈ entries)
      (refused : plotTarget made base first = .error cause)
      (earlier : ∀ key value, entries[key]? = some value →
        Text.toBytes key < Text.toBytes first →
          plotTarget made base key = .ok (plotPlace there key) ∧
            after[plotPlace there key]? = some (plotContent value))
      (later : ∀ key ∈ entries, ¬ Text.toBytes key < Text.toBytes first →
        after[plotPlace there key]? = made.files[plotPlace there key]?) :
      PlotsEnd entries made base there after (.error (.io cause))

/-- What is left of the writing of plots by a machine that has made their directory. -/
structure PlotsLeft (entries : FlatMap) (made : Machine) (base : String) (there : Location)
    (ended : Except Error Unit × Machine) : Prop where
  plots : PlotsEnd entries made base there ended.2.files ended.1
  leads : ended.2.files.Leads ended.2.workingDirectory base there
  others : ∀ location, (∀ key ∈ entries, location ≠ plotPlace there key) →
    ended.2.files[location]? = made.files[location]?
  elsewhere : ended.2 = { made with files := ended.2.files, log := ended.2.log }
  shown : ∀ (key : String) value, entries[key]? = some value → ∃ text, ShownAs value text ∧
    plotContent value = .file (Text.toBytes ("YVALUE=" ++ text ++ "\n"))

section Keys

theorem entry_name_plot (plain : '/' ∉ key.toList) : EntryName (key ++ ".properties") := by
  have closing : (key ++ ".properties").toList.getLast? = some 's' := by simp
  refine ⟨?_, by simp [plain], ?_, ?_⟩ <;> intro same <;> rw [same] at closing <;>
    exact absurd closing (by decide)

theorem plot_place_inj {other : String} (same : plotPlace there key = plotPlace there other) :
    key = other := by
  have names := congrArg String.toList (List.singleton_inj.1 (List.append_cancel_left same))
  simp only [String.toList_append, List.append_cancel_right_eq] at names
  exact String.toList_inj.1 names

theorem not_later_iff {other : String} :
    compare other key ≠ .gt ↔ ¬ Text.toBytes key < Text.toBytes other := by
  rw [ne_eq, Std.OrientedCmp.gt_iff_lt, Text.compare_eq_lt_iff]

/-- Why the file of a key is refused, if it is. -/
def keyRefusal? (tree : FileTree) (base : String) (there : Location) (key : String) :
    Option IoFailure := tree.refusal? base there (key ++ ".properties")

/-- The first refused key has only keys before it that are not. -/
theorem first_refusal {refusal? : String → Option IoFailure} {cause : IoFailure}
    (found : entries.toList.findSome? (fun entry => refusal? entry.1) = some cause) :
    ∃ first ∈ entries, refusal? first = some cause ∧
      ∀ key ∈ entries, Text.toBytes key < Text.toBytes first → refusal? key = none := by
  obtain ⟨before, ⟨first, value⟩, after, split, refused, free⟩ :=
    List.findSome?_eq_some_iff.1 found
  have sorted := sorted_by_bytes entries
  rw [split, List.pairwise_append, List.pairwise_cons] at sorted
  refine ⟨first, mem_iff_listed.2 ⟨value, by simp [split]⟩, refused, ?_⟩
  intro key member less
  obtain ⟨held, listed⟩ := mem_iff_listed.1 member
  rw [split, List.mem_append, List.mem_cons] at listed
  rcases listed with earlier | same | later
  · exact free _ earlier
  · obtain ⟨rfl, _⟩ := Prod.mk.inj same
    exact absurd less (List.lt_irrefl _)
  · exact absurd less (List.lt_asymm (sorted.2.1.1 _ later))

end Keys

section Files

variable {tree : FileTree} {file : String × Bytes}

/-- The files of the keys up to the first that is refused. -/
def plotsWritten (tree : FileTree) (base : String) (there : Location) (entries : FlatMap) :
    List (String × Bytes) :=
  (unrefused tree base there (entries.toList.map plotted)).map bytes

theorem mem_plots_written_iff : file ∈ plotsWritten tree base there entries ↔
    ∃ key value, entries[key]? = some value ∧ file = bytes (plotted (key, value)) ∧
      ∀ other ∈ entries, ¬ Text.toBytes key < Text.toBytes other →
        keyRefusal? tree base there other = none := by
  have earlier : ∀ key, (∀ other held, entries[other]? = some held → compare other key ≠ .gt →
      (tree.refusal? base there (plotted (other, held)).1).isNone = true) ↔
        ∀ other ∈ entries, ¬ Text.toBytes key < Text.toBytes other →
          keyRefusal? tree base there other = none := by
    intro key
    simp only [mem_iff_listed, Std.TreeMap.mem_toList_iff_getElem?_eq_some, forall_exists_index,
      not_later_iff, Option.isNone_iff_eq_none]
    rfl
  simp only [plotsWritten, unrefused, List.mem_map, mem_takeWhile_plotted_iff, earlier]
  constructor
  · rintro ⟨_, ⟨key, value, found, rfl, free⟩, rfl⟩
    exact ⟨key, value, found, rfl, free⟩
  · rintro ⟨key, value, found, rfl, free⟩
    exact ⟨_, ⟨key, value, found, rfl, free⟩, rfl⟩

theorem get_plot_written (found : entries[key]? = some value)
    (free : ∀ other ∈ entries, ¬ Text.toBytes key < Text.toBytes other →
      keyRefusal? tree base there other = none) :
    (tree.withFiles there (plotsWritten tree base there entries))[plotPlace there key]? =
      some (plotContent value) :=
  (get_with_files (nodup_plotted _)).2
    (.inl ⟨_, mem_plots_written_iff.2 ⟨key, value, found, rfl, free⟩, rfl, rfl⟩)

theorem get_plot_unwritten {first : String} {cause : IoFailure} (listed : first ∈ entries)
    (refused : keyRefusal? tree base there first = some cause)
    (later : ¬ Text.toBytes key < Text.toBytes first) :
    (tree.withFiles there (plotsWritten tree base there entries))[plotPlace there key]? =
      tree[plotPlace there key]? := by
  refine get_with_files_elsewhere (nodup_plotted _) fun file member same => ?_
  obtain ⟨other, value, found, rfl, free⟩ := mem_plots_written_iff.1 member
  obtain rfl := plot_place_inj same
  rw [free first listed later] at refused
  contradiction

theorem get_elsewhere {location : Location}
    (apart : ∀ key ∈ entries, location ≠ plotPlace there key) :
    (tree.withFiles there (plotsWritten tree base there entries))[location]? = tree[location]? := by
  refine get_with_files_elsewhere (nodup_plotted _) fun file member => ?_
  obtain ⟨key, value, found, rfl, _⟩ := mem_plots_written_iff.1 member
  exact apart key (mem_of_found found)

end Files

section Run

variable (leads : made.files.Leads made.workingDirectory base there)
  (plain : ∀ key ∈ entries, '/' ∉ key.toList)
  (unlinked : ∀ key ∈ entries, ∀ target,
    made.files[plotPlace there key]? ≠ some (FileEntry.link target))
include leads plain unlinked

theorem plot_target_eq (listed : key ∈ entries) : plotTarget made base key =
    match keyRefusal? made.files base there key with
    | some failure => .error failure
    | none => .ok (plotPlace there key) :=
  writable_join_eq leads (entry_name_plot (plain key listed)) (unlinked key listed)

theorem unrefused_of_target {location : Location} (listed : key ∈ entries)
    (target : plotTarget made base key = .ok location) :
    keyRefusal? made.files base there key = none := by
  rw [plot_target_eq leads plain unlinked listed] at target
  cases refused : keyRefusal? made.files base there key with
  | none => rfl
  | some cause =>
      rw [refused] at target
      contradiction

theorem plots_complete (free : ∀ key ∈ entries, keyRefusal? made.files base there key = none) :
    PlotsEnd entries made base there
      (made.files.withFiles there (plotsWritten made.files base there entries)) (.ok ()) := by
  refine .complete fun key value found => ⟨?_, ?_⟩
  · have listed := mem_of_found found
    rw [plot_target_eq leads plain unlinked listed, free key listed]
  · exact get_plot_written found fun other listed _ => free other listed

theorem plots_cut {first : String} {cause : IoFailure} (listed : first ∈ entries)
    (refused : keyRefusal? made.files base there first = some cause)
    (free : ∀ key ∈ entries, Text.toBytes key < Text.toBytes first →
      keyRefusal? made.files base there key = none) :
    PlotsEnd entries made base there
      (made.files.withFiles there (plotsWritten made.files base there entries))
      (.error (.io cause)) := by
  refine .cut listed ?refused ?earlier fun key _ later => get_plot_unwritten listed refused later
  case refused => rw [plot_target_eq leads plain unlinked listed, refused]
  case earlier =>
    intro key value found less
    have member := mem_of_found found
    refine ⟨by rw [plot_target_eq leads plain unlinked member, free key member less], ?_⟩
    exact get_plot_written found fun other held within =>
      free other held (List.lt_of_le_of_lt (List.not_lt.1 within) less)

theorem plots_end : PlotsEnd entries made base there
    (made.files.withFiles there (plotsWritten made.files base there entries))
    (writingOutcome (entries.toList.findSome? fun entry =>
      keyRefusal? made.files base there entry.1)) := by
  generalize found : entries.toList.findSome? _ = refusal
  cases refusal with
  | none =>
      refine plots_complete leads plain unlinked fun key listed => ?_
      obtain ⟨value, member⟩ := mem_iff_listed.1 listed
      exact List.findSome?_eq_none_iff.1 found (key, value) member
  | some cause =>
      obtain ⟨first, listed, refused, free⟩ := first_refusal found
      exact plots_cut leads plain unlinked listed refused free

theorem plots_left {log : Array (Host.Level × String)} {outcome : Except Error Unit}
    {after : Machine} (run : converse (Host.writeTexts ((entries.toList.map plotted).map
      fun file => (Path.join base file.1, file.2))).outcome made = (outcome, after)) :
    PlotsLeft entries made base there (outcome, { after with log }) := by
  have named : ∀ file ∈ entries.toList.map plotted, EntryName file.1 := by
    rw [List.forall_mem_map]
    exact fun entry listed => entry_name_plot (plain _ (mem_iff_listed.2 ⟨_, listed⟩))
  have straight : ∀ file ∈ entries.toList.map plotted, ∀ target,
      made.files[there ++ [file.1]]? ≠ some (FileEntry.link target) := by
    rw [List.forall_mem_map]
    exact fun entry listed => unlinked _ (mem_iff_listed.2 ⟨_, listed⟩)
  obtain ⟨written, kept⟩ := converse_write_texts_eq leads named straight
  rw [run, List.findSome?_map] at written
  obtain ⟨rfl, rfl⟩ := Prod.mk.inj written
  exact ⟨plots_end leads plain unlinked, kept, fun _ apart => get_elsewhere apart, rfl,
    fun _ value _ => ⟨_, shown_as_render_value value, rfl⟩⟩

end Run

section Attempts

variable (making : (machine.makeDirectories base).2 = .ok ())
  (plain : ∀ key ∈ entries, '/' ∉ key.toList)
include making plain

theorem plots_left_of_made
    (leads : (machine.makeDirectories base).1.files.Leads machine.workingDirectory base there)
    (unlinked : ∀ key ∈ entries, ∀ target,
      (machine.makeDirectories base).1.files[plotPlace there key]? ≠
        some (FileEntry.link target)) :
    PlotsLeft entries (machine.makeDirectories base).1 base there
      (writePlots entries base machine) := by
  obtain ⟨log, run⟩ := converse_plots_of_made entries making
  rw [writePlots, run]
  exact plots_left leads plain unlinked rfl

omit plain in
/-- The directory of the plots is still there when they have been written. -/
theorem made_again {ended : Except Error Unit × Machine}
    (left : PlotsLeft entries (machine.makeDirectories base).1 base there ended) :
    ended.2.makeDirectories base = (ended.2, .ok ()) := by
  have same : ended.2.workingDirectory = machine.workingDirectory :=
    (congrArg Machine.workingDirectory left.elsewhere).trans rfl
  have again : ended.2.files.makeDirectories ended.2.workingDirectory base =
      (ended.2.files, .ok ()) := by
    rcases eq_or_ne base "" with rfl | nonempty
    · exact make_directories_empty _ _
    · apply make_directories_of_is_directory
      have present := is_directory_of_make_directories nonempty making
      exact is_directory_of_leads (same ▸ present) left.leads
  rw [Machine.makeDirectories, again]

end Attempts

section Repetition

/-- Writing once more succeeds and changes nothing but what is logged. -/
structure Settled (entries : FlatMap) (base : String) (machine : Machine) : Prop where
  success : (writePlots entries base machine).1 = .ok ()
  files : ∀ location : Location,
    (writePlots entries base machine).2.files[location]? = machine.files[location]?
  elsewhere : (writePlots entries base machine).2 =
    { machine with
      files := (writePlots entries base machine).2.files
      log := (writePlots entries base machine).2.log }

variable {after : FileTree} {outcome : Except Error Unit}

theorem held_of_plots_end (ended : PlotsEnd entries made base there after outcome)
    (success : outcome = .ok ()) (listed : key ∈ entries) : ∃ value, entries[key]? = some value ∧
      plotTarget made base key = .ok (plotPlace there key) ∧
        after[plotPlace there key]? = some (plotContent value) := by
  obtain ⟨value, member⟩ := mem_iff_listed.1 listed
  have found := Std.TreeMap.mem_toList_iff_getElem?_eq_some.1 member
  cases ended with
  | complete written => exact ⟨value, found, written key value found⟩
  | cut => contradiction

theorem ok_of_plots_end (ended : PlotsEnd entries made base there after outcome)
    (free : ∀ key ∈ entries, ∃ place, plotTarget made base key = .ok place) : outcome = .ok () := by
  cases ended with
  | complete => rfl
  | cut listed refused =>
      obtain ⟨place, target⟩ := free _ listed
      rw [refused] at target
      contradiction

/-- A key whose file was written is not refused afterwards. -/
theorem unrefused_again {tree : FileTree}
    (free : keyRefusal? tree base there key = none)
    (written : after[plotPlace there key]? = some (plotContent value)) :
    keyRefusal? after base there key = none := by
  rw [keyRefusal?, ← free]
  refine refusal_congr (iff_of_false ?_ (not_directory_of_unrefused free))
  exact fun directory => nomatch written.symm.trans directory

theorem settled {ended : Machine} (plain : ∀ key ∈ entries, '/' ∉ key.toList)
    (leads : made.files.Leads made.workingDirectory base there)
    (unlinked : ∀ key ∈ entries, ∀ target,
      made.files[plotPlace there key]? ≠ some (FileEntry.link target))
    (left : PlotsLeft entries made base there (.ok (), ended))
    (again : ended.makeDirectories base = (ended, .ok ())) : Settled entries base ended := by
  have held := fun key => @held_of_plots_end entries made base key there _ _ left.plots rfl
  have straight : ∀ key ∈ entries, ∀ target,
      ended.files[plotPlace there key]? ≠ some (FileEntry.link target) := by
    intro key listed target
    obtain ⟨value, _, _, file⟩ := held key listed
    rw [file]
    nofun
  have second : PlotsLeft entries (ended.makeDirectories base).1 base there
      (writePlots entries base ended) := by
    apply plots_left_of_made (by rw [again]) plain <;> rw [again]
    · exact left.leads
    · exact straight
  rw [again] at second
  have success : (writePlots entries base ended).1 = .ok () := by
    refine ok_of_plots_end second.plots fun key listed => ⟨plotPlace there key, ?_⟩
    obtain ⟨value, _, target, file⟩ := held key listed
    have free := unrefused_of_target leads plain unlinked listed target
    rw [plot_target_eq left.leads plain straight listed, unrefused_again free file]
  refine ⟨success, fun location => ?_, second.elsewhere⟩
  by_cases apart : ∀ key ∈ entries, location ≠ plotPlace there key
  · exact second.others location apart
  · obtain ⟨key, listed, rfl⟩ : ∃ key ∈ entries, location = plotPlace there key := by
      simpa using apart
    -- Both times the file holds the value that the key has.
    obtain ⟨value, found, _, file⟩ := held key listed
    obtain ⟨other, kept, _, same⟩ := held_of_plots_end second.plots success listed
    rw [file, same, Option.some.inj (found.symm.trans kept)]

/-- The plots are written up to the first key whose file cannot be, and all of them if there is no
such key; to write them again then changes nothing. -/
theorem plots_written_up_to_refusal (entries : FlatMap) (machine : Machine) (base : String)
    (plain : ∀ key ∈ entries, '/' ∉ key.toList)
    (offered : machine.files.isDirectory machine.workingDirectory base = true ∨
      (machine.makeDirectories base).2 = .ok ()) :
    ∃ there, (machine.makeDirectories base).1.files.Leads machine.workingDirectory base there ∧
      machine.files.Adds (machine.makeDirectories base).1.files ∧
      (machine.makeDirectories base).1 =
        { machine with files := (machine.makeDirectories base).1.files } ∧
      ((∀ key ∈ entries, ∀ target,
          machine.files[plotPlace there key]? ≠ some (FileEntry.link target)) →
        PlotsLeft entries (machine.makeDirectories base).1 base there
            (writePlots entries base machine) ∧
          ((writePlots entries base machine).1 = .ok () →
            Settled entries base (writePlots entries base machine).2)) := by
  have making : (machine.makeDirectories base).2 = .ok () := by
    rcases offered with present | making
    · exact congrArg Prod.snd (make_directories_of_is_directory present)
    · exact making
  have adds := adds_make_directories machine.files machine.workingDirectory base
  obtain ⟨there, leads⟩ : ∃ there, (machine.makeDirectories base).1.files.Leads
      machine.workingDirectory base there := leads_of_make_directories making
  refine ⟨there, leads, adds, rfl, fun unlinked => ?_⟩
  have straight : ∀ key ∈ entries, ∀ target, (machine.makeDirectories base).1.files[plotPlace
      there key]? ≠ some (FileEntry.link target) :=
    fun key listed => not_link_of_adds adds (unlinked key listed)
  have left := plots_left_of_made making plain leads straight
  refine ⟨left, fun success => ?_⟩
  have again := made_again making left
  revert left again
  rw [← Prod.mk.eta (p := writePlots entries base machine), success]
  exact fun left again => settled plain leads straight left again

end Repetition

section Small

def smallPlots : FlatMap :=
  (((∅ : FlatMap).insert "" (.string "none")).insert ".." (.bool true)).insert "b" .null

/-- A home with a directory in the way of one of the plots. -/
def obstructed : Machine := Report.home.put "plots/b.properties" .directory

theorem plain_small_plots : ∀ key ∈ smallPlots, '/' ∉ key.toList := by
  have listed : ∀ key ∈ smallPlots.keys, '/' ∉ key.toList := by decide +kernel
  exact fun key member => listed key (Std.TreeMap.mem_keys.2 member)

theorem unlinked_of_entries {tree : FileTree}
    (straight : tree.toList.all fun held => held.2 matches .directory | .file _)
    (location : Location) (target : String) :
    tree[location]? ≠ some (FileEntry.link target) := by
  intro found
  have listed := Std.TreeMap.mem_toList_iff_getElem?_eq_some.2 found
  exact Bool.noConfusion (List.all_eq_true.1 straight _ listed)

theorem small_plots_left :
    (∀ key ∈ smallPlots, '/' ∉ key.toList) ∧
    (obstructed.files.isDirectory obstructed.workingDirectory "plots" = true ∧
      (∀ (location : Location) target, obstructed.files[location]? ≠ some (FileEntry.link target)) ∧
      (writePlots smallPlots "plots" obstructed).1 = .error (.io .isADirectory) ∧
      PlotsLeft smallPlots (obstructed.makeDirectories "plots").1 "plots" ["home", "plots"]
        (writePlots smallPlots "plots" obstructed)) ∧
    (Report.home.makeDirectories "plots").2 = .ok () ∧
      (∀ (location : Location) target, Report.home.files[location]? ≠ some (FileEntry.link target)) ∧
      (writePlots smallPlots "plots" Report.home).1 = .ok () ∧
      PlotsLeft smallPlots (Report.home.makeDirectories "plots").1 "plots" ["home", "plots"]
        (writePlots smallPlots "plots" Report.home) ∧
      Settled smallPlots "plots" (writePlots smallPlots "plots" Report.home).2 := by
  have present : obstructed.files.isDirectory obstructed.workingDirectory "plots" = true := by
    decide +kernel
  have found : (obstructed.makeDirectories "plots").1.directoryAt? "plots" =
      some ["home", "plots"] := by decide +kernel
  have straight : ∀ (location : Location) target,
      obstructed.files[location]? ≠ some (FileEntry.link target) :=
    unlinked_of_entries (by decide +kernel)
  have empty : ∀ (location : Location) target,
      Report.home.files[location]? ≠ some (FileEntry.link target) :=
    unlinked_of_entries (by decide +kernel)
  have refused : (writePlots smallPlots "plots" obstructed).1 = .error (.io .isADirectory) := by
    decide +kernel
  have success : (writePlots smallPlots "plots" Report.home).1 = .ok () := by decide +kernel
  obtain ⟨there, leads, _, _, left⟩ := plots_written_up_to_refusal smallPlots obstructed "plots"
    plain_small_plots (.inl present)
  obtain ⟨place, reached, _, _, settles⟩ := plots_written_up_to_refusal smallPlots Report.home
    "plots" plain_small_plots (.inr Report.fresh_home.made)
  obtain rfl := leads_unique leads (leads_of_arrives (arrives_of_directory_at found))
  obtain rfl := leads_unique reached (leads_of_arrives Report.fresh_home.reached.arrives)
  obtain ⟨whole, again⟩ := settles fun _ _ => empty _
  exact ⟨plain_small_plots,
    ⟨present, straight, refused, (left fun _ _ => straight _).1⟩,
    Report.fresh_home.made, empty, success, whole, again success⟩

end Small

end TraceOverhead.ReportFiles
