import TraceOverhead.Proofs.Campaign.Results
import TraceOverhead.Proofs.File.Writing
import TraceOverhead.Proofs.Pass.Averages
import TraceOverhead.Proofs.Report.Outputs
/-!
The plot files on a machine. Each average that is finite gets a file of its own directly in the
directory, unless a benchmark is named with a slash: its averages have no file, and none that comes
after them in the order of the keys has one.
-/

namespace TraceOverhead

open FileTree Flatten Machine

/-- What is filed under numbers of CPUs are passes and the averages of these passes. -/
structure Results.Averaged (results : Results) : Prop where
  keyed : results.Keyed
  averaged : ∀ key : String, results.average[key]? = results.data[key]?.map averagePasses

/-- An average that is plotted. -/
def Results.Plots (results : Results) (cpus : Nat) (key : String) (value : Float) : Prop :=
  results.average? cpus key = some value ∧ Number.isFinite value = true

def plotName (cpus : Nat) (key : String) : String := plotKey cpus key ++ ".properties"

/-- What a plot file holds. -/
def plotEntry (value : Float) : FileEntry :=
  .file (Text.toBytes ("YVALUE=" ++ renderValue (.number (.double value)) ++ "\n"))

/-- A plotted value is shown by its digits. -/
theorem plot_entry_eq {value : Float} (finite : Number.isFinite value = true) : plotEntry value =
    .file (Text.toBytes ("YVALUE=" ++ Number.reportLayout.text value ++ "\n")) := by
  have shown := shown_as_render_value (.number (.double value))
  rw [plotEntry]
  generalize renderValue _ = text at shown ⊢
  cases shown with
  | double => rfl
  | infinite beyond =>
      rw [finite] at beyond
      contradiction

/-- In the order of the keys, no benchmark has a slash in its name up to some key. -/
def Results.SlashlessUpTo (results : Results) (last : String) : Prop :=
  ∀ cpus name field value, results.Plots cpus (averageKey name field) value →
    compare (plotKey cpus (averageKey name field)) last ≠ .gt → '/' ∉ name.toList

/-- No benchmark has a zero in its name, and the names of the plot files are not too long. -/
structure Results.Nameable (results : Results) : Prop where
  whole : ∀ (key : String) (passes : List Pass), results.data[key]? = some passes →
    ∀ pass ∈ passes, '\x00' ∉ pass.name.toList
  short : ∀ cpus key value, results.Plots cpus key value →
    byteLength (plotName cpus key) ≤ nameLimit

section Sweeps

variable {results : Results}

theorem averaged_empty : Results.empty.Averaged := by
  refine ⟨keyed_empty, ?_⟩
  intro key
  rw [Results.empty, Std.TreeMap.getElem?_emptyc, Std.TreeMap.getElem?_emptyc]
  rfl

theorem averaged_record (averaged : results.Averaged) (cpus : Nat) (passes : List Pass) :
    (results.record (cpuKey cpus) passes).Averaged := by
  refine ⟨keyed_record averaged.keyed cpus passes, ?_⟩
  intro key
  simp only [Results.record, Std.TreeMap.getElem?_insert]
  split
  · rfl
  · exact averaged.averaged key

theorem averaged_record_all (averaged : results.Averaged) (rounds : List Round) :
    (results.recordAll rounds).Averaged := by
  induction rounds generalizing results with
  | nil => exact averaged
  | cons round rounds induction =>
      exact induction (averaged_record averaged round.count round.passes)

/-- Every sweep that ends well has filed the averages of its passes. -/
theorem averaged_of_sweep {campaign : Campaign} {root : String} {before after : CampaignState}
    {exchanges : List (Exchange instruments)}
    (run : Campaign.Run (campaign.sweep root) before exchanges (.ok results) after) :
    results.Averaged := by
  cases guarded : campaign.config.cpuSweep with
  | true =>
      obtain ⟨account, _, _, rfl⟩ := Campaign.account_of_run guarded run
      exact averaged_record_all averaged_empty account.rounds
  | false =>
      obtain ⟨_, count, _, passes, single⟩ := Campaign.single_results_of_run guarded run
      refine ⟨⟨?_, ?_⟩, ?_⟩
      · exact fun key present => ⟨count, (single.data_keys key).1 present⟩
      · exact fun key present => ⟨count, (single.average_keys key).1 present⟩
      · intro key
        by_cases same : key = cpuKey count
        · rw [same, single.filed.data, single.filed.average]
          rfl
        · have unfiled := mt (single.data_keys key).1 same
          have unaveraged := mt (single.average_keys key).1 same
          rw [Std.TreeMap.getElem?_eq_none unfiled, Std.TreeMap.getElem?_eq_none unaveraged]
          rfl

end Sweeps

section Names

variable {results : Results} {cpus other : Nat} {key otherKey name : String} {value : Float}
  {field : NumericField} {character : Char}

/-- What is plotted is a field of a benchmark, of which there is a pass. -/
theorem pass_of_plots (averaged : results.Averaged) (plots : results.Plots cpus key value) :
    ∃ passes name field, results.data[cpuKey cpus]? = some passes ∧ averageKey name field = key ∧
      ∃ pass ∈ passes, pass.name = name := by
  obtain ⟨averages, found, held⟩ := Option.bind_eq_some_iff.1 plots.1
  rw [averaged.averaged] at found
  obtain ⟨passes, filed, rfl⟩ := Option.map_eq_some_iff.1 found
  obtain ⟨name, field, named, counted⟩ := average_key_of_mem (mem_of_get held)
  obtain ⟨pass, member, same, _⟩ := field_values_ne_nil_iff.1 counted
  exact ⟨passes, name, field, filed, named, pass, member, same⟩

theorem plot_name_inj (same : plotName cpus key = plotName other otherKey) :
    cpus = other ∧ key = otherKey := by
  have shared := congrArg String.toList same
  simp only [plotName, String.toList_append, List.append_cancel_right_eq] at shared
  exact plot_key_inj (String.toList_inj.1 shared)

theorem not_mem_field_path (foreign : character ∈ ['/', '\x00']) (field : NumericField) :
    character ∉ field.path.toList := by
  have either : character = '/' ∨ character = '\x00' := by simpa using foreign
  have part : ∀ part : Part, character ∉ part.name.toList := by
    intro part
    obtain rfl | rfl := either <;> cases part <;> decide
  have dot : character ∉ ".".toList := by
    obtain rfl | rfl := either <;> decide
  have quantity : ∀ quantity : Quantity, character ∉ quantity.name.toList := by
    intro quantity
    obtain rfl | rfl := either <;> cases quantity <;> decide
  simp only [NumericField.path, String.toList_append, List.mem_append, not_or]
  exact ⟨⟨part _, dot⟩, quantity _⟩

/-- Slashes and zeros come into the name of a plot file by way of the benchmark's name alone. -/
theorem mem_plot_name_iff (foreign : character ∈ ['/', '\x00']) :
    character ∈ (plotName cpus (averageKey name field)).toList ↔ character ∈ name.toList := by
  have either : character = '/' ∨ character = '\x00' := by simpa using foreign
  have around : character.isDigit = false ∧ character ∉ "_cpus".toList ∧
      character ∉ ".".toList ∧ character ∉ ".properties".toList := by
    obtain rfl | rfl := either <;> decide
  obtain ⟨undigit, unit, dot, ending⟩ := around
  have number : character ∉ (Number.decimal cpus).toList := by
    intro member
    have digit := Number.is_digit_of_mem_decimal member
    exact Bool.noConfusion (undigit.symm.trans digit)
  have path := not_mem_field_path foreign field
  have key : character ∈ (averageKey name field).toList ↔ character ∈ name.toList := by
    rw [averageKey]
    split
    · rename_i unnamed
      rw [unnamed]
      exact iff_of_false path (by simp)
    · simp only [String.toList_append, List.mem_append, dot, path, or_false]
  simp only [plotName, plotKey, cpuKey, String.toList_append, List.mem_append, number, unit, dot,
    ending, key, false_or, or_false]

theorem suitable_plot_name (whole : '\x00' ∉ (plotName cpus key).toList)
    (short : byteLength (plotName cpus key) ≤ nameLimit) : Suitable (plotName cpus key) := by
  refine ⟨?_, ?_, whole, short⟩
  · cases spelled : (Number.decimal cpus).toList with
    | nil => exact absurd (String.toList_inj.1 spelled) (Number.decimal_ne_empty cpus)
    | cons first rest =>
        have digit : first.isDigit = true :=
          Number.is_digit_of_mem_decimal (spelled ▸ List.mem_cons_self)
        have leading : ∃ more, (plotName cpus key).toList = first :: more := by
          simp [plotName, plotKey, cpuKey, spelled]
        obtain ⟨more, text⟩ := leading
        refine ⟨first, more, text, ?_, ?_⟩
        · rintro rfl
          exact absurd digit (by decide)
        · rintro rfl
          exact absurd digit (by decide)
  · refine ⟨(plotKey cpus key ++ ".propertie").toList, 's', ?_, by decide⟩
    simp [plotName]

/-- How much longer the name of a plot file is than the name of its benchmark. -/
theorem byte_length_plot_name_le (cpus : Nat) (name : String) (field : NumericField) :
    byteLength (plotName cpus (averageKey name field)) ≤
      byteLength (cpuKey cpus) + byteLength name + 48 := by
  have part : byteLength field.part.name ≤ 16 := by cases field.part <;> decide
  have quantity : byteLength field.quantity.name ≤ 18 := by cases field.quantity <;> decide
  have dot : byteLength "." = 1 := rfl
  have ending : byteLength ".properties" = 11 := rfl
  have path : byteLength field.path =
      byteLength field.part.name + 1 + byteLength field.quantity.name := by
    rw [NumericField.path, byte_length_append, byte_length_append, dot]
  have key : byteLength (averageKey name field) ≤ byteLength name + 1 + byteLength field.path := by
    rw [averageKey]
    split
    · omega
    · rw [byte_length_append, byte_length_append, dot]
  rw [plotName, plotKey, byte_length_append, byte_length_append, byte_length_append, dot, ending]
  omega

end Names

section Order

variable {Item : Type} {before : Item → Item → Prop} {keep : Item → Bool} {list : List Item}
  {item : Item}

theorem mem_takeWhile_iff (sorted : list.Pairwise before)
    (onward : ∀ first second, before first second → ¬ before second first) :
    item ∈ list.takeWhile keep ↔ item ∈ list ∧
      ∀ other ∈ list, (other = item ∨ before other item) → keep other = true := by
  induction list with
  | nil => simp
  | cons first rest induction =>
      obtain ⟨least, others⟩ := List.pairwise_cons.1 sorted
      cases kept : keep first with
      | true =>
          rw [List.takeWhile_cons_of_pos kept, List.mem_cons, List.mem_cons, induction others,
            List.forall_mem_cons]
          constructor
          · rintro (rfl | ⟨later, whole⟩)
            -- Nothing in the rest comes before the first item.
            · refine ⟨.inl rfl, fun _ => kept, ?_⟩
              rintro other member (rfl | earlier)
              · exact kept
              · exact absurd earlier (onward _ _ (least other member))
            · exact ⟨.inr later, fun _ => kept, whole⟩
          · rintro ⟨same | later, _, whole⟩
            · exact .inl same
            · exact .inr ⟨later, whole⟩
      | false =>
          rw [List.takeWhile_cons_of_neg (by simp [kept]), List.mem_cons, List.forall_mem_cons]
          refine iff_of_false List.not_mem_nil ?_
          rintro ⟨same | later, leading, _⟩
          · simp [leading (.inl same.symm)] at kept
          · simp [leading (.inr (least item later))] at kept

end Order

section Entries

variable {entries : FlatMap} {machine : Machine} {base : String} {there : Location}

/-- What is written of an entry, without the directory. -/
def plotted (entry : String × Json) : String × String :=
  (entry.1 ++ ".properties", ReportFiles.plotLine entry.2)

/-- What is there of entries in the end: those up to the first with a slash in its key. -/
def written (entries : FlatMap) : List (String × Bytes) :=
  ((entries.toList.map plotted).takeWhile isSingle).map bytes

/-- What becomes of the writing of plots is what becomes of the writing of their files, but for what
is logged of it. -/
theorem converse_plots_of_made (entries : FlatMap)
    (made : (machine.makeDirectories base).2 = .ok ()) :
    ∃ log, converse (ReportFiles.writePlotProperties entries base).outcome machine =
      match converse (Host.writeTexts ((entries.toList.map plotted).map
          fun file => (Path.join base file.1, file.2))).outcome (machine.makeDirectories base).1 with
      | (outcome, after) => (outcome, { after with log }) := by
  have files : entries.toList.map (ReportFiles.plotFile base) =
      (entries.toList.map plotted).map fun file => (Path.join base file.1, file.2) := by
    rw [List.map_map]
    rfl
  rw [ReportFiles.writePlotProperties, converse_attempt_bind, converse_make_directories, made]
  simp only [Except.mapError, files, converse_attempt_bind]
  rcases converse (Host.writeTexts _).outcome (machine.makeDirectories base).1 with
    ⟨failure | ⟨⟩, after⟩
  · exact ⟨after.log, rfl⟩
  · exact ⟨_, rfl⟩

theorem converse_write_plot_properties (fresh : machine.Fresh base there)
    (suitable : ∀ key value, entries[key]? = some value → Suitable (key ++ ".properties")) :
    ∃ outcome after, converse (ReportFiles.writePlotProperties entries base).outcome machine =
        (outcome, after) ∧
      after.files = (machine.makeDirectories base).1.files.withFiles there (written entries) ∧
      WritingEnds ((entries.toList.map plotted).all isSingle) outcome := by
  have fits : ∀ file ∈ entries.toList.map plotted, Suitable file.1 := by
    intro file listed
    obtain ⟨entry, member, rfl⟩ := List.mem_map.1 listed
    exact suitable entry.1 entry.2 (Std.TreeMap.mem_toList_iff_getElem?_eq_some.1 member)
  have flat : Flat (machine.makeDirectories base).1.files there := by
    intro part entry found
    rw [get_of_below_nil fresh.empty (List.cons_ne_nil _ _)] at found
    contradiction
  obtain ⟨outcome, writing, ended⟩ := converse_write_texts fresh.reached flat fits
  obtain ⟨log, run⟩ := converse_plots_of_made entries fresh.made
  rw [writing] at run
  exact ⟨_, _, run, rfl, ended⟩

/-- What is kept up to some entry is what is kept of all entries whose keys do not come later. -/
theorem mem_takeWhile_plotted_iff {keep : String × String → Bool} {file : String × String} :
    file ∈ (entries.toList.map plotted).takeWhile keep ↔ ∃ key value, entries[key]? = some value ∧
      file = plotted (key, value) ∧ ∀ other held, entries[other]? = some held →
        compare other key ≠ .gt → keep (plotted (other, held)) = true := by
  have onward : ∀ first second : String × Json, compare first.1 second.1 = .lt →
      ¬ compare second.1 first.1 = .lt := fun _ _ less => Std.OrientedCmp.not_lt_of_lt less
  have order : ∀ entry, entry ∈ entries.toList.takeWhile (keep ∘ plotted) ↔ _ :=
    fun entry => mem_takeWhile_iff (Std.TreeMap.ordered_keys_toList (t := entries)) onward
  rw [List.takeWhile_map, List.mem_map]
  constructor
  · rintro ⟨⟨key, value⟩, listed, rfl⟩
    obtain ⟨held, earlier⟩ := (order _).1 listed
    have found := Std.TreeMap.mem_toList_iff_getElem?_eq_some.1 held
    refine ⟨key, value, found, rfl, ?_⟩
    intro other kept there least
    have member := Std.TreeMap.mem_toList_iff_getElem?_eq_some.2 there
    apply earlier (other, kept) member
    cases compared : compare other key with
    | lt => exact .inr rfl
    | gt => exact absurd compared least
    | eq =>
        obtain rfl := Std.LawfulEqOrd.eq_of_compare compared
        rw [found] at there
        exact .inl (by rw [Option.some.inj there])
  · rintro ⟨key, value, found, rfl, earlier⟩
    have member := Std.TreeMap.mem_toList_iff_getElem?_eq_some.2 found
    refine ⟨(key, value), (order _).2 ⟨member, ?_⟩, rfl⟩
    rintro ⟨other, held⟩ listed least
    have there := Std.TreeMap.mem_toList_iff_getElem?_eq_some.1 listed
    apply earlier other held there
    rcases least with same | less
    · obtain ⟨rfl, _⟩ := Prod.mk.inj same
      simp
    · have below : compare other key = .lt := less
      simp [below]

theorem mem_written_iff {name : String} {content : Bytes} :
    (name, content) ∈ written entries ↔ ∃ key value, entries[key]? = some value ∧
      name = key ++ ".properties" ∧ content = Text.toBytes (ReportFiles.plotLine value) ∧
      ∀ other held, entries[other]? = some held → compare other key ≠ .gt →
        '/' ∉ (other ++ ".properties").toList := by
  have single : ∀ entry, isSingle (plotted entry) = true ↔
      '/' ∉ (entry.1 ++ ".properties").toList := by simp [isSingle, plotted]
  simp only [written, List.mem_map, mem_takeWhile_plotted_iff, single]
  constructor
  · rintro ⟨_, ⟨key, value, found, rfl, earlier⟩, same⟩
    obtain ⟨rfl, rfl⟩ := Prod.mk.inj same
    exact ⟨key, value, found, rfl, rfl, earlier⟩
  · rintro ⟨key, value, found, rfl, rfl, earlier⟩
    exact ⟨_, ⟨key, value, found, rfl, earlier⟩, rfl⟩

theorem nodup_plotted (keep : String × String → Bool) :
    ((((entries.toList.map plotted).takeWhile keep).map bytes).map Prod.fst).Nodup := by
  have names : ((entries.toList.map plotted).map bytes).map Prod.fst =
      (entries.toList.map Prod.fst).map (· ++ ".properties") := by
    simp only [List.map_map]
    rfl
  have distinct : (((entries.toList.map plotted).map bytes).map Prod.fst).Nodup := by
    rw [names]
    apply (nodup_keys entries).map
    intro first second same
    have texts := congrArg String.toList same
    simp only [String.toList_append, List.append_cancel_right_eq] at texts
    exact String.toList_inj.1 texts
  exact distinct.sublist (((List.takeWhile_sublist _).map bytes).map Prod.fst)

theorem nodup_written : ((written entries).map Prod.fst).Nodup := nodup_plotted isSingle

theorem all_single_iff : (entries.toList.map plotted).all isSingle = true ↔
    ∀ key value, entries[key]? = some value → '/' ∉ (key ++ ".properties").toList := by
  rw [List.all_map, List.all_eq_true]
  constructor
  · intro single key value found
    have whole := single (key, value) (Std.TreeMap.mem_toList_iff_getElem?_eq_some.2 found)
    simpa [isSingle, plotted] using whole
  · intro whole entry listed
    have single := whole _ _ (Std.TreeMap.mem_toList_iff_getElem?_eq_some.1 listed)
    simpa [isSingle, plotted] using single

end Entries

namespace Report

/-- What comes of writing the plots of results into an empty directory, where each name stands
directly in the directory or not at all. -/
structure PlotsWritten (results : Results) (there : Location) (before after : FileTree)
    (outcome : Except Error Unit) : Prop where
  success : outcome = .ok () ↔ ∀ cpus name field value,
    results.Plots cpus (averageKey name field) value → '/' ∉ name.toList
  failure : outcome ≠ .ok () →
    outcome = .error (.io .notFound) ∨ outcome = .error (.io .notADirectory)
  complete : outcome = .ok () → ∀ names entry, names ≠ [] →
    (after[there ++ names]? = some entry ↔ ∃ cpus key value, results.Plots cpus key value ∧
      names = [plotName cpus key] ∧ entry = plotEntry value)
  apart : ∀ cpus key other otherKey,
    plotName cpus key = plotName other otherKey ↔ cpus = other ∧ key = otherKey
  /-- The files are those before the first that cannot be written. -/
  ordered : ∀ names entry, names ≠ [] →
    (after[there ++ names]? = some entry ↔ ∃ cpus key value, results.Plots cpus key value ∧
      names = [plotName cpus key] ∧ entry = plotEntry value ∧
      results.SlashlessUpTo (plotKey cpus key))
  elsewhere : ∀ place, (∀ names, names ≠ [] → place ≠ there ++ names) →
    after[place]? = before[place]?
  shown : ∀ cpus key value, results.Plots cpus key value → plotEntry value =
    .file (Text.toBytes ("YVALUE=" ++ Number.reportLayout.text value ++ "\n"))

section Results

variable {results : Results} {machine : Machine} {base : String} {there : Location}

theorem forall_plot_entries_iff (averaged : results.Averaged) {property : String → Prop} :
    (∀ key value, (plotEntries results)[key]? = some value → property key) ↔
      ∀ cpus name field value, results.Plots cpus (averageKey name field) value →
        property (plotKey cpus (averageKey name field)) := by
  constructor
  · intro all cpus name field value plots
    exact all _ _ ((get_plot_entries_iff averaged.keyed).2
      ⟨cpus, _, value, plots.1, plots.2, rfl, rfl⟩)
  · intro all key value found
    obtain ⟨cpus, name, average, held, finite, rfl, _⟩ :=
      (get_plot_entries_iff averaged.keyed).1 found
    obtain ⟨_, name, field, _, rfl, _⟩ := pass_of_plots averaged ⟨held, finite⟩
    exact all cpus name field average ⟨held, finite⟩

theorem not_mem_plot_name_iff {cpus : Nat} {name : String} {field : NumericField} :
    '/' ∉ (plotKey cpus (averageKey name field) ++ ".properties").toList ↔ '/' ∉ name.toList :=
  not_congr (mem_plot_name_iff (by simp))

theorem slashless_up_to_iff (averaged : results.Averaged) {last : String} :
    (∀ other held, (plotEntries results)[other]? = some held → compare other last ≠ .gt →
      '/' ∉ (other ++ ".properties").toList) ↔ results.SlashlessUpTo last := by
  have all := @forall_plot_entries_iff results averaged fun other =>
    compare other last ≠ .gt → '/' ∉ (other ++ ".properties").toList
  simp only [not_mem_plot_name_iff] at all
  exact all

theorem exists_written_iff (averaged : results.Averaged) {names : List String} {entry : FileEntry} :
    (∃ file ∈ written (plotEntries results), names = [file.1] ∧ entry = .file file.2) ↔
      ∃ cpus key value, results.Plots cpus key value ∧ names = [plotName cpus key] ∧
        entry = plotEntry value ∧ results.SlashlessUpTo (plotKey cpus key) := by
  have held := @get_plot_entries_iff results averaged.keyed
  constructor
  · rintro ⟨⟨name, content⟩, member, rfl, rfl⟩
    obtain ⟨key, value, present, rfl, rfl, earlier⟩ := mem_written_iff.1 member
    obtain ⟨cpus, average, mean, found, finite, rfl, rfl⟩ := held.1 present
    exact ⟨cpus, average, mean, ⟨found, finite⟩, rfl, rfl, (slashless_up_to_iff averaged).1 earlier⟩
  · rintro ⟨cpus, key, value, plots, rfl, rfl, earlier⟩
    have present := held.2 ⟨cpus, key, value, plots.1, plots.2, rfl, rfl⟩
    have member := mem_written_iff.2
      ⟨_, _, present, rfl, rfl, (slashless_up_to_iff averaged).2 earlier⟩
    exact ⟨_, member, rfl, rfl⟩

theorem ok_iff_of_writing_ends {single : Bool} {outcome : Except Error Unit}
    (ended : WritingEnds single outcome) : outcome = .ok () ↔ single = true := by
  cases single with
  | true => exact iff_of_true ended rfl
  | false => rcases ended with rfl | rfl <;> simp

theorem suitable_of_nameable (averaged : results.Averaged) (nameable : results.Nameable) :
    ∀ key value, (plotEntries results)[key]? = some value → Suitable (key ++ ".properties") := by
  apply (@forall_plot_entries_iff results averaged fun key => Suitable (key ++ ".properties")).2
  intro cpus name field value plots
  obtain ⟨passes, other, otherField, filed, same, pass, member, rfl⟩ := pass_of_plots averaged plots
  obtain ⟨rfl, rfl⟩ := average_key_inj same
  have absent := nameable.whole _ passes filed pass member
  exact suitable_plot_name (mt (mem_plot_name_iff (by simp)).1 absent)
    (nameable.short _ _ _ plots)

/-- What a run of writing leaves in an empty directory that was made for it. -/
theorem plots_written_of_ended {made after : FileTree} {outcome : Except Error Unit}
    (averaged : results.Averaged) (empty : made.below there = [])
    (files : after = made.withFiles there (written (plotEntries results)))
    (ended : WritingEnds (((plotEntries results).toList.map plotted).all isSingle) outcome) :
    PlotsWritten results there made after outcome := by
  have ok : outcome = .ok () ↔ ∀ cpus name field value,
      results.Plots cpus (averageKey name field) value → '/' ∉ name.toList := by
    rw [ok_iff_of_writing_ends ended, all_single_iff]
    have all := @forall_plot_entries_iff results averaged fun key =>
      '/' ∉ (key ++ ".properties").toList
    simpa only [not_mem_plot_name_iff] using all
  have placed : ∀ names entry, names ≠ [] → (after[there ++ names]? = some entry ↔
      ∃ cpus key value, results.Plots cpus key value ∧ names = [plotName cpus key] ∧
        entry = plotEntry value ∧ results.SlashlessUpTo (plotKey cpus key)) := by
    intro names entry more
    rw [files, get_with_files nodup_written, get_of_below_nil empty more,
      ← exists_written_iff averaged]
    simp
  refine ⟨ok, ?failure, ?complete, ?apart, placed, ?elsewhere,
    fun _ _ _ plots => plot_entry_eq plots.2⟩
  case failure =>
    intro failed
    cases single : ((plotEntries results).toList.map plotted).all isSingle with
    | true => exact absurd ((ok_iff_of_writing_ends ended).2 single) failed
    | false =>
        rw [single] at ended
        exact ended
  case complete =>
    intro well names entry more
    rw [placed names entry more]
    have whole : ∀ last, results.SlashlessUpTo last :=
      fun last cpus name field value plots _ => ok.1 well cpus name field value plots
    simp [whole]
  case apart =>
    intro cpus key other otherKey
    constructor
    · exact plot_name_inj
    · rintro ⟨rfl, rfl⟩
      rfl
  case elsewhere =>
    intro place outside
    rw [files]
    apply Option.ext
    intro entry
    have apart : ∀ file ∈ written (plotEntries results), place ≠ there ++ [file.1] :=
      fun file _ => outside [file.1] (List.cons_ne_nil _ _)
    have nowhere : ¬ ∃ file ∈ written (plotEntries results),
        place = there ++ [file.1] ∧ entry = .file file.2 :=
      fun ⟨file, member, same, _⟩ => apart file member same
    rw [get_with_files nodup_written, or_iff_right nowhere, and_iff_right apart]

/-- The plots of a sweep are written into an empty directory exactly if no benchmark with an average
to plot has a slash in its name. -/
theorem plots_written_of_averaged (averaged : results.Averaged) (nameable : results.Nameable)
    (fresh : machine.Fresh base there) :
    PlotsWritten results there (machine.makeDirectories base).1.files
      (converse (ReportFiles.writePlotProperties (plotEntries results) base).outcome
        machine).2.files
      (converse (ReportFiles.writePlotProperties (plotEntries results) base).outcome
        machine).1 := by
  obtain ⟨outcome, after, run, files, ended⟩ :=
    converse_write_plot_properties fresh (suitable_of_nameable averaged nameable)
  rw [run]
  exact plots_written_of_ended averaged fresh.empty files ended

/-- What a sweep that ends well has measured is plotted, whatever suite and numbers of CPUs it has
gone through: its results are filed with their averages. -/
theorem plots_written_of_sweep {campaign : Campaign} {root : String}
    {before after : CampaignState} {exchanges : List (Exchange instruments)}
    (run : Campaign.Run (campaign.sweep root) before exchanges (.ok results) after)
    (nameable : results.Nameable) (fresh : machine.Fresh base there) :
    ∃ outcome plotted, converse (ReportFiles.writePlotProperties (plotEntries results) base).outcome
        machine = (outcome, plotted) ∧
      PlotsWritten results there (machine.makeDirectories base).1.files plotted.files outcome := by
  have averaged := averaged_of_sweep run
  obtain ⟨outcome, plotted, writing, files, ended⟩ :=
    converse_write_plot_properties fresh (suitable_of_nameable averaged nameable)
  exact ⟨outcome, plotted, writing, plots_written_of_ended averaged fresh.empty files ended⟩

end Results

section Small

def smallMeasurement : UserMeasurement :=
  { baseline := ⟨["b"], 0.0, none⟩
    tracingDisabled := ⟨["u"], 0.0, none, none, 0.0, none, none⟩
    tracingEnabled := ⟨["u"], 0.0, none, none, 0.0, none, none⟩ }

def smallPasses (names : List String) : List Pass :=
  names.map fun name => ⟨name, .user smallMeasurement⟩

/-- Results at one number of CPUs, with one pass for each of some benchmarks. -/
def smallResults (names : List String) : Results :=
  Results.empty.record (cpuKey 1) (smallPasses names)

def home : Machine := Machine.bare ["home"]

/-- What comes of writing the plots of such results at home. -/
def writeAtHome (names : List String) : Except Error Unit × Machine :=
  converse (ReportFiles.writePlotProperties (plotEntries (smallResults names)) "plots").outcome home

variable {names : List String}

theorem averaged_small_results (names : List String) : (smallResults names).Averaged :=
  averaged_record averaged_empty 1 _

theorem data_small_results {key : String} {passes : List Pass}
    (filed : (smallResults names).data[key]? = some passes) :
    key = cpuKey 1 ∧ passes = smallPasses names := by
  rw [smallResults, Results.record, Results.empty, Std.TreeMap.getElem?_insert,
    Std.TreeMap.getElem?_emptyc] at filed
  split at filed
  · rename_i same
    exact ⟨(Std.LawfulEqOrd.eq_of_compare same).symm, (Option.some.inj filed).symm⟩
  · cases filed

theorem nameable_small_results (whole : ∀ name ∈ names, '\x00' ∉ name.toList)
    (short : ∀ name ∈ names, byteLength name ≤ 200) : (smallResults names).Nameable := by
  constructor
  · intro key passes filed pass member
    obtain ⟨_, rfl⟩ := data_small_results filed
    obtain ⟨name, listed, rfl⟩ := List.mem_map.1 member
    exact whole name listed
  · intro cpus key value plots
    obtain ⟨passes, name, field, filed, rfl, pass, member, same⟩ :=
      pass_of_plots (averaged_small_results names) plots
    obtain ⟨counted, rfl⟩ := data_small_results filed
    obtain ⟨given, listed, rfl⟩ := List.mem_map.1 member
    obtain rfl : given = name := same
    have longer := byte_length_plot_name_le cpus given field
    have number : byteLength (cpuKey cpus) = 6 := by rw [counted]; decide
    have named := short given listed
    have limit : nameLimit = 255 := rfl
    omega

theorem plots_small_results {name : String} {field : NumericField}
    (counted : (fieldValues (smallPasses names) name field).isEmpty = false)
    (finite : Number.isFinite (mean (fieldValues (smallPasses names) name field)) = true) :
    ∃ value, (smallResults names).Plots 1 (averageKey name field) value := by
  have filed : (smallResults names).average[cpuKey 1]? = some (averagePasses (smallPasses names)) :=
    Std.TreeMap.getElem?_insert_self
  refine ⟨mean (fieldValues (smallPasses names) name field), ?_, finite⟩
  rw [Results.average?, filed, Option.bind_some, average_at_average_key]
  cases values : fieldValues (smallPasses names) name field with
  | nil => simp [values] at counted
  | cons first rest => rfl

theorem fresh_home : home.Fresh "plots" ["home", "plots"] := by
  have made : (home.makeDirectories "plots").2 = .ok () := by decide +kernel
  have found : (home.makeDirectories "plots").1.directoryAt? "plots" = some ["home", "plots"] := by
    decide +kernel
  have empty : (home.makeDirectories "plots").1.files.below ["home", "plots"] = [] := by
    decide +kernel
  exact ⟨made, ⟨arrives_of_directory_at found, by decide⟩, empty⟩

theorem small_plots_written :
    (∃ value, (smallResults ["basic"]).Plots 1 (averageKey "basic" ⟨.baseline, .startTime⟩) value) ∧
      (writeAtHome ["basic"]).1 = .ok () ∧
      PlotsWritten (smallResults ["basic"]) ["home", "plots"]
        (home.makeDirectories "plots").1.files (writeAtHome ["basic"]).2.files
        (writeAtHome ["basic"]).1 := by
  have nameable : (smallResults ["basic"]).Nameable :=
    nameable_small_results (by decide) (by decide)
  have averaged := averaged_small_results ["basic"]
  rw [writeAtHome]
  have written := plots_written_of_averaged averaged nameable fresh_home
  refine ⟨plots_small_results (by decide +kernel) (by decide +kernel), written.success.2 ?_,
    written⟩
  intro cpus name field value plots
  obtain ⟨passes, other, otherField, filed, same, pass, member, rfl⟩ := pass_of_plots averaged plots
  obtain ⟨rfl, _⟩ := average_key_inj same
  obtain ⟨_, rfl⟩ := data_small_results filed
  obtain rfl := List.mem_singleton.1 member
  decide

/-- A benchmark may have a name like a path. Then none of its averages is written, and none of a
benchmark that comes after it. -/
theorem slashed_plots_unwritten :
    (smallResults ["a/b", "basic"]).Averaged ∧ (smallResults ["a/b", "basic"]).Nameable ∧
      home.Fresh "plots" ["home", "plots"] ∧
      (∃ value, (smallResults ["a/b", "basic"]).Plots 1
        (averageKey "a/b" ⟨.baseline, .startTime⟩) value) ∧
      (∃ value, (smallResults ["a/b", "basic"]).Plots 1
        (averageKey "basic" ⟨.baseline, .startTime⟩) value) ∧
      (writeAtHome ["a/b", "basic"]).1 = .error (.io .notFound) ∧
      (writeAtHome ["a/b", "basic"]).2.files.below ["home", "plots"] = [] := by
  have nameable : (smallResults ["a/b", "basic"]).Nameable :=
    nameable_small_results (by decide) (by decide)
  have written : (writeAtHome ["a/b", "basic"]).1 = .error (.io .notFound) ∧
      (writeAtHome ["a/b", "basic"]).2.files.below ["home", "plots"] = [] := by decide +kernel
  exact ⟨averaged_small_results _, nameable, fresh_home,
    plots_small_results (by decide +kernel) (by decide +kernel),
    plots_small_results (by decide +kernel) (by decide +kernel), written⟩

end Small

end Report

end TraceOverhead
