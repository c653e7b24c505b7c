import TraceOverhead.Proofs.Tracepoint.Files
/-!
Fewer and more tracepoints from one stream of draws. Drawing more goes on where drawing fewer ends,
since no draw depends on how many tracepoints there are to be. Main statement: with one seed the
fewer are the first of the more, and their template files hold the same.
-/

namespace TraceOverhead.Tracepoint

open FileTree Machine TraceOverhead.Random

section Streams

variable {State : Type}
  (answer : (request : draws.Request) → StateM State (draws.Answer request))

theorem draw_from_add (done : List Tracepoint) (count more first : Nat) :
    drawFrom done (count + more) first =
      drawFrom done count first >>= fun drawn => drawFrom drawn.reverse more (first + count) := by
  induction count generalizing done first with
  | zero => simp [drawFrom]
  | succ count induction =>
      have numbers : first + 1 + count = first + (count + 1) := by omega
      rw [Nat.add_right_comm, drawFrom, drawFrom, bind_assoc]
      simp only [induction, numbers]

/-- Whatever the state that the answers come from, more tracepoints begin with the fewer. -/
theorem exists_further_drawn (state : State) (count more : Nat) :
    ∃ further, (((drawAll (count + more)).interpret answer).run state).1 =
      (((drawAll count).interpret answer).run state).1 ++ further := by
  have parts : ((drawAll (count + more)).interpret answer).run state =
      ((drawFrom (((drawAll count).interpret answer).run state).1.reverse more
        (1 + count)).interpret answer).run (((drawAll count).interpret answer).run state).2 := by
    rw [drawAll, draw_from_add, Dialogue.interpret_bind]
    rfl
  have yielded := Dialogue.yields_interpret answer
    (((drawAll count).interpret answer).run state).2
    (drawFrom (((drawAll count).interpret answer).run state).1.reverse more (1 + count))
  obtain ⟨further, _, _, drawn⟩ := yields_draw_from_iff.1 yielded
  rw [List.reverse_reverse] at drawn
  exact ⟨further, by rw [parts, drawn]⟩

end Streams

section Files

variable {fewer more count : Nat} {seed : UInt64} {before after other later : Machine}
  {here there : Location}

theorem exists_further_generated (seed : UInt64) (count more : Nat) :
    ∃ further, generate (count + more) seed = generate count seed ++ further :=
  exists_further_drawn answerFromStream (Stream.ofSeed seed) count more

theorem length_generate (count : Nat) (seed : UInt64) : (generate count seed).length = count := by
  rw [← List.length_map (f := Tracepoint.number), (sound_generate count seed).numbered,
    List.length_range']

theorem generate_eq_take (within : fewer ≤ more) (seed : UInt64) :
    generate fewer seed = (generate more seed).take fewer := by
  obtain ⟨rest, rfl⟩ := Nat.exists_eq_add_of_le within
  obtain ⟨further, longer⟩ := exists_further_generated seed fewer rest
  rw [longer, List.take_left' (length_generate fewer seed)]

/-- The tracepoints of a seed have been written to a directory, where no link had one of the names
of their files. -/
structure WrittenTo (count : Nat) (seed : UInt64) (before after : Machine) (there : Location) :
    Prop where
  ended : ∃ base, converse (writeAll base (generate count seed)).outcome before = (.ok (), after) ∧
    (before.makeDirectories base).1.files.Leads before.workingDirectory base there
  unlinked : ∀ name ∈ fileNames count, ∀ target,
    before.files[there ++ [name]]? ≠ some (FileEntry.link target)

theorem template_written (written : WrittenTo count seed before after there)
    {tracepoint : Tracepoint} (listed : tracepoint ∈ generate count seed) :
    after.files[there ++ [templateName tracepoint.number]]? =
      some (.file (Text.toBytes tracepoint.definition)) := by
  obtain ⟨base, run, leads⟩ := written.ended
  obtain ⟨reached, arrived, complete⟩ := sources_written (sound_generate count seed).numbered
    (congrArg Prod.fst run)
  obtain rfl := leads_unique leads arrived
  have contents := (complete written.unlinked).contents
  rw [run] at contents
  refine contents (tracepoint.fileName, tracepoint.definition) ?_
  exact List.mem_append_left _ (List.mem_map_of_mem listed)

/-- More tracepoints of a seed keep the fewer, and the files that both are written to hold the
same for both, wherever they are written. -/
theorem generated_keep_earlier (within : fewer ≤ more) (seed : UInt64) :
    generate fewer seed = (generate more seed).take fewer ∧
    ∀ (before after other later : Machine) (here there : Location),
      WrittenTo fewer seed before after here → WrittenTo more seed other later there →
        ∀ number, 1 ≤ number → number ≤ fewer → ∃ content,
          after.files[here ++ [templateName number]]? = some (.file content) ∧
          later.files[there ++ [templateName number]]? = some (.file content) := by
  have taken := generate_eq_take within seed
  refine ⟨taken, ?_⟩
  intro before after other later here there written again number least most
  have numbered : number ∈ (generate fewer seed).map Tracepoint.number := by
    rw [(sound_generate fewer seed).numbered, List.mem_range'_1]
    omega
  obtain ⟨tracepoint, listed, rfl⟩ := List.mem_map.1 numbered
  have kept : tracepoint ∈ generate more seed := List.mem_of_mem_take (taken ▸ listed)
  exact ⟨_, template_written written listed, template_written again kept⟩

theorem written_to_home (count : Nat) (seed : UInt64)
    (short : ∀ name ∈ fileNames count, byteLength name ≤ nameLimit) : ∃ after,
      WrittenTo count seed emptyHome after ["home", "out", "src"] := by
  have written := write_all_ok (sound_generate count seed).numbered fresh_empty_home short
  refine ⟨_, ⟨"out/src", Prod.ext written rfl, leads_of_arrives fresh_empty_home.reached.arrives⟩,
    ?_⟩
  intro name _ target
  rw [vacant_empty_home]
  nofun

theorem first_two_of_three :
    2 ≤ 3 ∧ generate 2 standardSeed = (generate 3 standardSeed).take 2 ∧
    ∃ after later, WrittenTo 2 standardSeed emptyHome after ["home", "out", "src"] ∧
      WrittenTo 3 standardSeed emptyHome later ["home", "out", "src"] ∧
      ∀ number, 1 ≤ number → number ≤ 2 → ∃ content,
        after.files[["home", "out", "src"] ++ [templateName number]]? = some (.file content) ∧
        later.files[["home", "out", "src"] ++ [templateName number]]? = some (.file content) := by
  obtain ⟨taken, kept⟩ := generated_keep_earlier (show 2 ≤ 3 by decide) standardSeed
  obtain ⟨after, written⟩ := written_to_home 2 standardSeed (by decide)
  obtain ⟨later, again⟩ := written_to_home 3 standardSeed (by decide)
  exact ⟨by decide, taken, after, later, written, again, kept _ _ _ _ _ _ written again⟩

end Files

end TraceOverhead.Tracepoint
