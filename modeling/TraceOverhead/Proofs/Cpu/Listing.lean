import Mathlib.Data.List.TakeWhile
import TraceOverhead.Cpu.Listing
import TraceOverhead.Proofs.File.Path
import TraceOverhead.Proofs.Json.Record
import TraceOverhead.Proofs.Number.Reading
import TraceOverhead.Proofs.Text.Blank
/-!
Listings of CPUs read and written. Main statement: a listing is read if each of its parts is a
number of 32 bits or a range between two of them, and stands for the union of the ranges; and the
kernel's own writing of a set is read as that set.
-/

namespace TraceOverhead

namespace CpuSet

theorem increasing (cpus : CpuSet) : cpus.toList.Pairwise (· < ·) :=
  cpus.ordered_toList.imp fun less => Nat.compare_eq_lt.1 less

theorem nodup (cpus : CpuSet) : cpus.toList.Nodup := cpus.increasing.imp Nat.ne_of_lt

end CpuSet

namespace CpuListing

/-- A text that names a CPU: a number of 32 bits. -/
def Names (text : List Char) (cpu : Nat) : Prop := Number.Denotes text cpu ∧ cpu < UInt32.size

/-- What stands between two commas names one CPU, or the first and the last of a range with a dash
between them. No number has a dash in it, so the dash is the first one. -/
inductive Piece : List Char → Nat → Nat → Prop
  | single {text : List Char} {cpu : Nat} (number : Names text cpu) : Piece text cpu cpu
  | range {lower upper : List Char} {low high : Nat} (first : Names lower low)
      (last : Names upper high) : Piece (lower ++ '-' :: upper) low high

/-- The parts of a listing, less the empty ones. -/
def parts (text : String) : List (List Char) :=
  ((Text.trim text).toList.splitOn ',').filter fun piece => !piece.isEmpty

section Reading

variable {text : List Char} {piece : List Char} {cpu low high : Nat}

theorem number_eq_some_iff : number? text = some cpu ↔ Names text cpu := by
  have limit : cpu ≤ largestCpu ↔ cpu < UInt32.size := Nat.lt_succ_iff.symm
  rw [Names, ← limit, ← Number.read_natural_eq_ok_iff, number?]
  cases Number.readNatural largestCpu text <;> simp [Except.toOption]

theorem dash_not_mem (names : Names text cpu) : '-' ∉ text := by
  obtain ⟨⟨digits, signed, _, decimal, _⟩, _⟩ := names
  intro member
  have inside : '-' ∈ digits := by
    rcases signed with rfl | rfl
    · exact member
    · exact (List.mem_cons.1 member).resolve_left (by decide)
  exact absurd (decimal '-' inside) (by decide)

theorem range_eq_some_iff : range? piece = some (low, high) ↔ Piece piece low high := by
  constructor
  · intro read
    rw [range?] at read
    split at read
    · obtain ⟨cpu, named, same⟩ := Option.map_eq_some_iff.1 read
      obtain ⟨rfl, rfl⟩ := Prod.mk.inj same
      exact .single (number_eq_some_iff.1 named)
    · rename_i dash upper dropped
      simp only [Option.bind_eq_bind, Option.bind_eq_some_iff] at read
      obtain ⟨first, lower, last, named, same⟩ := read
      obtain ⟨rfl, rfl⟩ := Prod.mk.inj (Option.some.inj same)
      have stopped := List.head?_dropWhile_not (fun character => decide (character ≠ '-')) piece
      rw [dropped] at stopped
      obtain rfl : dash = '-' := by simpa using stopped
      have whole : piece.takeWhile (fun character => decide (character ≠ '-')) ++
          piece.dropWhile (fun character => decide (character ≠ '-')) = piece :=
        List.takeWhile_append_dropWhile
      rw [dropped] at whole
      rw [← whole]
      exact .range (number_eq_some_iff.1 lower) (number_eq_some_iff.1 named)
  · intro reads
    have plain : ∀ {text : List Char} {cpu : Nat}, Names text cpu →
        ∀ character ∈ text, decide (character ≠ '-') = true := by
      intro text cpu names character member
      exact decide_eq_true fun dash => dash_not_mem names (dash ▸ member)
    cases reads with
    | single number =>
        have whole := List.dropWhile_eq_nil_iff.2 (plain number)
        rw [range?, whole]
        simp [number_eq_some_iff.2 number]
    | @range lower upper low high first last =>
        have dropped :
            (lower ++ '-' :: upper).dropWhile (fun character => decide (character ≠ '-')) =
            '-' :: upper := by
          rw [List.dropWhile_append_of_pos (plain first), List.dropWhile_cons_of_neg (by decide)]
        have taken : (lower ++ '-' :: upper).takeWhile (fun character => decide (character ≠ '-')) =
            lower := by
          rw [List.takeWhile_append_of_pos (plain first), List.takeWhile_cons_of_neg (by decide),
            List.append_nil]
        rw [range?, dropped, taken]
        simp [number_eq_some_iff.2 first, number_eq_some_iff.2 last]

theorem mem_expand_iff {range : Nat × Nat} {cpu : Nat} :
    cpu ∈ expand range ↔ range.1 ≤ cpu ∧ cpu ≤ range.2 := by
  rw [expand, List.mem_range'_1]
  omega

theorem mem_union_iff {ranges : List (Nat × Nat)} {start : CpuSet} {cpu : Nat} :
    cpu ∈ ranges.foldl (fun cpus range => cpus.insertMany (expand range)) start ↔
      cpu ∈ start ∨ ∃ range ∈ ranges, range.1 ≤ cpu ∧ cpu ≤ range.2 := by
  induction ranges generalizing start with
  | nil => simp
  | cons range ranges induction =>
      rw [List.foldl_cons, induction, Std.TreeSet.mem_insertMany_list, List.contains_iff_mem,
        mem_expand_iff, List.exists_mem_cons_iff, or_assoc]

theorem parse_eq (text : String) :
    parse? text = ((parts text).mapM range?).map fun ranges =>
      ranges.foldl (fun cpus range => cpus.insertMany (expand range)) ∅ := by
  rw [parse?, Text.pieces_eq_split_on]
  change ((parts text).mapM range?).bind _ = _
  cases (parts text).mapM range? <;> rfl

theorem parse_eq_ok_iff {text : String} {cpus : CpuSet} :
    parse text = .ok cpus ↔ parse? text = some cpus := by
  rw [parse]
  cases parse? text <;> simp

theorem exists_parse_iff (text : String) :
    (∃ cpus, parse text = .ok cpus) ↔ ∀ piece ∈ parts text, ∃ low high, Piece piece low high := by
  simp only [parse_eq_ok_iff, parse_eq, Option.map_eq_some_iff]
  rw [exists_comm]
  simp only [exists_and_left, exists_eq', and_true, Json.exists_map_m_iff, Prod.exists,
    range_eq_some_iff]

theorem mem_of_parse {text : String} {cpus : CpuSet} (read : parse text = .ok cpus) (cpu : Nat) :
    cpu ∈ cpus ↔
      ∃ piece ∈ parts text, ∃ low high, Piece piece low high ∧ low ≤ cpu ∧ cpu ≤ high := by
  rw [parse_eq_ok_iff, parse_eq] at read
  obtain ⟨ranges, all, rfl⟩ := Option.map_eq_some_iff.1 read
  rw [mem_union_iff, or_iff_right Std.TreeSet.not_mem_emptyc]
  simp only [Json.mem_of_map_m all, Prod.exists, range_eq_some_iff]
  constructor
  · intro covered
    obtain ⟨low, high, ⟨piece, member, names⟩, within⟩ := covered
    exact ⟨piece, member, low, high, names, within⟩
  · intro covered
    obtain ⟨piece, member, low, high, names, within⟩ := covered
    exact ⟨low, high, ⟨piece, member, names⟩, within⟩

end Reading

section Writing

/-- Runs from the lowest on, with at least one number missing between each and the next, so that none
could be longer. -/
structure Longest (runs : List (Nat × Nat)) : Prop where
  filled : ∀ run ∈ runs, run.1 ≤ run.2
  apart : runs.Pairwise fun first second => first.2 + 1 < second.1

/-- The kernel's writing of a set: its longest runs, each as one number or as its first and last
with a dash between them, with commas between the runs and a line break at the end. -/
def Rendering (cpus : CpuSet) (text : String) : Prop :=
  ∃ runs : List (Nat × Nat), Longest runs ∧
    (∀ cpu, cpu ∈ cpus ↔ ∃ run ∈ runs, run.1 ≤ cpu ∧ cpu ≤ run.2) ∧
    text = ",".intercalate (runs.map fun run =>
      if run.1 = run.2 then Number.decimal run.1
      else Number.decimal run.1 ++ "-" ++ Number.decimal run.2) ++ "\n"

/-- A number in front of others is a run by itself, unless their first run begins right behind it. -/
theorem runs_cons_cases (cpu : Nat) (rest : List Nat) :
    (runs rest = [] ∧ runs (cpu :: rest) = [(cpu, cpu)]) ∨
    (∃ high others, runs rest = (cpu + 1, high) :: others ∧
      runs (cpu :: rest) = (cpu, high) :: others) ∨
    ∃ low high others, cpu + 1 ≠ low ∧ runs rest = (low, high) :: others ∧
      runs (cpu :: rest) = (cpu, cpu) :: (low, high) :: others := by
  rw [runs]
  split
  · rename_i low high others split
    by_cases next : cpu + 1 = low
    · subst next
      exact .inr (.inl ⟨high, others, split, if_pos rfl⟩)
    · exact .inr (.inr ⟨low, high, others, next, split, if_neg next⟩)
  · rename_i none
    exact .inl ⟨none, rfl⟩

theorem filled_runs (cpus : List Nat) : ∀ run ∈ runs cpus, run.1 ≤ run.2 := by
  induction cpus with
  | nil => exact List.forall_mem_nil _
  | cons cpu rest induction =>
      rcases runs_cons_cases cpu rest with
        ⟨_, same⟩ | ⟨high, others, before, same⟩ | ⟨low, high, others, _, before, same⟩
      · simp [same]
      · rw [before, List.forall_mem_cons] at induction
        rw [same]
        exact List.forall_mem_cons.2 ⟨Nat.le_of_succ_le induction.1, induction.2⟩
      · rw [before] at induction
        rw [same]
        exact List.forall_mem_cons.2 ⟨Nat.le_refl cpu, induction⟩

/-- No run covers a number that is not listed, and every number is in a run. -/
theorem mem_runs_iff {cpus : List Nat} (cpu : Nat) :
    cpu ∈ cpus ↔ ∃ run ∈ runs cpus, run.1 ≤ cpu ∧ cpu ≤ run.2 := by
  induction cpus with
  | nil => simp [runs]
  | cons first rest induction =>
      have filled := filled_runs rest
      rw [List.mem_cons, induction]
      rcases runs_cons_cases first rest with
        ⟨none, same⟩ | ⟨high, others, before, same⟩ | ⟨low, high, others, _, before, same⟩
      · rw [none, same]
        simp
        omega
      · rw [before] at filled
        have longer := filled (first + 1, high) List.mem_cons_self
        rw [before, same, List.exists_mem_cons_iff, List.exists_mem_cons_iff, ← or_assoc]
        exact or_congr_left (by omega)
      · rw [before, same, List.exists_mem_cons_iff (fun run => run.1 ≤ cpu ∧ cpu ≤ run.2)
          (first, first)]
        exact or_congr_left (by omega)

theorem head_runs (cpus : List Nat) : (runs cpus).head?.map Prod.fst = cpus.head? := by
  cases cpus with
  | nil => rfl
  | cons cpu rest =>
      rcases runs_cons_cases cpu rest with ⟨_, same⟩ | ⟨_, _, _, same⟩ | ⟨_, _, _, _, _, same⟩ <;>
        (rw [same]; rfl)

theorem apart_runs {cpus : List Nat} (increasing : cpus.Pairwise (· < ·)) :
    (runs cpus).Pairwise fun first second => first.2 + 1 < second.1 := by
  induction cpus with
  | nil => exact .nil
  | cons cpu rest induction =>
      obtain ⟨least, increasing⟩ := List.pairwise_cons.1 increasing
      have apart := induction increasing
      rcases runs_cons_cases cpu rest with
        ⟨_, same⟩ | ⟨high, others, before, same⟩ | ⟨low, high, others, gap, before, same⟩
      · rw [same]
        exact List.pairwise_singleton _ _
      · rw [before] at apart
        rw [same]
        exact List.pairwise_cons.2 (List.pairwise_cons.1 apart)
      · have head := head_runs rest
        rw [before] at apart head
        have above : cpu < low := least low (List.mem_of_head? head.symm)
        have longer : low ≤ high :=
          filled_runs rest (low, high) (by rw [before]; exact List.mem_cons_self)
        rw [same]
        refine List.pairwise_cons.2 ⟨List.forall_mem_cons.2 ⟨by omega, ?_⟩, apart⟩
        intro run member
        have after := (List.pairwise_cons.1 apart).1 run member
        omega

theorem rendering_render (cpus : CpuSet) : Rendering cpus (render cpus) := by
  refine ⟨runs cpus.toList, ⟨filled_runs _, apart_runs cpus.increasing⟩, ?_, rfl⟩
  intro cpu
  rw [← mem_runs_iff, Std.TreeSet.mem_toList]

end Writing

section RoundTrip

variable {run : Nat × Nat} {ranges : List (Nat × Nat)}

theorem to_list_render_run :
    (renderRun run).toList = if run.1 = run.2 then (Number.decimal run.1).toList
      else (Number.decimal run.1).toList ++ '-' :: (Number.decimal run.2).toList := by
  rw [renderRun]
  split
  · rfl
  · simp

theorem piece_run (filled : run.1 ≤ run.2) (small : run.2 < UInt32.size) :
    Piece (renderRun run).toList run.1 run.2 := by
  rw [to_list_render_run]
  split
  · rename_i single
    rw [← single]
    exact .single ⟨Number.denotes_decimal run.1, by omega⟩
  · exact .range ⟨Number.denotes_decimal run.1, by omega⟩ ⟨Number.denotes_decimal run.2, small⟩

theorem is_digit_or_dash {character : Char} (member : character ∈ (renderRun run).toList) :
    character.isDigit ∨ character = '-' := by
  rw [to_list_render_run] at member
  split at member
  · exact .inl (Number.is_digit_of_mem_decimal member)
  · rw [List.mem_append, List.mem_cons] at member
    rcases member with low | dash | high
    · exact .inl (Number.is_digit_of_mem_decimal low)
    · exact .inr dash
    · exact .inl (Number.is_digit_of_mem_decimal high)

theorem render_run_ne_nil (run : Nat × Nat) : (renderRun run).toList ≠ [] := by
  rw [to_list_render_run]
  split
  · simpa using Number.decimal_ne_empty run.1
  · simp

theorem mem_intercalate {character : Char} {texts : List (List Char)}
    (member : character ∈ [','].intercalate texts) :
    character = ',' ∨ ∃ text ∈ texts, character ∈ text := by
  induction texts with
  | nil => simp at member
  | cons text texts induction =>
      cases texts with
      | nil => exact .inr ⟨text, List.mem_cons_self, by simpa using member⟩
      | cons second others =>
          rw [List.intercalate_cons_cons, List.append_assoc, List.mem_append, List.mem_append,
            List.mem_singleton] at member
          rcases member with first | comma | later
          · exact .inr ⟨text, List.mem_cons_self, first⟩
          · exact .inl comma
          · exact (induction later).imp_right fun found =>
              found.imp fun _ parts => ⟨List.mem_cons_of_mem text parts.1, parts.2⟩

theorem parts_of_runs (ranges : List (Nat × Nat)) :
    parts (",".intercalate (ranges.map renderRun) ++ "\n") =
      ranges.map fun run => (renderRun run).toList := by
  have solid : ∀ character ∈ [','].intercalate (ranges.map fun run => (renderRun run).toList),
      Text.isBlank character = false := by
    intro character member
    rcases mem_intercalate member with rfl | ⟨text, there, inside⟩
    · rfl
    · obtain ⟨run, _, rfl⟩ := List.mem_map.1 there
      rcases is_digit_or_dash inside with digit | rfl
      · exact Text.is_blank_of_is_digit digit
      · rfl
  have line : ",".intercalate (ranges.map renderRun) ++ "\n" =
      String.ofList
        ([','].intercalate (ranges.map fun run => (renderRun run).toList) ++ ['\n']) := by
    apply String.toList_inj.1
    simp [Function.comp_def]
  rw [parts, line, Text.trim_line solid, String.toList_ofList]
  cases ranges with
  | nil => rfl
  | cons run others =>
      rw [List.splitOn_intercalate]
      · apply List.filter_eq_self.2
        intro piece member
        obtain ⟨run, _, rfl⟩ := List.mem_map.1 member
        simpa using render_run_ne_nil run
      · intro piece member comma
        obtain ⟨run, _, rfl⟩ := List.mem_map.1 member
        exact absurd (is_digit_or_dash comma) (by decide)
      · simp

theorem read_rendering {cpus : CpuSet} {text : String} (small : ∀ cpu ∈ cpus, cpu < UInt32.size)
    (rendering : Rendering cpus text) : ∃ found, parse text = .ok found ∧ found.Equiv cpus := by
  obtain ⟨ranges, longest, members, rfl⟩ := rendering
  have pieces : ∀ run ∈ ranges, Piece (renderRun run).toList run.1 run.2 := by
    intro run member
    have filled := longest.filled run member
    exact piece_run filled (small run.2 ((members run.2).2 ⟨run, member, filled, Nat.le_refl _⟩))
  have split := parts_of_runs ranges
  have accepted : ∃ found, parse _ = .ok found := (exists_parse_iff _).2 <| by
    intro piece member
    rw [split] at member
    obtain ⟨run, there, rfl⟩ := List.mem_map.1 member
    exact ⟨_, _, pieces run there⟩
  obtain ⟨found, read⟩ := accepted
  refine ⟨found, read, .of_forall_mem_iff ?_⟩
  intro cpu
  rw [mem_of_parse read, split, members]
  simp only [List.mem_map, exists_exists_and_eq_and]
  apply exists_congr
  intro run
  apply and_congr_right
  intro member
  constructor
  · intro covered
    obtain ⟨low, high, piece, within⟩ := covered
    have same := (range_eq_some_iff.2 piece).symm.trans (range_eq_some_iff.2 (pieces run member))
    obtain ⟨rfl, rfl⟩ := Prod.mk.inj (Option.some.inj same)
    exact within
  · intro within
    exact ⟨_, _, pieces run member, within⟩

end RoundTrip

/-- What a listing stands for, and that the kernel's writing of a set stands for the set. -/
theorem listing_read_and_written :
    (∀ text, (∃ cpus, parse text = .ok cpus) ↔
        ∀ piece ∈ parts text, ∃ low high, Piece piece low high) ∧
      (∀ text cpus, parse text = .ok cpus → ∀ cpu, cpu ∈ cpus ↔
        ∃ piece ∈ parts text, ∃ low high, Piece piece low high ∧ low ≤ cpu ∧ cpu ≤ high) ∧
      ∀ cpus : CpuSet, (∀ cpu ∈ cpus, cpu < UInt32.size) → Rendering cpus (render cpus) ∧
        ∀ text, Rendering cpus text → ∃ found, parse text = .ok found ∧ found.Equiv cpus := by
  refine ⟨exists_parse_iff, fun text cpus => mem_of_parse, ?_⟩
  intro cpus small
  exact ⟨rendering_render cpus, fun text => read_rendering small⟩

/-- The last of the CPUs that can be listed, and some of the first. -/
def outerCpus : CpuSet := (∅ : CpuSet).insertMany [0, 1, 2, 3, 6, 4294967294, 4294967295]

theorem outer_cpus_read :
    (∀ cpu ∈ outerCpus, cpu < UInt32.size) ∧ render outerCpus = "0-3,6,4294967294-4294967295\n" ∧
      ∃ found, parse "0-3,6,4294967294-4294967295\n" = .ok found ∧ found.Equiv outerCpus := by
  have small : ∀ cpu ∈ outerCpus, cpu < UInt32.size := by
    intro cpu member
    rw [outerCpus, Std.TreeSet.mem_insertMany_list] at member
    simp at member
    rw [UInt32.size]
    omega
  have written : render outerCpus = "0-3,6,4294967294-4294967295\n" := by decide +kernel
  obtain ⟨rendered, read⟩ := listing_read_and_written.2.2 outerCpus small
  rw [written] at rendered
  exact ⟨small, written, read _ rendered⟩

end CpuListing

end TraceOverhead
