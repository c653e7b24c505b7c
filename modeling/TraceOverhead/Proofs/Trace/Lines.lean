import Mathlib.Data.Set.Card
import TraceOverhead.Trace
/-!
Lines of an output as they are counted: the stretches without newlines that cannot be longer. A
newline cuts an output in two whose lines are counted apart, so neither an empty line nor a newline
at the end makes a difference. Main statement: the count is the number of these stretches.
-/

namespace TraceOverhead.Trace

/-- A stretch without newlines that cannot be longer, with what is before and after it. -/
structure IsLine (bytes before line after : Bytes) : Prop where
  whole : bytes = before ++ line ++ after
  nonempty : line ≠ []
  unbroken : newline ∉ line
  opens : before = [] ∨ before.getLast? = some newline
  closes : after = [] ∨ after.head? = some newline

/-- All ways to cut a line out of an output. -/
def lines (bytes : Bytes) : Set (Bytes × Bytes × Bytes) :=
  {cut | IsLine bytes cut.1 cut.2.1 cut.2.2}

variable {bytes before line after first second : Bytes}

section Counting

theorem count_lines_newline (inLine : Bool) (rest : Bytes) :
    countLines inLine (newline :: rest) = countLines false rest :=
  if_pos rfl

theorem count_lines_other {byte : UInt8} (other : byte ≠ newline) (inLine : Bool) (rest : Bytes) :
    countLines inLine (byte :: rest) = (if inLine then 0 else 1) + countLines true rest :=
  if_neg other

theorem count_lines_append (inLine : Bool) (first second : Bytes) :
    countLines inLine (first ++ newline :: second) =
      countLines inLine first + countLines false second := by
  induction first generalizing inLine with
  | nil =>
      rw [List.nil_append, count_lines_newline]
      exact (Nat.zero_add _).symm
  | cons byte rest induction =>
      by_cases broken : byte = newline
      · rw [broken, List.cons_append, count_lines_newline, count_lines_newline, induction]
      · rw [List.cons_append, count_lines_other broken, count_lines_other broken, induction,
          Nat.add_assoc]

theorem count_lines_in_line (unbroken : newline ∉ line) : countLines true line = 0 := by
  induction line with
  | nil => rfl
  | cons byte rest induction =>
      obtain ⟨other, later⟩ := not_or.1 (mt List.mem_cons.2 unbroken)
      rw [count_lines_other (Ne.symm other), induction later]
      rfl

theorem count_lines_unbroken (unbroken : newline ∉ line) (nonempty : line ≠ []) :
    countLines false line = 1 := by
  obtain ⟨byte, rest, rfl⟩ := List.exists_cons_of_ne_nil nonempty
  obtain ⟨other, later⟩ := not_or.1 (mt List.mem_cons.2 unbroken)
  rw [count_lines_other (Ne.symm other), count_lines_in_line later]
  rfl

theorem count_lines_le (inLine : Bool) (bytes : Bytes) :
    countLines inLine bytes ≤ bytes.length := by
  induction bytes generalizing inLine with
  | nil => exact Nat.le_refl 0
  | cons byte rest induction =>
      by_cases broken : byte = newline
      · rw [broken, count_lines_newline]
        exact Nat.le_succ_of_le (induction false)
      · have one : (if inLine then 0 else 1) ≤ 1 := by split <;> omega
        have more := induction true
        rw [count_lines_other broken, List.length_cons]
        omega

end Counting

section Cutting

theorem is_line_unbroken_iff (unbroken : newline ∉ bytes) :
    IsLine bytes before line after ↔ bytes ≠ [] ∧ before = [] ∧ line = bytes ∧ after = [] := by
  constructor
  · rintro ⟨rfl, nonempty, _, opens, closes⟩
    have first : before = [] := by
      refine opens.resolve_right fun ending => unbroken ?_
      simp [List.mem_of_getLast? ending]
    have last : after = [] := by
      refine closes.resolve_right fun leading => unbroken ?_
      simp [List.mem_of_head? leading]
    subst first last
    simpa using nonempty
  · rintro ⟨nonempty, rfl, rfl, rfl⟩
    exact ⟨by simp, nonempty, unbroken, .inl rfl, .inl rfl⟩

theorem get_last_behind_newline (first rest : Bytes) :
    (first ++ newline :: rest).getLast? = some newline ↔
      rest = [] ∨ rest.getLast? = some newline := by
  rw [List.getLast?_append_of_ne_nil _ (List.cons_ne_nil _ _)]
  cases rest with
  | nil => simp
  | cons byte rest => simp [List.getLast?_cons_cons]

theorem head_before_newline (rest second : Bytes) :
    (rest ++ newline :: second).head? = some newline ↔ rest = [] ∨ rest.head? = some newline := by
  cases rest <;> simp

/-- What has no newline and begins before one also ends before it. -/
theorem left_before_newline (unbroken : newline ∉ line)
    (whole : line ++ after = first ++ newline :: second) :
    ∃ left, first = line ++ left ∧ after = left ++ newline :: second := by
  rcases List.append_eq_append_iff.1 whole with ⟨left, same, follows⟩ | ⟨left, same, follows⟩
  · exact ⟨left, same, follows⟩
  · cases left with
    | nil => exact ⟨[], by simpa using same.symm, follows.symm⟩
    | cons byte left =>
        obtain ⟨rfl, _⟩ := List.cons.inj follows
        exact absurd (by simp [same]) unbroken

/-- A line lies before or behind a newline, never across it. -/
theorem is_line_append_iff :
    IsLine (first ++ newline :: second) before line after ↔
      (∃ rest, IsLine first before line rest ∧ after = rest ++ newline :: second) ∨
      ∃ rest, IsLine second rest line after ∧ before = first ++ newline :: rest := by
  constructor
  · rintro ⟨whole, nonempty, unbroken, opens, closes⟩
    rw [List.append_assoc] at whole
    rcases List.append_eq_append_iff.1 whole with ⟨more, rfl, rest⟩ | ⟨more, rfl, rest⟩
    · cases more with
      | nil =>
          obtain ⟨byte, others, rfl⟩ := List.exists_cons_of_ne_nil nonempty
          obtain ⟨rfl, _⟩ := List.cons.inj rest
          exact absurd List.mem_cons_self unbroken
      | cons byte more =>
          obtain ⟨rfl, rfl⟩ := List.cons.inj rest
          have ending := (get_last_behind_newline first more).1 (opens.resolve_left (by simp))
          exact .inr ⟨more, ⟨(List.append_assoc ..).symm, nonempty, unbroken, ending, closes⟩, rfl⟩
    · obtain ⟨left, rfl, rfl⟩ := left_before_newline unbroken rest
      have leading := (head_before_newline left second).1 (closes.resolve_left (by simp))
      exact .inl ⟨left, ⟨(List.append_assoc ..).symm, nonempty, unbroken, opens, leading⟩, rfl⟩
  · rintro (⟨rest, ⟨rfl, nonempty, unbroken, opens, closes⟩, rfl⟩ |
      ⟨rest, ⟨rfl, nonempty, unbroken, opens, closes⟩, rfl⟩)
    · have leading := (head_before_newline rest second).2 closes
      exact ⟨by simp, nonempty, unbroken, opens, .inr leading⟩
    · have ending := (get_last_behind_newline first rest).2 opens
      exact ⟨by simp, nonempty, unbroken, .inr ending, closes⟩

end Cutting

section Lines

/-- A cut of what stands before a newline, as a cut of the whole. -/
def cutBefore (second : Bytes) (cut : Bytes × Bytes × Bytes) : Bytes × Bytes × Bytes :=
  (cut.1, cut.2.1, cut.2.2 ++ newline :: second)

/-- A cut of what stands behind a newline, as a cut of the whole. -/
def cutBehind (first : Bytes) (cut : Bytes × Bytes × Bytes) : Bytes × Bytes × Bytes :=
  (first ++ newline :: cut.1, cut.2.1, cut.2.2)

theorem lines_append (first second : Bytes) : lines (first ++ newline :: second) =
    cutBefore second '' lines first ∪ cutBehind first '' lines second := by
  ext ⟨before, line, after⟩
  simp only [lines, Set.mem_ofPred_eq, is_line_append_iff, Set.mem_union, Set.mem_image,
    Prod.exists, cutBefore, cutBehind, Prod.mk.injEq]
  constructor
  · rintro (⟨rest, is, rfl⟩ | ⟨rest, is, rfl⟩)
    · exact .inl ⟨_, _, _, is, rfl, rfl, rfl⟩
    · exact .inr ⟨_, _, _, is, rfl, rfl, rfl⟩
  · rintro (⟨_, _, rest, is, rfl, rfl, rfl⟩ | ⟨rest, _, _, is, rfl, rfl, rfl⟩)
    · exact .inl ⟨rest, is, rfl⟩
    · exact .inr ⟨rest, is, rfl⟩

theorem not_mem_cut_behind {cut : Bytes × Bytes × Bytes}
    (member : cut ∈ cutBefore second '' lines first) : cut ∉ cutBehind first '' lines second := by
  obtain ⟨⟨before, line, after⟩, is, rfl⟩ := member
  rintro ⟨⟨rest, other, behind⟩, _, same⟩
  have longer : first ++ newline :: rest = before := (Prod.mk.inj same).1
  have lengths := congrArg List.length is.whole
  rw [← longer] at lengths
  simp at lengths

theorem cut_before_injective (second : Bytes) : Function.Injective (cutBefore second) := by
  rintro ⟨before, line, after⟩ ⟨other, stretch, behind⟩ same
  simpa [cutBefore] using same

theorem cut_behind_injective (first : Bytes) : Function.Injective (cutBehind first) := by
  rintro ⟨before, line, after⟩ ⟨other, stretch, behind⟩ same
  simpa [cutBehind] using same

theorem encard_lines_append (first second : Bytes) :
    (lines (first ++ newline :: second)).encard = (lines first).encard + (lines second).encard := by
  rw [lines_append, Set.encard_union_eq (Set.disjoint_left.2 fun _ => not_mem_cut_behind),
    (cut_before_injective second).encard_image, (cut_behind_injective first).encard_image]

theorem lines_unbroken (unbroken : newline ∉ bytes) (nonempty : bytes ≠ []) :
    lines bytes = {([], bytes, [])} := by
  ext ⟨before, line, after⟩
  simp [lines, is_line_unbroken_iff unbroken, nonempty]

theorem lines_nil : lines [] = ∅ := by
  ext ⟨before, line, after⟩
  simp [lines, is_line_unbroken_iff]

/-- Lines are counted one by one. -/
theorem encard_lines (bytes : Bytes) : (lines bytes).encard = countLines false bytes := by
  induction length : bytes.length using Nat.strong_induction_on generalizing bytes with
  | h size induction =>
    by_cases broken : newline ∈ bytes
    · -- Both sides of a newline are shorter, and lines as well as the count add up.
      obtain ⟨first, second, rfl⟩ := List.append_of_mem broken
      rw [List.length_append, List.length_cons] at length
      rw [encard_lines_append, count_lines_append, induction _ (by omega) first rfl,
        induction _ (by omega) second rfl]
      rfl
    · by_cases empty : bytes = []
      · rw [empty, lines_nil, Set.encard_empty]
        rfl
      · rw [lines_unbroken broken empty, Set.encard_singleton, count_lines_unbroken broken empty]
        rfl

/-- How many lines an output has. -/
theorem ncard_lines (bytes : Bytes) : (lines bytes).ncard = countLines false bytes := by
  rw [Set.ncard, encard_lines]
  rfl

theorem ncard_lines_le (bytes : Bytes) : (lines bytes).ncard ≤ bytes.length := by
  rw [ncard_lines]
  exact count_lines_le false bytes

theorem ncard_lines_append (first second : Bytes) :
    (lines (first ++ newline :: second)).ncard = (lines first).ncard + (lines second).ncard := by
  rw [ncard_lines, ncard_lines, ncard_lines, count_lines_append]

/-- An empty line makes no difference. -/
theorem ncard_lines_blank (first second : Bytes) :
    (lines (first ++ newline :: newline :: second)).ncard =
      (lines (first ++ newline :: second)).ncard := by
  have blank := ncard_lines_append [] second
  rw [lines_nil, Set.ncard_empty, Nat.zero_add, List.nil_append] at blank
  rw [ncard_lines_append, ncard_lines_append, blank]

/-- Nor does a newline at the end. -/
theorem ncard_lines_closed (bytes : Bytes) :
    (lines (bytes ++ [newline])).ncard = (lines bytes).ncard := by
  rw [ncard_lines_append, lines_nil, Set.ncard_empty, Nat.add_zero]

theorem finite_lines (bytes : Bytes) : (lines bytes).Finite :=
  Set.finite_of_encard_eq_coe (encard_lines bytes)

end Lines

end TraceOverhead.Trace
