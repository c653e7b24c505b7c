import TraceOverhead.Proofs.Random.Draws
import TraceOverhead.Tracepoint.Random
/-!
What can be drawn. Each part of a tracepoint is described without the draws that lead to it: a name
by its syllables, the literals by their ranges, a tracepoint by its literals, the number of its
fields and their names. Main statement: these descriptions fit exactly what some stream of draws
gives.
-/

namespace TraceOverhead

open Dialogue TraceOverhead.Random

theorem yields_draw_many_iff {α : Type} {draw : Drawing α} {count : Nat} {items : List α} :
    Yields (drawMany draw count) items ↔
      items.length = count ∧ ∀ item ∈ items, Yields draw item := by
  induction count generalizing items with
  | zero =>
      rw [drawMany, List.length_eq_zero_iff]
      refine yields_done_iff.trans ?_
      constructor
      · rintro rfl
        simp
      · exact And.left
  | succ count induction =>
      rw [drawMany, yields_bind_iff]
      simp only [yields_map_iff, induction]
      constructor
      · rintro ⟨item, drawn, others, ⟨counted, all⟩, rfl⟩
        exact ⟨by rw [List.length_cons, counted], List.forall_mem_cons.2 ⟨drawn, all⟩⟩
      · rintro ⟨counted, all⟩
        cases items with
        | nil => contradiction
        | cons item others =>
            rw [List.forall_mem_cons] at all
            exact ⟨item, all.1, others, ⟨Nat.succ.inj counted, all.2⟩, rfl⟩

namespace Tracepoint

section Names

def consonants : List Char := "bcdfghjklmnpqrstvwxyz".toList

def vowels : List Char := "aeiouy".toList

/-- Whether a text consists of syllables, each a consonant and a vowel. -/
def isSyllabic : List Char → Bool
  | [] => true
  | [_] => false
  | first :: second :: rest =>
    consonants.contains first && vowels.contains second && isSyllabic rest

/-- Two to five syllables. -/
def Spoken (name : String) : Prop :=
  isSyllabic name.toList = true ∧ 4 ≤ name.toList.length ∧ name.toList.length ≤ 10

instance (name : String) : Decidable (Spoken name) :=
  inferInstanceAs (Decidable (_ ∧ _ ∧ _))

def IsSyllable (part : List Char) : Prop :=
  ∃ consonant ∈ consonants, ∃ vowel ∈ vowels, part = [consonant, vowel]

theorem yields_draw_syllable_iff {part : List Char} :
    Yields drawSyllable part ↔ IsSyllable part := by
  rw [drawSyllable, yields_bind_iff]
  refine exists_congr fun consonant => and_congr yields_pick_iff ?_
  rw [yields_map_iff]
  exact exists_congr fun vowel => and_congr_left fun _ => yields_pick_iff

theorem length_flatten_syllables {parts : List (List Char)} (all : ∀ part ∈ parts, IsSyllable part) :
    parts.flatten.length = 2 * parts.length := by
  induction parts with
  | nil => rfl
  | cons part others induction =>
      rw [List.forall_mem_cons] at all
      obtain ⟨consonant, _, vowel, _, rfl⟩ := all.1
      rw [List.flatten_cons, List.length_append, induction all.2]
      simp only [List.length_cons, List.length_nil]
      omega

theorem is_syllabic_flatten {parts : List (List Char)} (all : ∀ part ∈ parts, IsSyllable part) :
    isSyllabic parts.flatten = true := by
  induction parts with
  | nil => rfl
  | cons part others induction =>
      rw [List.forall_mem_cons] at all
      obtain ⟨consonant, first, vowel, second, rfl⟩ := all.1
      have rest := induction all.2
      simp [isSyllabic, first, second, rest]

theorem exists_syllables {text : List Char} (syllabic : isSyllabic text = true) :
    ∃ parts : List (List Char), (∀ part ∈ parts, IsSyllable part) ∧ parts.flatten = text := by
  fun_induction isSyllabic text with
  | case1 => exact ⟨[], by simp, rfl⟩
  | case2 => contradiction
  | case3 consonant vowel rest induction =>
      simp only [Bool.and_eq_true, List.contains_iff_mem] at syllabic
      obtain ⟨parts, all, flat⟩ := induction syllabic.2
      have part : IsSyllable [consonant, vowel] :=
        ⟨consonant, syllabic.1.1, vowel, syllabic.1.2, rfl⟩
      exact ⟨[consonant, vowel] :: parts, List.forall_mem_cons.2 ⟨part, all⟩,
        congrArg (consonant :: vowel :: ·) flat⟩

theorem yields_draw_name_iff {name : String} : Yields drawName name ↔ Spoken name := by
  have ordered : (2 : Int) ≤ 5 := by decide
  rw [drawName, yields_bind_iff]
  simp only [yields_map_iff, yields_wide_iff ordered, yields_draw_many_iff, yields_draw_syllable_iff]
  constructor
  · rintro ⟨syllables, ⟨above, below⟩, parts, ⟨counted, all⟩, rfl⟩
    have length := length_flatten_syllables all
    rw [Spoken, String.toList_ofList]
    exact ⟨is_syllabic_flatten all, by omega, by omega⟩
  · rintro ⟨syllabic, above, below⟩
    obtain ⟨parts, all, flat⟩ := exists_syllables syllabic
    have length := length_flatten_syllables all
    rw [flat] at length
    have named : name = String.ofList parts.flatten := by rw [flat, String.ofList_toList]
    exact ⟨parts.length, ⟨by omega, by omega⟩, parts, ⟨by omega, all⟩, named⟩

end Names

section Literals

/-- The literals that can be drawn. -/
structure InRange (literals : Literals) : Prop where
  text : 2 ≤ literals.text.length ∧ literals.text.length ≤ 128
  letters : ∀ letter ∈ literals.text, letter.isAlpha = true
  integers : ∀ number ∈ [literals.int1, literals.int2, literals.long1, literals.long2],
    -largestInteger ≤ number ∧ number ≤ largestInteger
  fractions : ∀ number ∈ [literals.float1, literals.float2, literals.double1, literals.double2],
    ∃ multiple < Nat.pow 2 53, number = Number.ofQuotient false multiple (Nat.pow 2 53)

theorem is_alpha_of_draw_letter {letter : Char} (drawn : Yields drawLetter letter) :
    letter.isAlpha = true := by
  have alphabet : ∀ letter ∈ 'a' :: letters, letter.isAlpha = true :=
    List.all_eq_true.1 (by decide)
  exact alphabet letter (yields_pick_iff.1 drawn)

theorem yields_draw_integer_iff {number : Int} :
    Yields drawInteger number ↔ -largestInteger ≤ number ∧ number ≤ largestInteger :=
  yields_wide_iff (by decide)

theorem in_range_of_draw_literals {literals : Literals} (drawn : Yields drawLiterals literals) :
    InRange literals := by
  have ordered : 2 ≤ 128 := by decide
  simp only [drawLiterals, yields_bind_iff, yields_narrow_iff ordered, yields_draw_many_iff,
    yields_draw_integer_iff, yields_fraction_iff] at drawn
  obtain ⟨length, within, text, ⟨counted, letters⟩, int1, first, int2, second, long1, third, long2,
    fourth, float1, fifth, float2, sixth, double1, seventh, double2, eighth, made⟩ := drawn
  obtain rfl := yields_done_iff.1 made
  constructor
  · exact counted ▸ within
  · intro letter member
    exact is_alpha_of_draw_letter (letters letter member)
  · simp [first, second, third, fourth]
  · simp only [List.forall_mem_cons]
    exact ⟨fifth, sixth, seventh, eighth, by simp⟩

theorem exists_drawn_literals : ∃ literals, Yields drawLiterals literals :=
  ⟨_, yields_run_seeded standardSeed drawLiterals⟩

end Literals

section Fields

theorem mem_field_kinds (kind : FieldKind) : kind ∈ FieldKind.first :: FieldKind.others := by
  cases kind with
  | number type => cases type <;> decide
  | text form => cases form <;> decide

/-- Fields are drawn of every kind and with every name. -/
theorem yields_draw_field_iff {field : Field} : Yields drawField field ↔ Spoken field.name := by
  have ordered : (1 : Int) ≤ 2 := by decide
  rw [drawField, yields_bind_iff]
  simp only [yields_pick_iff, mem_field_kinds, true_and]
  constructor
  · rintro ⟨kind, drawn⟩
    cases kind with
    | number type =>
        simp only [yields_bind_iff, yields_draw_name_iff] at drawn
        obtain ⟨terms, _, name, spoken, made⟩ := drawn
        rw [yields_done_iff.1 made]
        exact spoken
    | text form =>
        simp only [yields_map_iff, yields_draw_name_iff] at drawn
        obtain ⟨name, spoken, rfl⟩ := drawn
        exact spoken
  · intro spoken
    cases field with
    | number type name both =>
        refine ⟨.number type, yields_bind_iff.2 ⟨if both then 2 else 1, ?_, ?_⟩⟩
        · rw [yields_wide_iff ordered]
          split <;> decide
        · refine yields_map_iff.2 ⟨name, yields_draw_name_iff.2 spoken, ?_⟩
          cases both <;> rfl
    | text form name =>
        exact ⟨.text form, yields_map_iff.2 ⟨name, yields_draw_name_iff.2 spoken, rfl⟩⟩

end Fields

theorem yields_draw_iff {number : Nat} {tracepoint : Tracepoint} :
    Yields (draw number) tracepoint ↔
      tracepoint.number = number ∧ Yields drawLiterals tracepoint.literals ∧
        (1 ≤ tracepoint.fields.length ∧ tracepoint.fields.length ≤ 10) ∧
        ∀ field ∈ tracepoint.fields, Spoken field.name := by
  have ordered : 1 ≤ 10 := by decide
  rw [draw, yields_bind_iff]
  simp only [yields_bind_iff, yields_narrow_iff ordered, yields_draw_many_iff, yields_draw_field_iff]
  constructor
  · rintro ⟨literals, drawn, count, within, fields, ⟨counted, spoken⟩, made⟩
    obtain rfl := yields_done_iff.1 made
    exact ⟨rfl, drawn, counted ▸ within, spoken⟩
  · rintro ⟨rfl, drawn, within, spoken⟩
    exact ⟨_, drawn, _, within, _, ⟨rfl, spoken⟩, yields_done_iff.2 rfl⟩

theorem yields_draw_from_iff {done tracepoints : List Tracepoint} {count first : Nat} :
    Yields (drawFrom done count first) tracepoints ↔
      ∃ drawn : List Tracepoint, drawn.map Tracepoint.number = List.range' first count ∧
        (∀ tracepoint ∈ drawn, Yields (draw tracepoint.number) tracepoint) ∧
        tracepoints = done.reverse ++ drawn := by
  induction count generalizing done first with
  | zero =>
      rw [drawFrom]
      refine yields_done_iff.trans ?_
      simp
  | succ count induction =>
      rw [drawFrom, yields_bind_iff]
      simp only [induction, List.range'_succ, List.reverse_cons, List.append_assoc,
        List.singleton_append]
      constructor
      · rintro ⟨tracepoint, here, others, numbered, later, rfl⟩
        obtain rfl := (yields_draw_iff.1 here).1
        exact ⟨tracepoint :: others, by rw [List.map_cons, numbered],
          List.forall_mem_cons.2 ⟨here, later⟩, rfl⟩
      · rintro ⟨drawn, numbered, all, rfl⟩
        obtain ⟨tracepoint, others, rfl, rfl, counted⟩ := List.map_eq_cons_iff.1 numbered
        rw [List.forall_mem_cons] at all
        exact ⟨tracepoint, all.1, others, counted, all.2, rfl⟩

/-- Tracepoints are drawn one after the other, and each could be drawn on its own. -/
theorem yields_draw_all_iff {count : Nat} {tracepoints : List Tracepoint} :
    Yields (drawAll count) tracepoints ↔
      tracepoints.map Tracepoint.number = List.range' 1 count ∧
        ∀ tracepoint ∈ tracepoints, Yields (draw tracepoint.number) tracepoint := by
  rw [drawAll, yields_draw_from_iff]
  simp

end Tracepoint
end TraceOverhead
