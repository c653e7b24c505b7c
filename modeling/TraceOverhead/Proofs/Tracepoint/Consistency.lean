import Mathlib.Data.List.Forall2
import TraceOverhead.Proofs.Dialogue.Transcript
import TraceOverhead.Proofs.Number.Text
import TraceOverhead.Proofs.Text.Words
import TraceOverhead.Proofs.Tracepoint.Drawing
/-!
Drawn tracepoints hang together: what their fields mention is what they declare, every variable is
declared with its type and gets a literal of that type, and every length that is written out is the
length of the text. Main statement: this is so of every tracepoint that can be drawn.
-/

namespace TraceOverhead

open Dialogue TraceOverhead.Random

/-- The words that stand for the variables of a tracepoint. -/
def Text.IsVariable (word : List Char) : Prop := "tp_".toList <+: word

instance (word : List Char) : Decidable (Text.IsVariable word) :=
  inferInstanceAs (Decidable (_ <+: _))

namespace Text

theorem mem_of_is_variable {word : List Char} (named : IsVariable word) : '_' ∈ word :=
  named.subset (by decide)

theorem not_is_variable_of_lower {word : List Char}
    (lower : ∀ character ∈ word, character.isLower = true) : ¬ IsVariable word := by
  intro named
  have underscore := lower '_' (mem_of_is_variable named)
  contradiction

theorem not_is_variable_decimal (number : Nat) : ¬ IsVariable (Number.decimal number).toList := by
  intro named
  have underscore := Number.is_digit_of_mem_decimal (mem_of_is_variable named)
  contradiction

theorem words_decimal (number : Nat) :
    words (Number.decimal number).toList = [(Number.decimal number).toList] := by
  apply words_of_word
  · intro empty
    exact Number.decimal_ne_empty number (String.toList_inj.1 empty)
  · rw [List.all_eq_true]
    intro character member
    have digit := Number.is_digit_of_mem_decimal member
    simp [isWordCharacter, Char.isAlphanum, digit]

end Text

namespace Tracepoint

theorem is_lower_of_spoken {name : String} (spoken : Spoken name) :
    ∀ character ∈ name.toList, character.isLower = true := by
  have letters : ∀ character ∈ consonants ++ vowels, character.isLower = true :=
    List.all_eq_true.1 (by decide)
  have syllabic := spoken.1
  generalize name.toList = text at syllabic
  fun_induction isSyllabic text with
  | case1 => simp
  | case2 => exact Bool.noConfusion syllabic
  | case3 consonant vowel rest induction =>
      simp only [Bool.and_eq_true, List.contains_iff_mem] at syllabic
      have first := letters consonant (List.mem_append_left _ syllabic.1.1)
      have second := letters vowel (List.mem_append_right _ syllabic.1.2)
      exact List.forall_mem_cons.2 ⟨first, List.forall_mem_cons.2 ⟨second, induction syllabic.2⟩⟩

theorem words_of_spoken {name : String} (spoken : Spoken name) :
    Text.words name.toList = [name.toList] := by
  apply Text.words_of_word
  · intro empty
    have length := spoken.2.1
    simp [empty] at length
  · rw [List.all_eq_true]
    intro character member
    have lower := is_lower_of_spoken spoken character member
    have letter : character.isAlpha = true := (Bool.or_eq_true _ _).mpr (.inr lower)
    simp [Text.isWordCharacter, Char.isAlphanum, letter]

end Tracepoint

namespace Field

open Tracepoint

variable {literals : Literals} {field : Field} {word : List Char}

theorem words_render (literals : Literals) (field : Field) :
    Text.words (field.render literals).toList = Text.words field.fieldMacro.toList ++
      (field.operands literals).flatMap fun operand => Text.words operand.toList := by
  have opening : ("(" : String).toList = ['('] := rfl
  have closing : (")" : String).toList = [')'] := rfl
  rw [render]
  simp only [String.toList_append, String.toList_intercalate, opening, closing, List.append_assoc,
    List.cons_append, List.nil_append]
  rw [Text.words_append_cons (by decide), Text.words_append_cons (by decide), Text.words_nil,
    List.append_nil, Text.words_intercalate (by decide) (by decide), List.flatMap_map]

theorem words_field_macro (field : Field) :
    Text.words field.fieldMacro.toList = [field.fieldMacro.toList] ∧
      ¬ Text.IsVariable field.fieldMacro.toList := by
  cases field with
  | number type name both =>
      rw [fieldMacro]
      cases type <;> decide
  | text form name =>
      rw [fieldMacro]
      cases form <;> decide

theorem words_c_type (type : NumberType) :
    Text.words type.cType.toList = [type.cType.toList] ∧ ¬ Text.IsVariable type.cType.toList := by
  cases type <;> decide

theorem words_argument_name (argument : Argument) :
    Text.words argument.name.toList = [argument.name.toList] ∧
      Text.IsVariable argument.name.toList := by
  cases argument <;> decide

theorem words_sum (arguments : List Argument) :
    Text.words (" + ".intercalate (arguments.map Argument.name)).toList =
      arguments.map fun argument => argument.name.toList := by
  rw [String.toList_intercalate, Text.words_intercalate (by decide) (by decide), List.map_map,
    List.flatMap_map]
  simp only [Function.comp_apply, words_argument_name]
  exact List.map_eq_flatMap.symm

/-- The variables among the operands of a field are its arguments. -/
theorem mem_operands_iff (spoken : Spoken field.name) (named : Text.IsVariable word) :
    (word ∈ (field.operands literals).flatMap fun operand => Text.words operand.toList) ↔
      ∃ argument ∈ field.arguments, word = argument.name.toList := by
  have other : ∀ {text : List Char}, ¬ Text.IsVariable text → word ≠ text := by
    intro text unnamed same
    exact unnamed (same ▸ named)
  have unnamed : ¬ Text.IsVariable field.name.toList :=
    Text.not_is_variable_of_lower (is_lower_of_spoken spoken)
  cases field with
  | number type name both =>
      have typeWord := words_c_type type
      have nameWord : Text.words name.toList = [name.toList] := words_of_spoken spoken
      have apart : word ≠ name.toList := other unnamed
      have operands : (Field.number type name both).operands literals = [type.cType, name,
        " + ".intercalate ((Field.number type name both).arguments.map Argument.name)] := rfl
      rw [operands]
      simp only [List.flatMap_cons, List.flatMap_nil, List.append_nil, typeWord.1, nameWord,
        words_sum, List.cons_append, List.nil_append, List.mem_cons, List.mem_map,
        other typeWord.2, apart, false_or]
      exact exists_congr fun argument => and_congr_right fun _ => eq_comm
  | text form name =>
      have nameWord : Text.words name.toList = [name.toList] := words_of_spoken spoken
      have apart : word ≠ name.toList := other unnamed
      have char : Text.words "char".toList = ["char".toList] ∧ ¬ Text.IsVariable "char".toList := by
        decide
      have size : Text.words Argument.textSize.cType.toList = [Argument.textSize.cType.toList] ∧
          ¬ Text.IsVariable Argument.textSize.cType.toList := by decide
      have number : word ≠ (literals.render .textSize).toList :=
        other (Text.not_is_variable_decimal literals.text.length)
      have numberWord : Text.words (literals.render .textSize).toList =
        [(literals.render .textSize).toList] := Text.words_decimal literals.text.length
      cases form <;>
        simp [-String.reduceToList, operands, arguments, nameWord, apart, char.1, other char.2, size.1,
          other size.2, number, numberWord, words_argument_name]

/-- The variables that a field mentions are its arguments. -/
theorem mem_words_render_iff (spoken : Spoken field.name) (named : Text.IsVariable word) :
    word ∈ Text.words (field.render literals).toList ↔
      ∃ argument ∈ field.arguments, word = argument.name.toList := by
  have macroWord := words_field_macro field
  have other : word ≠ field.fieldMacro.toList := fun same => macroWord.2 (same ▸ named)
  rw [words_render, macroWord.1, List.singleton_append, List.mem_cons, or_iff_right other,
    mem_operands_iff spoken named]

/-- An array has the length of the text written out. -/
theorem render_array {form : TextForm} (array : form = .array ∨ form = .arrayText) (name : String) :
    (Field.text form name).render literals = form.fieldMacro ++ "(char, " ++ name ++
      ", tp_charptr_1, " ++ Number.decimal literals.text.length ++ ")" := by
  rcases array with rfl | rfl <;>
    simp [← String.toList_inj, render, operands, fieldMacro, Argument.name, Literals.render]

end Field

namespace Tracepoint

/-- The variables that a tracepoint may declare, with their types, in the order of their names. -/
def candidates : List (String × String) :=
  [("char *", "tp_charptr_1"), ("size_t", "tp_charptr_1_size"), ("double", "tp_double_1"),
   ("double", "tp_double_2"), ("float", "tp_float_1"), ("float", "tp_float_2"), ("int", "tp_int_1"),
   ("int", "tp_int_2"), ("long", "tp_long_1"), ("long", "tp_long_2")]

/-- What can be passed for a variable of a type where the text has these letters. -/
inductive LiteralOf (letters : List Char) : String → String → Prop
  | text : LiteralOf letters "char *" (String.ofList ('"' :: letters ++ ['"']))
  | size : LiteralOf letters "size_t" (Number.decimal letters.length)
  | integer {type : String} {number : Int} (whole : type = "int" ∨ type = "long")
      (above : -2147483647 ≤ number) (below : number ≤ 2147483647) :
      LiteralOf letters type (Number.signedDecimal number)
  | fraction {type : String} {multiple : Nat} (broken : type = "float" ∨ type = "double")
      (below : multiple < Nat.pow 2 53) :
      LiteralOf letters type
        (Number.literalLayout.text (Number.ofQuotient false multiple (Nat.pow 2 53)))

/-- A tracepoint that hangs together. -/
structure Consistent (tracepoint : Tracepoint) : Prop where
  field_count : 1 ≤ tracepoint.fieldTexts.length ∧ tracepoint.fieldTexts.length ≤ 10
  declares : tracepoint.arguments ≠ []
  increasing : (tracepoint.arguments.map Argument.name).Pairwise (· < ·)
  declared : (tracepoint.arguments.map fun argument => (argument.cType, argument.name)).Sublist
    candidates
  closed : ∀ word, Text.IsVariable word →
    ((∃ text ∈ tracepoint.fieldTexts, word ∈ Text.words text.toList) ↔
      ∃ argument ∈ tracepoint.arguments, word = argument.name.toList)
  passed : List.Forall₂
    (fun argument value => value = tracepoint.literals.render argument ∧
      LiteralOf tracepoint.literals.text argument.cType value)
    tracepoint.arguments tracepoint.values
  text_length : 2 ≤ tracepoint.literals.text.length ∧ tracepoint.literals.text.length ≤ 128
  letters : ∀ letter ∈ tracepoint.literals.text, letter.isAlpha = true
  array_lengths : ∀ form name, Field.text form name ∈ tracepoint.fields →
    form = .array ∨ form = .arrayText →
      (Field.text form name).render tracepoint.literals = form.fieldMacro ++ "(char, " ++ name ++
        ", tp_charptr_1, " ++ Number.decimal tracepoint.literals.text.length ++ ")"

theorem literal_of_render {literals : Literals} (range : InRange literals) (argument : Argument) :
    LiteralOf literals.text argument.cType (literals.render argument) := by
  have integers := range.integers
  have fractions := range.fractions
  have integer : ∀ {type : String} {number : Int}, type = "int" ∨ type = "long" →
      -largestInteger ≤ number ∧ number ≤ largestInteger →
        LiteralOf literals.text type (Number.signedDecimal number) :=
    fun whole within => .integer whole within.1 within.2
  have fraction : ∀ {type : String} {number : Float}, type = "float" ∨ type = "double" →
      (∃ multiple < Nat.pow 2 53, number = Number.ofQuotient false multiple (Nat.pow 2 53)) →
        LiteralOf literals.text type (Number.literalLayout.text number) := by
    rintro type number broken ⟨multiple, below, rfl⟩
    exact .fraction broken below
  simp only [List.forall_mem_cons] at integers fractions
  cases argument with
  | text => exact .text
  | textSize => exact .size
  | int1 => exact integer (.inl rfl) integers.1
  | int2 => exact integer (.inl rfl) integers.2.1
  | long1 => exact integer (.inr rfl) integers.2.2.1
  | long2 => exact integer (.inr rfl) integers.2.2.2.1
  | float1 => exact fraction (.inl rfl) fractions.1
  | float2 => exact fraction (.inl rfl) fractions.2.1
  | double1 => exact fraction (.inr rfl) fractions.2.2.1
  | double2 => exact fraction (.inr rfl) fractions.2.2.2.1

section Arguments

variable {tracepoint : Tracepoint}

theorem mem_arguments_iff {argument : Argument} :
    argument ∈ tracepoint.arguments ↔ ∃ field ∈ tracepoint.fields, argument ∈ field.arguments := by
  have known : argument ∈ Argument.all := by cases argument <;> decide
  simp [arguments, known]

theorem declarations_sublist (tracepoint : Tracepoint) :
    (tracepoint.arguments.map fun argument => (argument.cType, argument.name)).Sublist candidates := by
  have all : (Argument.all.map fun argument => (argument.cType, argument.name)) = candidates := rfl
  rw [← all]
  exact List.filter_sublist.map _

theorem increasing_arguments (tracepoint : Tracepoint) :
    (tracepoint.arguments.map Argument.name).Pairwise (· < ·) := by
  have all : (Argument.all.map Argument.name).Pairwise (· < ·) := by decide
  exact all.sublist (List.filter_sublist.map Argument.name)

theorem arguments_ne_nil (fields : tracepoint.fields ≠ []) : tracepoint.arguments ≠ [] := by
  obtain ⟨field, others, first⟩ := List.exists_cons_of_ne_nil fields
  have used : ∃ argument, argument ∈ field.arguments := by
    cases field with
    | number type name both => cases both <;> exact ⟨type.first, by simp [Field.arguments]⟩
    | text form name => cases form <;> exact ⟨.text, by simp [Field.arguments]⟩
  obtain ⟨argument, inside⟩ := used
  exact List.ne_nil_of_mem (mem_arguments_iff.2 ⟨field, by simp [first], inside⟩)

theorem mentioned_iff (spoken : ∀ field ∈ tracepoint.fields, Spoken field.name) {word : List Char}
    (named : Text.IsVariable word) :
    (∃ text ∈ tracepoint.fieldTexts, word ∈ Text.words text.toList) ↔
      ∃ argument ∈ tracepoint.arguments, word = argument.name.toList := by
  simp only [fieldTexts, List.mem_map, exists_exists_and_eq_and, mem_arguments_iff]
  constructor
  · rintro ⟨field, member, mentioned⟩
    obtain ⟨argument, inside, same⟩ :=
      (Field.mem_words_render_iff (spoken field member) named).1 mentioned
    exact ⟨argument, ⟨field, member, inside⟩, same⟩
  · rintro ⟨argument, ⟨field, member, inside⟩, same⟩
    exact ⟨field, member,
      (Field.mem_words_render_iff (spoken field member) named).2 ⟨argument, inside, same⟩⟩

end Arguments

theorem consistent_of_draw {number : Nat} {tracepoint : Tracepoint}
    (drawn : Yields (draw number) tracepoint) : tracepoint.Consistent := by
  obtain ⟨_, literals, within, spoken⟩ := yields_draw_iff.1 drawn
  have range := in_range_of_draw_literals literals
  have fields : tracepoint.fields ≠ [] := by
    intro empty
    simp [empty] at within
  constructor
  · rwa [fieldTexts, List.length_map]
  · exact arguments_ne_nil fields
  · exact increasing_arguments tracepoint
  · exact declarations_sublist tracepoint
  · exact fun word named => mentioned_iff spoken named
  · rw [values, List.forall₂_map_right_iff, List.forall₂_same]
    exact fun argument _ => ⟨rfl, literal_of_render range argument⟩
  · exact range.text
  · exact range.letters
  · exact fun form name _ array => Field.render_array array name

/-- As many tracepoints as asked for, numbered from one, each of which hangs together. -/
structure Sound (count : Nat) (tracepoints : List Tracepoint) : Prop where
  numbered : tracepoints.map Tracepoint.number = List.range' 1 count
  consistent : ∀ tracepoint ∈ tracepoints, tracepoint.Consistent

theorem sound_of_draw_all {count : Nat} {tracepoints : List Tracepoint}
    (drawn : Yields (drawAll count) tracepoints) : Sound count tracepoints := by
  obtain ⟨numbered, each⟩ := yields_draw_all_iff.1 drawn
  exact ⟨numbered, fun tracepoint member => consistent_of_draw (each tracepoint member)⟩

theorem sound_generate (count : Nat) (seed : UInt64) : Sound count (generate count seed) :=
  sound_of_draw_all (yields_run_seeded seed (drawAll count))

/-- Tracepoints hang together whatever is drawn, and so do those of every seed. -/
theorem drawn_tracepoints_sound (count : Nat) :
    (∀ tracepoints, Yields (drawAll count) tracepoints → Sound count tracepoints) ∧
      ∀ seed, Sound count (generate count seed) := by
  constructor
  · exact fun tracepoints drawn => sound_of_draw_all drawn
  · exact fun seed => sound_generate count seed

/-- A tracepoint with the sum of both integers and the text as an array. -/
def smallTracepoint : Tracepoint where
  number := 1
  literals :=
    let fraction := Number.ofQuotient false 0 (Nat.pow 2 53)
    ⟨['a', 'b'], -largestInteger, -largestInteger, -largestInteger, -largestInteger,
      fraction, fraction, fraction, fraction⟩
  fields := [.number .int "baba" true, .text .array "caba"]

theorem small_tracepoint_sound :
    Yields (drawAll 1) [smallTracepoint] ∧ Sound 1 [smallTracepoint] := by
  have answered : (@transcript draws _ (List Nat) answerInTurn
      [0, 0, 1, 0, 0, 0, 0, 0, 0, 0, 0, 1, 0, 1, 0, 0, 0, 0, 0, 7, 0, 1, 0, 0, 0]
      (drawAll 1)).2 = [smallTracepoint] := rfl
  have drawn : Yields (drawAll 1) [smallTracepoint] :=
    answered ▸ ⟨_, @course_transcript draws _ (List Nat) answerInTurn _ (drawAll 1)⟩
  exact ⟨drawn, (drawn_tracepoints_sound 1).1 _ drawn⟩

end Tracepoint
end TraceOverhead
