import TraceOverhead.Json.Printer
import TraceOverhead.Json.Token
import TraceOverhead.Proofs.Number.Text
/-!
The pieces that a JSON text is cut into by someone who knows nothing but where strings begin and
end: the marks, the strings with their escapes and the words between them, as they are written.
Cutting an indented document gives back the pieces of its values in order.
-/

namespace TraceOverhead.Json

inductive Lexeme where
  | openArray
  | closeArray
  | openObject
  | closeObject
  | comma
  | colon
  | bare (characters : List Char)
  | quoted (characters : List Char)
  deriving DecidableEq, Repr

/-- What is being cut; characters read so far are kept last first. -/
inductive Cutting where
  | between
  | bare (read : List Char)
  | quoted (read : List Char)
  | escaped (read : List Char)

def mark? : Char → Option Lexeme
  | '[' => some .openArray
  | ']' => some .closeArray
  | '\x7b' => some .openObject
  | '\x7d' => some .closeObject
  | ',' => some .comma
  | ':' => some .colon
  | _ => none

def isBlank (character : Char) : Bool :=
  character == ' ' || character == '\n' || character == '\r' || character == '\t'

def cut : Cutting → List Char → List Lexeme
  | .between, [] => []
  | .bare read, [] => [.bare read.reverse]
  | .quoted _, [] => []
  | .escaped _, [] => []
  | .between, character :: rest =>
    match mark? character with
    | some mark => mark :: cut .between rest
    | none =>
      if isBlank character then cut .between rest
      else if character = '"' then cut (.quoted []) rest
      else cut (.bare [character]) rest
  | .bare read, character :: rest =>
    match mark? character with
    | some mark => .bare read.reverse :: mark :: cut .between rest
    | none =>
      if isBlank character then .bare read.reverse :: cut .between rest
      else cut (.bare (character :: read)) rest
  | .quoted read, character :: rest =>
    if character = '"' then .quoted read.reverse :: cut .between rest
    else if character = '\\' then cut (.escaped (character :: read)) rest
    else cut (.quoted (character :: read)) rest
  | .escaped read, character :: rest => cut (.quoted (character :: read)) rest

section Strings

theorem cut_plain {character : Char} (unmarked : character ≠ '"' ∧ character ≠ '\\')
    (read rest : List Char) :
    cut (.quoted read) (character :: rest) = cut (.quoted (character :: read)) rest :=
  (if_neg unmarked.1).trans (if_neg unmarked.2)

theorem cut_escape (character : Char) (read rest : List Char) :
    cut (.quoted read) ('\\' :: character :: rest) =
      cut (.quoted (character :: '\\' :: read)) rest :=
  rfl

theorem cut_closing (read rest : List Char) :
    cut (.quoted read) ('"' :: rest) = .quoted read.reverse :: cut .between rest :=
  rfl

theorem cut_quoted_plain {plain : List Char} (read rest : List Char)
    (unmarked : ∀ character ∈ plain, character ≠ '"' ∧ character ≠ '\\') :
    cut (.quoted read) (plain ++ rest) = cut (.quoted (plain.reverse ++ read)) rest := by
  induction plain generalizing read with
  | nil => rfl
  | cons character plain induction =>
      rw [List.cons_append, cut_plain (unmarked character (by simp)),
        induction _ (fun other member => unmarked other (by simp [member]))]
      simp

theorem forall_mem_hexadecimal {property : Char → Prop}
    (digit : ∀ value < 16, property (Nat.digitChar value)) (width number : Nat) :
    ∀ character ∈ Number.hexadecimal width number, property character := by
  induction width generalizing number with
  | zero => simp [Number.hexadecimal]
  | succ width induction =>
      intro character member
      rw [Number.hexadecimal, List.mem_append] at member
      rcases member with before | last
      · exact induction _ character before
      · rw [List.mem_singleton.1 last]
        exact digit _ (Nat.mod_lt _ (by omega))

theorem hexadecimal_unmarked (width number : Nat) :
    ∀ character ∈ Number.hexadecimal width number, character ≠ '"' ∧ character ≠ '\\' :=
  forall_mem_hexadecimal (by decide) width number

theorem escape_char_cases (character : Char) :
    (∃ short, shortEscape? short = some character ∧ escapeChar character = ['\\', short]) ∨
      (character.toNat < 0x20 ∧
        escapeChar character = ['\\', 'u'] ++ Number.hexadecimal 4 character.toNat) ∨
      (character ≠ '"' ∧ character ≠ '\\' ∧ escapeChar character = [character]) := by
  fun_cases escapeChar character with
  | case1 => exact .inl ⟨'"', rfl, rfl⟩
  | case2 => exact .inl ⟨'\\', rfl, rfl⟩
  | case3 => exact .inl ⟨'n', rfl, rfl⟩
  | case4 => exact .inl ⟨'r', rfl, rfl⟩
  | case5 => exact .inl ⟨'t', rfl, rfl⟩
  | case6 => exact .inl ⟨'b', rfl, rfl⟩
  | case7 => exact .inl ⟨'f', rfl, rfl⟩
  | case8 => grind
  | case9 => grind

theorem cut_escape_char (character : Char) (read rest : List Char) :
    cut (.quoted read) (escapeChar character ++ rest) =
      cut (.quoted ((escapeChar character).reverse ++ read)) rest := by
  rcases escape_char_cases character with short | control | plain
  · obtain ⟨letter, _, escaped⟩ := short
    rw [escaped]
    exact cut_escape letter read rest
  · have spelled := cut_quoted_plain ('u' :: '\\' :: read) rest
      (hexadecimal_unmarked 4 character.toNat)
    rw [control.2]
    simpa [cut_escape] using spelled
  · rw [plain.2.2]
    exact cut_plain ⟨plain.1, plain.2.1⟩ read rest

theorem cut_escaped (text : List Char) (read rest : List Char) :
    cut (.quoted read) (text.flatMap escapeChar ++ '"' :: rest) =
      .quoted (read.reverse ++ text.flatMap escapeChar) :: cut .between rest := by
  induction text generalizing read with
  | nil => simp [cut_closing]
  | cons character text induction =>
      rw [List.flatMap_cons, List.append_assoc, cut_escape_char, induction]
      simp

theorem cut_string_chars (text : String) (rest : List Char) :
    cut .between (stringChars text ++ rest) =
      .quoted (text.toList.flatMap escapeChar) :: cut .between rest := by
  have opened : cut .between (stringChars text ++ rest) =
      cut (.quoted []) (text.toList.flatMap escapeChar ++ '"' :: rest) := by
    rw [stringChars, List.append_assoc]
    rfl
  rw [opened, cut_escaped]
  rfl

end Strings

section Words

def isWordChar (character : Char) : Bool :=
  (mark? character == none) && !isBlank character && character != '"'

/-- Nothing follows that would go on with a word. -/
def Ended (rest : List Char) : Prop :=
  ∀ character ∈ rest.head?, (mark? character).isSome ∨ isBlank character

theorem cut_bare {word : List Char} (read rest : List Char)
    (characters : word.all isWordChar) :
    cut (.bare read) (word ++ rest) = cut (.bare (word.reverse ++ read)) rest := by
  induction word generalizing read with
  | nil => rfl
  | cons character word induction =>
      rw [List.all_cons, Bool.and_eq_true] at characters
      have first := characters.1
      simp only [isWordChar, Bool.and_eq_true, beq_iff_eq, Bool.not_eq_true'] at first
      rw [List.cons_append, cut, first.1.1]
      simp only [first.1.2]
      rw [if_neg (by simp), induction _ characters.2]
      simp

theorem cut_bare_ended {read rest : List Char} (ended : Ended rest) :
    cut (.bare read) rest = .bare read.reverse :: cut .between rest := by
  cases rest with
  | nil => rfl
  | cons character rest =>
      rw [cut, cut]
      cases mark : mark? character with
      | some lexeme => rfl
      | none =>
          have blank : isBlank character := by
            rcases ended character rfl with marked | blank
            · rw [mark] at marked
              contradiction
            · exact blank
          simp [blank]

theorem cut_word {word rest : List Char} (nonempty : word ≠ [])
    (characters : word.all isWordChar) (ended : Ended rest) :
    cut .between (word ++ rest) = .bare word :: cut .between rest := by
  cases word with
  | nil => contradiction
  | cons character word =>
      rw [List.all_cons, Bool.and_eq_true] at characters
      have first := characters.1
      simp only [isWordChar, Bool.and_eq_true, beq_iff_eq, Bool.not_eq_true', bne_iff_ne] at first
      have opened : cut .between (character :: word ++ rest) =
          cut (.bare [character]) (word ++ rest) := by
        rw [List.cons_append, cut, first.1.1]
        simp [first.1.2, first.2]
      rw [opened, cut_bare _ _ characters.2, cut_bare_ended ended]
      simp

theorem is_word_char_of_is_numeric {character : Char} (numeric : Number.isNumeric character) :
    isWordChar character := by
  have digit : character.isDigit → isWordChar character := by
    intro digit
    have unmarked : mark? character = none := by
      fun_cases mark? character <;> first | rfl | contradiction
    have unequal : ∀ other : Char, other.isDigit = false → character ≠ other := by
      intro other apart same
      rw [same, apart] at digit
      contradiction
    simp [isWordChar, isBlank, unmarked, unequal]
  simp only [Number.isNumeric, Bool.or_eq_true, beq_iff_eq] at numeric
  rcases numeric with (((number | rfl) | rfl) | rfl) | rfl
  · exact digit number
  all_goals rfl

theorem is_word_char_numeral (numeral : Numeral) : (numeralChars numeral).all isWordChar := by
  cases numeral with
  | integer value =>
      rw [List.all_eq_true]
      intro character member
      exact is_word_char_of_is_numeric (Number.is_numeric_of_mem_signed_decimal member)
  | double value =>
      rw [numeralChars]
      split
      · rename_i finite
        rw [List.all_eq_true]
        intro character member
        exact is_word_char_of_is_numeric (Number.is_numeric_of_mem_text finite member)
      · rfl

theorem numeral_chars_ne_nil (numeral : Numeral) : numeralChars numeral ≠ [] := by
  cases numeral with
  | integer value => exact Number.signed_decimal_ne_nil value
  | double value =>
      rw [numeralChars]
      split
      · exact Number.text_ne_nil _ _
      · decide

end Words

section Documents

mutual

def lexemes : Json → List Lexeme
  | .null => [.bare "null".toList]
  | .bool value => [.bare (boolChars value)]
  | .number value => [.bare (numeralChars value)]
  | .string value => [.quoted (value.toList.flatMap escapeChar)]
  | .array [] => [.openArray, .closeArray]
  | .array (item :: items) => .openArray :: lexemes item ++ itemLexemes items
  | .object [] => [.openObject, .closeObject]
  | .object ((name, value) :: members) =>
    .openObject :: .quoted (name.toList.flatMap escapeChar) :: .colon :: lexemes value ++
      memberLexemes members

def itemLexemes : List Json → List Lexeme
  | [] => [.closeArray]
  | item :: items => .comma :: lexemes item ++ itemLexemes items

def memberLexemes : List (String × Json) → List Lexeme
  | [] => [.closeObject]
  | (name, value) :: members =>
    .comma :: .quoted (name.toList.flatMap escapeChar) :: .colon :: lexemes value ++
      memberLexemes members

end

theorem cut_line_break (depth : Nat) (rest : List Char) :
    cut .between (lineBreak depth ++ rest) = cut .between rest := by
  have spaces : ∀ count, cut .between (List.replicate count ' ' ++ rest) = cut .between rest := by
    intro count
    induction count with
    | zero => rfl
    | succ count induction => exact induction
  exact spaces (2 * depth)

theorem ended_indented_items (depth : Nat) (items : List Json) (rest : List Char) :
    Ended (indentedItems depth items ++ rest) := by
  intro character first
  cases items <;>
    (simp only [indentedItems, lineBreak, List.cons_append, List.head?_cons, Option.mem_some]
      at first
     subst first
     decide)

theorem ended_indented_members (depth : Nat) (members : List (String × Json)) (rest : List Char) :
    Ended (indentedMembers depth members ++ rest) := by
  intro character first
  cases members <;>
    (simp only [indentedMembers, lineBreak, List.cons_append, List.head?_cons, Option.mem_some]
      at first
     subst first
     decide)

theorem cut_mark {character : Char} {mark : Lexeme} (marked : mark? character = some mark)
    (rest : List Char) : cut .between (character :: rest) = mark :: cut .between rest := by
  rw [cut, marked]

theorem cut_name (name : String) (rest : List Char) :
    cut .between (stringChars name ++ ':' :: ' ' :: rest) =
      .quoted (name.toList.flatMap escapeChar) :: .colon :: cut .between rest := by
  rw [cut_string_chars]
  rfl

mutual

theorem cut_indented (depth : Nat) (rest : List Char) (ended : Ended rest) :
    (document : Json) → cut .between (indentedChars depth document ++ rest) =
      lexemes document ++ cut .between rest
  | .null => by
      rw [indentedChars, lexemes]
      exact cut_word (by decide) rfl ended
  | .bool value => by
      rw [indentedChars, lexemes]
      cases value <;> exact cut_word (by decide) rfl ended
  | .number value => cut_word (numeral_chars_ne_nil value) (is_word_char_numeral value) ended
  | .string value => cut_string_chars value rest
  | .array [] => rfl
  | .array (item :: items) => by
      have first := cut_indented (depth + 1) (indentedItems depth items ++ rest)
        (ended_indented_items depth items rest) item
      have others := cut_indented_items depth rest items
      rw [others] at first
      rw [indentedChars, lexemes]
      simp only [List.cons_append, List.append_assoc]
      rw [cut_mark rfl, cut_line_break, first]
  | .object [] => rfl
  | .object ((name, value) :: members) => by
      have first := cut_indented (depth + 1) (indentedMembers depth members ++ rest)
        (ended_indented_members depth members rest) value
      have others := cut_indented_members depth rest members
      rw [others] at first
      rw [indentedChars, lexemes]
      simp only [List.cons_append, List.append_assoc, List.nil_append]
      rw [cut_mark rfl, cut_line_break, cut_name, first]

theorem cut_indented_items (depth : Nat) (rest : List Char) :
    (items : List Json) → cut .between (indentedItems depth items ++ rest) =
      itemLexemes items ++ cut .between rest
  | [] => by
      rw [indentedItems, List.append_assoc, cut_line_break]
      rfl
  | item :: items => by
      have first := cut_indented (depth + 1) (indentedItems depth items ++ rest)
        (ended_indented_items depth items rest) item
      have others := cut_indented_items depth rest items
      rw [others] at first
      rw [indentedItems, itemLexemes]
      simp only [List.cons_append, List.append_assoc]
      rw [cut_mark rfl, cut_line_break, first]

theorem cut_indented_members (depth : Nat) (rest : List Char) :
    (members : List (String × Json)) → cut .between (indentedMembers depth members ++ rest) =
      memberLexemes members ++ cut .between rest
  | [] => by
      rw [indentedMembers, List.append_assoc, cut_line_break]
      rfl
  | (name, value) :: members => by
      have first := cut_indented (depth + 1) (indentedMembers depth members ++ rest)
        (ended_indented_members depth members rest) value
      have others := cut_indented_members depth rest members
      rw [others] at first
      rw [indentedMembers, memberLexemes]
      simp only [List.cons_append, List.append_assoc, List.nil_append]
      rw [cut_mark rfl, cut_line_break, cut_name, first]

end

end Documents

section Lines

theorem not_mem_escape_char (character : Char) : '\n' ∉ escapeChar character := by
  rcases escape_char_cases character with ⟨short, known, escaped⟩ | ⟨_, escaped⟩ | ⟨_, _, escaped⟩
  · rw [escaped]
    intro member
    obtain rfl : '\n' = short := by simpa using member
    contradiction
  · rw [escaped]
    intro member
    have digit : '\n' ∈ Number.hexadecimal 4 character.toNat := by simpa using member
    exact @forall_mem_hexadecimal (· ≠ '\n') (by decide) 4 _ _ digit rfl
  · rw [escaped]
    intro member
    obtain rfl : '\n' = character := by simpa using member
    contradiction

theorem not_mem_string_chars (text : String) : '\n' ∉ stringChars text := by
  have inside : '\n' ∉ text.toList.flatMap escapeChar := by
    intro member
    obtain ⟨character, _, escaped⟩ := List.mem_flatMap.1 member
    exact not_mem_escape_char character escaped
  simp [stringChars, inside]

theorem not_mem_numeral_chars (numeral : Numeral) : '\n' ∉ numeralChars numeral := by
  intro member
  have word := List.all_eq_true.1 (is_word_char_numeral numeral) _ member
  contradiction

mutual

/-- A compact document is written on one line. -/
theorem not_mem_compact_chars : (document : Json) → '\n' ∉ compactChars document
  | .null => by
      rw [compactChars]
      decide
  | .bool value => by
      rw [compactChars]
      cases value <;> decide
  | .number value => not_mem_numeral_chars value
  | .string value => not_mem_string_chars value
  | .array items => by
      have inside := not_mem_compact_items items
      simp [compactChars, inside]
  | .object members => by
      have inside := not_mem_compact_members members
      simp [compactChars, inside]

theorem not_mem_compact_items : (items : List Json) → '\n' ∉ compactItems items
  | [] => List.not_mem_nil
  | [item] => not_mem_compact_chars item
  | item :: next :: items => by
      have here := not_mem_compact_chars item
      have later := not_mem_compact_items (next :: items)
      simp [compactItems, here, later]

theorem not_mem_compact_members :
    (members : List (String × Json)) → '\n' ∉ compactMembers members
  | [] => List.not_mem_nil
  | [(name, value)] => by
      have here := not_mem_compact_chars value
      simp [compactMembers, not_mem_string_chars, here]
  | (name, value) :: next :: members => by
      have here := not_mem_compact_chars value
      have later := not_mem_compact_members (next :: members)
      simp [compactMembers, not_mem_string_chars, here, later]

end

end Lines

end TraceOverhead.Json
