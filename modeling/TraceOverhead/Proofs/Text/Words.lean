/-!
The words of a source text: its longest runs of letters, digits and underscores. Everything about
them follows from what a character that is in no word does, which is to separate them.
-/

namespace TraceOverhead.Text

def isWordCharacter (character : Char) : Bool := character.isAlphanum || character = '_'

def words (text : List Char) : List (List Char) :=
  (text.splitOnP fun character => !isWordCharacter character).filter fun piece => !piece.isEmpty

theorem words_nil : words [] = [] := rfl

theorem words_of_word {text : List Char} (nonempty : text ≠ [])
    (whole : text.all isWordCharacter = true) : words text = [text] := by
  rw [List.all_eq_true] at whole
  have unsplit : (text.splitOnP fun character => !isWordCharacter character) = [text] := by
    apply List.splitOnP_eq_singleton
    intro character member
    simp [whole character member]
  rw [words, unsplit]
  simp [nonempty]

theorem words_append_cons {separator : Char} (apart : isWordCharacter separator = false)
    (first rest : List Char) : words (first ++ separator :: rest) = words first ++ words rest := by
  rw [words, List.splitOnP_append_cons first rest (by simp [apart]), List.filter_append]
  rfl

theorem words_cons {separator : Char} (apart : isWordCharacter separator = false)
    (rest : List Char) : words (separator :: rest) = words rest :=
  words_append_cons apart [] rest

theorem words_separator_append {separator : List Char}
    (apart : separator.all (fun character => !isWordCharacter character) = true)
    (rest : List Char) : words (separator ++ rest) = words rest := by
  induction separator with
  | nil => rfl
  | cons character others induction =>
      rw [List.all_cons, Bool.and_eq_true, Bool.not_eq_true'] at apart
      rw [List.cons_append, words_cons apart.1, induction apart.2]

/-- A separator has no word in it, and sets apart what is on both sides of it. -/
theorem words_append_separator {separator : List Char} (nonempty : separator ≠ [])
    (apart : separator.all (fun character => !isWordCharacter character) = true)
    (first rest : List Char) : words (first ++ (separator ++ rest)) = words first ++ words rest := by
  cases separator with
  | nil => contradiction
  | cons character others =>
      rw [List.all_cons, Bool.and_eq_true, Bool.not_eq_true'] at apart
      rw [List.cons_append, words_append_cons apart.1, words_separator_append apart.2]

theorem words_intercalate {separator : List Char} (nonempty : separator ≠ [])
    (apart : separator.all (fun character => !isWordCharacter character) = true)
    (texts : List (List Char)) : words (separator.intercalate texts) = texts.flatMap words := by
  induction texts with
  | nil => rfl
  | cons text texts induction =>
      cases texts with
      | nil => simp
      | cons second others =>
          rw [List.intercalate_cons_cons, List.append_assoc,
            words_append_separator nonempty apart, induction]
          rfl

end TraceOverhead.Text
