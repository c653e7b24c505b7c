/-!
Splitting text at a separator.
-/

namespace TraceOverhead.Text

/-- The pieces between separators. There is always one more piece than there are separators. -/
def pieces (separator : Char) : List Char → List (List Char)
  | [] => [[]]
  | character :: rest =>
    if character = separator then [] :: pieces separator rest
    else match pieces separator rest with
      | [] => [[character]]
      | piece :: others => (character :: piece) :: others

theorem length_pieces (separator : Char) (text : List Char) :
    (pieces separator text).length = text.count separator + 1 := by
  induction text with
  | nil => rfl
  | cons character rest induction =>
    by_cases same : character = separator
    · simp [pieces, same, induction]
    · simp only [pieces, same, if_false, List.count_cons]
      split <;> simp_all

end TraceOverhead.Text
