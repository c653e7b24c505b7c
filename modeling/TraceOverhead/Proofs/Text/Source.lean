import TraceOverhead.Proofs.File.Path
/-!
Sources as they are read: continued lines are joined, and what stands between brackets is cut at the
commas. Everything follows from what these readings make of a text in two parts.
-/

namespace TraceOverhead.Text

variable {separator : Char} {text first rest : List Char} {texts : List (List Char)}

theorem not_mem_intercalate {character : Char} {between : List Char}
    (apart : character ∉ between) (outside : ∀ text ∈ texts, character ∉ text) :
    character ∉ between.intercalate texts := by
  induction texts with
  | nil => simp
  | cons text texts induction =>
      obtain ⟨here, later⟩ := List.forall_mem_cons.1 outside
      cases texts with
      | nil => simpa using here
      | cons second others =>
          rw [List.intercalate_cons_cons, List.mem_append, List.mem_append, not_or, not_or]
          exact ⟨⟨here, apart⟩, induction later⟩

section Pieces

theorem pieces_intercalate (nonempty : texts ≠ []) (whole : ∀ text ∈ texts, separator ∉ text) :
    pieces separator ([separator].intercalate texts) = texts := by
  rw [pieces_eq_split_on, List.splitOn_intercalate separator whole nonempty]

/-- Texts that are not empty are the pieces that are not, even if there are none. -/
theorem full_pieces_intercalate (full : ∀ text ∈ texts, text ≠ [])
    (whole : ∀ text ∈ texts, separator ∉ text) :
    ((pieces separator ([separator].intercalate texts)).filter fun piece => !piece.isEmpty) =
      texts := by
  by_cases nonempty : texts = []
  · subst nonempty
    rfl
  · rw [pieces_intercalate nonempty whole, List.filter_eq_self]
    intro text member
    simpa using full text member

theorem mem_of_mem_pieces {piece : List Char} (listed : piece ∈ pieces separator text)
    {character : Char} (member : character ∈ piece) : character ∈ text := by
  have kept : character ∈ (pieces separator text).flatten := List.mem_flatten.2 ⟨_, listed, member⟩
  rw [flatten_pieces] at kept
  exact List.mem_of_mem_filter kept

theorem pieces_append (whole : separator ∉ first) (rest : List Char) :
    ∃ piece others, pieces separator (first ++ rest) = (first ++ piece) :: others := by
  induction first with
  | nil =>
      have counted := length_pieces separator rest
      cases split : pieces separator rest with
      | nil => simp [split] at counted
      | cons piece others => exact ⟨piece, others, split⟩
  | cons character first induction =>
      obtain ⟨other, later⟩ := not_or.1 (mt List.mem_cons.2 whole)
      obtain ⟨piece, others, split⟩ := induction later
      refine ⟨piece, others, ?_⟩
      rw [List.cons_append, pieces, if_neg (Ne.symm other), split]
      rfl

end Pieces

section Splicing

/-- A source with its continued lines joined. -/
def splice : List Char → List Char
  | '\\' :: '\n' :: rest => splice rest
  | character :: rest => character :: splice rest
  | [] => []

theorem splice_append (whole : '\\' ∉ first) (rest : List Char) :
    splice (first ++ rest) = first ++ splice rest := by
  induction first with
  | nil => rfl
  | cons character first induction =>
      obtain ⟨other, later⟩ := not_or.1 (mt List.mem_cons.2 whole)
      rw [List.cons_append, splice, induction later]
      · rfl
      · exact fun _ same _ => other same.symm

/-- Texts on lines of their own that are continued stand on one line. -/
theorem splice_intercalate {indent : List Char} (unindented : '\\' ∉ indent)
    (whole : ∀ text ∈ texts, '\\' ∉ text) (rest : List Char) :
    splice (('\\' :: '\n' :: indent).intercalate texts ++ rest) =
      indent.intercalate texts ++ splice rest := by
  induction texts with
  | nil => rfl
  | cons text texts induction =>
      obtain ⟨here, later⟩ := List.forall_mem_cons.1 whole
      cases texts with
      | nil => simpa using splice_append here rest
      | cons second others =>
          rw [List.intercalate_cons_cons, List.intercalate_cons_cons]
          simp only [List.append_assoc, List.cons_append]
          rw [splice_append here, splice, splice_append unindented, induction later]

end Splicing

section Operands

def isSpace (character : Char) : Bool := [' ', '\t', '\n'].contains character

/-- What stands between commas, without the spaces before it. -/
def items (text : List Char) : List (List Char) :=
  (pieces ',' text).map fun piece => piece.dropWhile isSpace

theorem items_append (first rest : List Char) :
    items (first ++ ',' :: rest) = items first ++ items rest := by
  rw [items, pieces_append_separator, List.map_append]
  rfl

theorem items_space {space : Char} (blank : isSpace space = true) (rest : List Char) :
    items (space :: rest) = items rest := by
  have other : space ≠ ',' := by
    rintro rfl
    contradiction
  rw [items, items, pieces, if_neg other]
  have counted := length_pieces ',' rest
  cases split : pieces ',' rest with
  | nil => simp [split] at counted
  | cons piece others => simp [blank]

theorem items_single (whole : ',' ∉ text)
    (unspaced : ∀ character ∈ text, isSpace character = false) : items text = [text] := by
  rw [items, pieces_of_not_mem whole, List.map_singleton]
  cases text with
  | nil => rfl
  | cons character rest => rw [List.dropWhile_cons_of_neg (by simp [unspaced character])]

/-- What a text begins with is what its first item begins with. -/
theorem items_opening {character : Char} (whole : ',' ∉ character :: first)
    (unspaced : isSpace character = false) (rest : List Char) :
    ∃ piece others,
      items (character :: first ++ rest) = (character :: first ++ piece) :: others := by
  obtain ⟨piece, others, split⟩ := pieces_append whole rest
  rw [items, split, List.map_cons, List.cons_append,
    List.dropWhile_cons_of_neg (by simp [unspaced])]
  exact ⟨_, _, rfl⟩

theorem items_intercalate (nonempty : texts ≠ []) :
    items ([',', ' '].intercalate texts) = texts.flatMap items := by
  induction texts with
  | nil => contradiction
  | cons text texts induction =>
      cases texts with
      | nil => simp
      | cons second others =>
          rw [List.intercalate_cons_cons, List.append_assoc, List.cons_append, List.cons_append,
            items_append, List.nil_append, items_space rfl, induction (List.cons_ne_nil _ _)]
          rfl

/-- What comes after the first opening bracket. -/
def opened (text : List Char) : List Char := (text.dropWhile (· ≠ '(')).drop 1

/-- What stands between the first opening bracket and the next closing one. -/
def bracketed (text : List Char) : List Char := (opened text).takeWhile (· ≠ ')')

theorem opened_append (plain : '(' ∉ first) (rest : List Char) :
    opened (first ++ '(' :: rest) = rest := by
  rw [opened, List.dropWhile_append_of_pos, List.dropWhile_cons_of_neg (by simp)]
  · rfl
  · intro character member
    exact decide_eq_true fun same => plain (same ▸ member)

theorem bracketed_append {inside : List Char} (plain : '(' ∉ first) (within : ')' ∉ inside)
    (rest : List Char) : bracketed (first ++ '(' :: (inside ++ ')' :: rest)) = inside := by
  rw [bracketed, opened_append plain, List.takeWhile_append_of_pos,
    List.takeWhile_cons_of_neg (by simp), List.append_nil]
  intro character member
  exact decide_eq_true fun same => within (same ▸ member)

end Operands

end TraceOverhead.Text
