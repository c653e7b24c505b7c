import TraceOverhead.Json.Printer
import TraceOverhead.Proofs.Json.Parsing
import TraceOverhead.Proofs.Number.Reading
/-!
Plain documents, without doubles or negative numbers, are read back from both of their written
forms. Main statement: `parse_written`.
-/

namespace TraceOverhead.Json

variable {tail : List Token} {rest : List Char}

/-- A text that is laid out as pieces which are read as these tokens. -/
def Spaced (tokens : List Token) (text : List Char) : Prop :=
  ∃ pieces, Laid pieces text ∧ pieces.mapM Piece.read? = some tokens

section Spacing

theorem ended_of_mark {character : Char} (marked : (mark? character).isSome) :
    Ended (character :: rest) := by
  rintro _ ⟨⟩
  exact .inl marked

theorem spaced_finish : Spaced [] [] := ⟨[], .finish, rfl⟩

theorem spaced_piece {piece : Piece} {token : Token} {text : List Char}
    (read : piece.read? = some token) (spaced : Spaced tail rest)
    (laid : ∀ pieces, Laid pieces rest → Laid (piece :: pieces) text) :
    Spaced (token :: tail) text := by
  obtain ⟨pieces, laidRest, readRest⟩ := spaced
  refine ⟨_, laid pieces laidRest, ?_⟩
  rw [map_m_read_cons, read, readRest]
  rfl

theorem spaced_mark {character : Char} {token : Token}
    (stands : markToken? character = some token) (spaced : Spaced tail rest) :
    Spaced (token :: tail) (character :: rest) :=
  spaced_piece rfl spaced fun _ laid => .mark stands laid

theorem spaced_blank {character : Char} (blank : isBlank character) (spaced : Spaced tail rest) :
    Spaced tail (character :: rest) := by
  obtain ⟨pieces, laid, read⟩ := spaced
  exact ⟨pieces, .blank blank laid, read⟩

theorem spaced_line_break (depth : Nat) (spaced : Spaced tail rest) :
    Spaced tail (lineBreak depth ++ rest) := by
  have spaces : ∀ count, Spaced tail (List.replicate count ' ' ++ rest) := by
    intro count
    induction count with
    | zero => exact spaced
    | succ count induction => exact spaced_blank rfl induction
  exact spaced_blank rfl (spaces _)

theorem spaced_string (value : String) (spaced : Spaced tail rest) :
    Spaced (.text value :: tail) (stringChars value ++ rest) := by
  obtain ⟨parts, spelled, means⟩ := spelled_escaped value.toList
  have read : (Piece.string parts).read? = some (.text value) := by
    rw [Piece.read?, means, Option.map_some, String.ofList_toList]
  rw [stringChars, List.append_assoc]
  exact spaced_piece read spaced fun _ laid => .string spelled laid

/-- What ends the pieces of a printed document ends words and numbers. -/
theorem stops_of_ended (ended : Ended rest) : Stops Char.isAlpha rest ∧ Stops isNumeralChar rest := by
  have other : ∀ character, (mark? character).isSome ∨ isBlank character →
      character.isAlpha = false ∧ isNumeralChar character = false := by
    rintro character (marked | blank)
    · revert marked
      fun_cases mark? character with
      | case7 => simp
      | case1 | case2 | case3 | case4 | case5 | case6 => exact fun _ => ⟨rfl, rfl⟩
    · simp only [isBlank, Bool.or_eq_true, beq_iff_eq] at blank
      rcases blank with ((rfl | rfl) | rfl) | rfl <;> exact ⟨rfl, rfl⟩
  exact ⟨fun character first => (other character (ended character first)).1,
    fun character first => (other character (ended character first)).2⟩

theorem spaced_word {word : String} {token : Token} (known : (word, token) ∈ words)
    (ended : Ended rest) (spaced : Spaced tail rest) :
    Spaced (token :: tail) (word.toList ++ rest) :=
  spaced_piece rfl spaced fun _ laid => .word known (stops_of_ended ended).1 laid

theorem spaced_null (ended : Ended rest) (spaced : Spaced tail rest) :
    Spaced (.null :: tail) ("null".toList ++ rest) :=
  spaced_word (by simp [words]) ended spaced

theorem spaced_bool (value : Bool) (ended : Ended rest) (spaced : Spaced tail rest) :
    Spaced (.bool value :: tail) (boolChars value ++ rest) := by
  cases value with
  | true => exact spaced_word (by simp [words]) ended spaced
  | false => exact spaced_word (by simp [words]) ended spaced

theorem whole_spelled_to_digits (number : Nat) : WholeSpelled (Nat.toDigits 10 number) := by
  rcases Nat.eq_zero_or_pos number with rfl | positive
  · exact .zero
  · have numeric := Number.all_is_digit_to_digits number
    have first := Number.head_to_digits_ne_zero positive
    have nonempty : Nat.toDigits 10 number ≠ [] := Nat.toDigits_ne_nil
    generalize Nat.toDigits 10 number = digits at *
    cases digits with
    | nil => contradiction
    | cons digit digits => exact .digits (fun zero => first (congrArg some zero)) numeric

theorem spaced_count (number : Nat) (small : number < UInt64.size) (ended : Ended rest)
    (spaced : Spaced tail rest) :
    Spaced (.number (.integer number) :: tail) ((Number.decimal number).toList ++ rest) := by
  have spelled := NumeralSpelled.plain
    (.number (whole_spelled_to_digits number) .absent .absent)
  rw [List.append_nil, List.append_nil] at spelled
  have digits : (Number.decimal number).toList = Nat.toDigits 10 number := String.toList_ofList
  have read : (Piece.numeral ⟨false, Nat.toDigits 10 number, none, none⟩).read? =
      some (.number (.integer number)) := by
    simp [Piece.read?, NumeralParts.value?, NumeralParts.integer?, integerNumeral?,
      Number.digits_value_to_digits, small]
  rw [digits]
  exact spaced_piece read spaced fun _ laid => .numeral spelled (stops_of_ended ended).2 laid

end Spacing

/-- A document without doubles or negative numbers, nested no deeper than there is room. -/
inductive Plain : Nat → Json → Prop
  | null {room : Nat} : Plain room .null
  | bool {room : Nat} (value : Bool) : Plain room (.bool value)
  | string {room : Nat} (value : String) : Plain room (.string value)
  | natural {room : Nat} (value : Nat) (small : value < UInt64.size) : Plain room (natural value)
  | array {room : Nat} (items : List Json) (below : ∀ item ∈ items, Plain room item) :
      Plain (room + 1) (.array items)
  | object {room : Nat} (members : List (String × Json))
      (below : ∀ member ∈ members, Plain room member.2) : Plain (room + 1) (.object members)

theorem items_depth_le {room : Nat} {items : List Json}
    (below : ∀ item ∈ items, item.depth ≤ room) : itemsDepth items ≤ room := by
  induction items with
  | nil => exact Nat.zero_le _
  | cons item items induction =>
      rw [List.forall_mem_cons] at below
      exact Nat.max_le.2 ⟨below.1, induction below.2⟩

theorem members_depth_le {room : Nat} {members : List (String × Json)}
    (below : ∀ member ∈ members, member.2.depth ≤ room) : membersDepth members ≤ room := by
  induction members with
  | nil => exact Nat.zero_le _
  | cons member members induction =>
      rw [List.forall_mem_cons] at below
      exact Nat.max_le.2 ⟨below.1, induction below.2⟩

theorem depth_le_of_plain {room : Nat} {document : Json} (plain : Plain room document) :
    document.depth ≤ room := by
  induction plain with
  | null | bool | string | natural => exact Nat.zero_le _
  | array items _ induction =>
      exact Nat.succ_le_succ (items_depth_le induction)
  | object members _ induction =>
      exact Nat.succ_le_succ (members_depth_le induction)

/-- A form of a document is set down if its tokens are written in it, whatever follows. -/
def SetDown (document : Json) (form : List Char) : Prop :=
  ∀ (tail : List Token) (rest : List Char), Ended rest → Spaced tail rest →
    Spaced (document.tokens ++ tail) (form ++ rest)

section Compact

/-- The items of an array that holds at least one, each set down by itself. -/
theorem spaced_compact_items {item : Json} {items : List Json}
    (below : ∀ other ∈ item :: items, SetDown other other.compactChars)
    (spaced : Spaced tail rest) :
    Spaced (item.tokens ++ (itemTokens items ++ tail))
      (compactItems (item :: items) ++ ']' :: rest) := by
  have first := below item (by simp)
  induction items generalizing item with
  | nil => exact first _ _ (ended_of_mark rfl) (spaced_mark rfl spaced)
  | cons next items induction =>
      have others := induction (fun other member => below other (List.mem_cons_of_mem _ member))
        (below next (by simp))
      have written : compactItems (item :: next :: items) =
          item.compactChars ++ ',' :: compactItems (next :: items) :=
        compactItems.eq_3 item (next :: items) (by simp)
      rw [written, itemTokens]
      simp only [List.cons_append, List.append_assoc]
      exact first _ _ (ended_of_mark rfl) (spaced_mark rfl others)

theorem spaced_compact_members {name : String} {value : Json} {members : List (String × Json)}
    (below : ∀ other ∈ (name, value) :: members, SetDown other.2 other.2.compactChars)
    (spaced : Spaced tail rest) :
    Spaced (.text name :: .colon :: (value.tokens ++ (memberTokens members ++ tail)))
      (compactMembers ((name, value) :: members) ++ '\x7d' :: rest) := by
  have first : SetDown value value.compactChars := below (name, value) (by simp)
  induction members generalizing name value with
  | nil =>
      rw [compactMembers, List.append_assoc]
      exact spaced_string name (spaced_mark rfl
        (first _ _ (ended_of_mark rfl) (spaced_mark rfl spaced)))
  | cons next members induction =>
      obtain ⟨nextName, nextValue⟩ := next
      have others := induction (fun other member => below other (List.mem_cons_of_mem _ member))
        (below (nextName, nextValue) (by simp))
      have written : compactMembers ((name, value) :: (nextName, nextValue) :: members) =
          stringChars name ++ ':' :: value.compactChars ++ ',' ::
            compactMembers ((nextName, nextValue) :: members) :=
        compactMembers.eq_3 name value ((nextName, nextValue) :: members) (by simp)
      rw [written, memberTokens]
      simp only [List.cons_append, List.append_assoc]
      exact spaced_string name (spaced_mark rfl
        (first _ _ (ended_of_mark rfl) (spaced_mark rfl others)))

theorem compact_set_down {room : Nat} {document : Json} (plain : Plain room document) :
    SetDown document document.compactChars := by
  induction plain with
  | null => exact fun _ _ => spaced_null
  | bool value => exact fun _ _ => spaced_bool value
  | string value => exact fun _ _ _ => spaced_string value
  | natural value small => exact fun _ _ => spaced_count value small
  | array items below induction =>
      intro tail rest _ spaced
      cases items with
      | nil => exact spaced_mark rfl (spaced_mark rfl spaced)
      | cons item items =>
          have inside := spaced_compact_items induction spaced
          rw [tokens, compactChars]
          simp only [List.cons_append, List.append_assoc]
          exact spaced_mark rfl inside
  | object members below induction =>
      intro tail rest _ spaced
      cases members with
      | nil =>
          exact spaced_mark rfl (spaced_mark rfl spaced)
      | cons member members =>
          have inside := spaced_compact_members induction spaced
          rw [tokens, compactChars]
          simp only [List.cons_append, List.append_assoc]
          exact spaced_mark rfl inside

end Compact

section Indented

theorem spaced_indented_items {items : List Json}
    (below : ∀ item ∈ items, ∀ depth, SetDown item (item.indentedChars depth)) (depth : Nat)
    (spaced : Spaced tail rest) :
    Spaced (itemTokens items ++ tail) (indentedItems depth items ++ rest) := by
  induction items with
  | nil =>
      rw [indentedItems, List.append_assoc]
      exact spaced_line_break depth (spaced_mark rfl spaced)
  | cons item items induction =>
      have others := induction fun other member => below other (List.mem_cons_of_mem _ member)
      have here := below item (by simp) (depth + 1) _ _
        (ended_indented_items depth items rest) others
      rw [indentedItems, itemTokens]
      simp only [List.cons_append, List.append_assoc]
      exact spaced_mark rfl (spaced_line_break _ here)

theorem spaced_indented_members {members : List (String × Json)}
    (below : ∀ member ∈ members, ∀ depth, SetDown member.2 (member.2.indentedChars depth))
    (depth : Nat) (spaced : Spaced tail rest) :
    Spaced (memberTokens members ++ tail) (indentedMembers depth members ++ rest) := by
  induction members with
  | nil =>
      rw [indentedMembers, List.append_assoc]
      exact spaced_line_break depth (spaced_mark rfl spaced)
  | cons member members induction =>
      obtain ⟨name, value⟩ := member
      have others := induction fun other member => below other (List.mem_cons_of_mem _ member)
      have here := below (name, value) (by simp) (depth + 1) _ _
        (ended_indented_members depth members rest) others
      rw [indentedMembers, memberTokens]
      simp only [List.cons_append, List.append_assoc, List.nil_append]
      exact spaced_mark rfl (spaced_line_break _ (spaced_string name
        (spaced_mark rfl (spaced_blank rfl here))))

theorem indented_set_down {room : Nat} {document : Json} (plain : Plain room document)
    (depth : Nat) : SetDown document (document.indentedChars depth) := by
  induction plain generalizing depth with
  | null => exact fun _ _ => spaced_null
  | bool value => exact fun _ _ => spaced_bool value
  | string value => exact fun _ _ _ => spaced_string value
  | natural value small => exact fun _ _ => spaced_count value small
  | array items below induction =>
      intro tail rest ended spaced
      cases items with
      | nil => exact spaced_mark rfl (spaced_mark rfl spaced)
      | cons item items =>
          have others := spaced_indented_items
            (fun other member => induction other (List.mem_cons_of_mem _ member)) depth spaced
          have first := induction item (by simp) (depth + 1) _ _
            (ended_indented_items depth items rest) others
          rw [tokens, indentedChars]
          simp only [List.cons_append, List.append_assoc]
          exact spaced_mark rfl (spaced_line_break _ first)
  | object members below induction =>
      intro tail rest ended spaced
      cases members with
      | nil =>
          exact spaced_mark rfl (spaced_mark rfl spaced)
      | cons member members =>
          obtain ⟨name, value⟩ := member
          have others := spaced_indented_members
            (fun other member => induction other (List.mem_cons_of_mem _ member)) depth spaced
          have first := induction (name, value) (by simp) (depth + 1) _ _
            (ended_indented_members depth members rest) others
          rw [tokens, indentedChars]
          simp only [List.cons_append, List.append_assoc, List.nil_append]
          exact spaced_mark rfl (spaced_line_break _ (spaced_string name
            (spaced_mark rfl (spaced_blank rfl first))))

end Indented

theorem parse_of_set_down {document : Json} {form : List Char} (plain : Plain depthLimit document)
    (written : SetDown document form) : parse? (String.ofList form) = some document := by
  have spaced : Spaced document.tokens form := by
    simpa using written [] [] (by simp [Ended]) spaced_finish
  rw [parse_eq, String.toList_ofList, scan_eq_some_iff.2 spaced]
  exact parse_tokens_eq_some_iff.2 ⟨rfl, depth_le_of_plain plain⟩

/-- Both written forms of a plain document are read as that document. -/
theorem parse_written {document : Json} (plain : Plain depthLimit document) :
    parse? document.compact = some document ∧ parse? document.indented = some document :=
  ⟨parse_of_set_down plain (compact_set_down plain),
    parse_of_set_down plain (indented_set_down plain 0)⟩

end TraceOverhead.Json
