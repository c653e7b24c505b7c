import TraceOverhead.Proofs.Flatten.Leaves
import TraceOverhead.Proofs.Json.Grammar
/-!
Where the scalars of a JSON text stand: the trail of names and indices that a reader of its pieces
has come along, with the escapes of names undone. An indented document shows each of its scalars at
the trail that leads to it, written as the document writes it.
-/

namespace TraceOverhead.Json

section Names

def unescape : List Char → List Char
  | '\\' :: 'u' :: first :: second :: third :: fourth :: rest =>
    Char.ofNat (hexValue [first, second, third, fourth]) :: unescape rest
  | '\\' :: short :: rest => (shortEscape? short).getD short :: unescape rest
  | character :: rest => character :: unescape rest
  | [] => []

theorem unescape_short {short character : Char} (read : shortEscape? short = some character)
    (rest : List Char) : unescape ('\\' :: short :: rest) = character :: unescape rest := by
  revert read
  fun_cases shortEscape? short
  case case9 => intro read; contradiction
  all_goals
    intro read
    obtain rfl := Option.some.inj read
    rfl

theorem unescape_control {character : Char} (control : character.toNat < 0x20)
    (rest : List Char) :
    unescape (['\\', 'u'] ++ Number.hexadecimal 4 character.toNat ++ rest) =
      character :: unescape rest := by
  have spelled : unescape (['\\', 'u'] ++ Number.hexadecimal 4 character.toNat ++ rest) =
      Char.ofNat (hexValue (Number.hexadecimal 4 character.toNat)) :: unescape rest := rfl
  have kept : character.toNat < Nat.pow 16 4 := Nat.lt_of_lt_of_le control (by decide)
  rw [spelled, hex_value_hexadecimal, Nat.mod_eq_of_lt kept, Char.ofNat_toNat]

theorem unescape_escape (text : List Char) : unescape (text.flatMap escapeChar) = text := by
  induction text with
  | nil => rfl
  | cons character text induction =>
      rw [List.flatMap_cons]
      rcases escape_char_cases character with short | control | plain
      · obtain ⟨letter, read, escaped⟩ := short
        rw [escaped, List.cons_append, List.singleton_append, unescape_short read, induction]
      · rw [control.2, unescape_control control.1, induction]
      · rw [plain.2.2, List.singleton_append, unescape, induction]
        · intro first second third fourth rest same
          exact absurd same plain.2.1
        · intro short rest same
          exact absurd same plain.2.1

end Names

/-- The scalars among some pieces with the places they stand at, the innermost step first. In an
object it makes a difference whether a name is to come. -/
def places (naming : Bool) (trail : List Step) : List Lexeme → List (List Step × Lexeme)
  | [] => []
  | .openArray :: rest => places false (.item 0 :: trail) rest
  | .openObject :: rest => places true (.member "" :: trail) rest
  | .closeArray :: rest => places false trail.tail rest
  | .closeObject :: rest => places false trail.tail rest
  | .colon :: rest => places false trail rest
  | .comma :: rest => match trail with
    | .item index :: outer => places false (.item (index + 1) :: outer) rest
    | .member name :: outer => places true (.member name :: outer) rest
    | [] => places false [] rest
  | .bare word :: rest => (trail.reverse, .bare word) :: places naming trail rest
  | .quoted text :: rest =>
    if naming then places false (.member (String.ofList (unescape text)) :: trail.tail) rest
    else (trail.reverse, .quoted text) :: places naming trail rest

def textPlaces (text : String) : List (List Step × Lexeme) := places false [] (cut .between text.toList)

section Documents

def beforePlace (step : Step) (place : List Step × Lexeme) : List Step × Lexeme :=
  (step :: place.1, place.2)

mutual

def placed : Json → List (List Step × Lexeme)
  | .null => [([], .bare "null".toList)]
  | .bool value => [([], .bare (boolChars value))]
  | .number value => [([], .bare (numeralChars value))]
  | .string value => [([], .quoted (value.toList.flatMap escapeChar))]
  | .array items => placedItems 0 items
  | .object members => placedMembers members

def placedItems (index : Nat) : List Json → List (List Step × Lexeme)
  | [] => []
  | item :: items => (placed item).map (beforePlace (.item index)) ++ placedItems (index + 1) items

def placedMembers : List (String × Json) → List (List Step × Lexeme)
  | [] => []
  | (name, value) :: members =>
    (placed value).map (beforePlace (.member name)) ++ placedMembers members

end

def under (trail : List Step) (place : List Step × Lexeme) : List Step × Lexeme :=
  (trail.reverse ++ place.1, place.2)

theorem map_under_cons (step : Step) (trail : List Step) (found : List (List Step × Lexeme)) :
    found.map (under (step :: trail)) = (found.map (beforePlace step)).map (under trail) := by
  rw [List.map_map]
  apply List.map_congr_left
  intro place _
  simp [under, beforePlace]

theorem places_name (trail : List Step) (step : Step) (name : String) (rest : List Lexeme) :
    places true (step :: trail) (.quoted (name.toList.flatMap escapeChar) :: .colon :: rest) =
      places false (.member name :: trail) rest := by
  rw [places, if_pos rfl, unescape_escape, String.ofList_toList]
  rfl

mutual

theorem places_lexemes (trail : List Step) (rest : List Lexeme) :
    (document : Json) → places false trail (lexemes document ++ rest) =
      (placed document).map (under trail) ++ places false trail rest
  | .null => by simp [lexemes, placed, places, under]
  | .bool value => by simp [lexemes, placed, places, under]
  | .number value => by simp [lexemes, placed, places, under]
  | .string value => by simp [lexemes, placed, places, under]
  | .array [] => rfl
  | .array (item :: items) => by
      rw [lexemes, List.append_assoc, List.cons_append, places,
        places_lexemes (.item 0 :: trail) (itemLexemes items ++ rest) item,
        places_item_lexemes 0 trail rest items, placed, placedItems, List.map_append,
        map_under_cons, List.append_assoc]
  | .object [] => rfl
  | .object ((name, value) :: members) => by
      have first := places_lexemes (.member name :: trail) (memberLexemes members ++ rest) value
      have others := places_member_lexemes name trail rest members
      rw [others] at first
      rw [lexemes, placed, placedMembers, List.map_append, ← map_under_cons, List.append_assoc]
      rw [List.cons_append, List.cons_append, List.cons_append, places, places_name]
      rw [List.append_assoc, first]

theorem places_item_lexemes (index : Nat) (trail : List Step) (rest : List Lexeme) :
    (items : List Json) → places false (.item index :: trail) (itemLexemes items ++ rest) =
      (placedItems (index + 1) items).map (under trail) ++ places false trail rest
  | [] => rfl
  | item :: items => by
      rw [itemLexemes, List.append_assoc, List.cons_append, places,
        places_lexemes (.item (index + 1) :: trail) (itemLexemes items ++ rest) item,
        places_item_lexemes (index + 1) trail rest items, placedItems, List.map_append,
        map_under_cons, List.append_assoc]

theorem places_member_lexemes (name : String) (trail : List Step) (rest : List Lexeme) :
    (members : List (String × Json)) →
      places false (.member name :: trail) (memberLexemes members ++ rest) =
        (placedMembers members).map (under trail) ++ places false trail rest
  | [] => rfl
  | (next, value) :: members => by
      have first := places_lexemes (.member next :: trail) (memberLexemes members ++ rest) value
      have others := places_member_lexemes next trail rest members
      rw [others] at first
      rw [memberLexemes, placedMembers, List.map_append, ← map_under_cons, List.append_assoc]
      rw [List.cons_append, List.cons_append, List.cons_append, places, places_name]
      rw [List.append_assoc, first]

end

/-- A written document shows its scalars where they are, and nothing else. -/
theorem text_places_indented (document : Json) :
    textPlaces (document.indented ++ "\n") = document.placed := by
  have ended : Ended ['\n'] := by
    intro character first
    rw [← Option.mem_some.1 first]
    exact .inr rfl
  have pieces : cut .between (document.indented ++ "\n").toList = lexemes document := by
    rw [indented, String.toList_append, String.toList_ofList]
    exact (cut_indented 0 ['\n'] ended document).trans (List.append_nil _)
  have found := places_lexemes [] [] document
  rw [List.append_nil] at found
  have whole : document.placed.map (under []) = document.placed := List.map_id document.placed
  rw [textPlaces, pieces, found, whole, places, List.append_nil]

example : textPlaces "[\n  1,\n  \"a\"\n]\n" =
    [([.item 0], .bare ['1']), ([.item 1], .quoted ['a'])] := by decide

end Documents

section Lookup

/-- What stands at a trail, once for each time something does. -/
def lexemesAt (trail : List Step) (found : List (List Step × Lexeme)) : List Lexeme :=
  found.filterMap fun place => if place.1 = trail then some place.2 else none

theorem lexemes_at_append (trail : List Step) (first second : List (List Step × Lexeme)) :
    lexemesAt trail (first ++ second) = lexemesAt trail first ++ lexemesAt trail second :=
  List.filterMap_append

theorem lexemes_at_map_before (step other : Step) (trail : List Step)
    (found : List (List Step × Lexeme)) :
    lexemesAt (step :: trail) (found.map (beforePlace other)) =
      if other = step then lexemesAt trail found else [] := by
  rw [lexemesAt, List.filterMap_map]
  by_cases same : other = step
  · subst same
    rw [if_pos rfl]
    apply List.filterMap_congr
    intro place _
    simp [beforePlace]
  · rw [if_neg same, List.filterMap_eq_nil_iff]
    intro place _
    simp [beforePlace, same]

theorem lexemes_at_absent {name : String} {members : List (String × Json)}
    (absent : name ∉ members.map Prod.fst) (trail : List Step) :
    lexemesAt (.member name :: trail) (Json.object members).placed = [] := by
  rw [placed]
  induction members with
  | nil => rfl
  | cons member members induction =>
      rw [List.map_cons, List.mem_cons, not_or] at absent
      have other : Step.member member.1 ≠ Step.member name := by
        intro same
        exact absent.1 (Step.member.inj same).symm
      rw [placedMembers, lexemes_at_append, lexemes_at_map_before, if_neg other,
        induction absent.2]
      rfl

theorem lexemes_at_member {name : String} {value : Json} {members : List (String × Json)}
    (distinct : (members.map Prod.fst).Nodup) (here : (name, value) ∈ members)
    (trail : List Step) :
    lexemesAt (.member name :: trail) (Json.object members).placed =
      lexemesAt trail value.placed := by
  induction members with
  | nil => contradiction
  | cons member members induction =>
      rw [List.map_cons, List.nodup_cons] at distinct
      rw [placed, placedMembers, lexemes_at_append, lexemes_at_map_before]
      rcases List.mem_cons.1 here with same | later
      · subst same
        have none_left := lexemes_at_absent distinct.1 trail
        rw [placed] at none_left
        rw [if_pos rfl, none_left, List.append_nil]
      · have other : Step.member member.1 ≠ Step.member name := by
          intro same
          have listed : name ∈ members.map Prod.fst := List.mem_map_of_mem later
          exact distinct.1 (Step.member.inj same ▸ listed)
        have found := induction distinct.2 later
        rw [placed] at found
        rw [if_neg other, List.nil_append, found]

end Lookup

end TraceOverhead.Json
