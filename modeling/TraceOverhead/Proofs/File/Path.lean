import Mathlib.Data.List.Infix
import TraceOverhead.File.Path
/-!
Joined paths as texts: what comes before a relative name is told from the base alone, and every
joined path ends in the name. Cut at the slashes, it has the pieces of the base and of the name; so
a name without slashes is one more step behind those of the base.
-/

namespace TraceOverhead

namespace Text

variable {separator : Char}

theorem pieces_append_separator (first second : List Char) :
    pieces separator (first ++ separator :: second) =
      pieces separator first ++ pieces separator second := by
  induction first with
  | nil => simp [pieces]
  | cons character rest induction =>
      by_cases same : character = separator
      · simp [pieces, same, induction]
      · simp only [List.cons_append, pieces, same, if_false, induction]
        have counted := length_pieces separator rest
        cases split : pieces separator rest with
        | nil => simp [split] at counted
        | cons piece others => rfl

theorem flatten_pieces (separator : Char) (text : List Char) :
    (pieces separator text).flatten = text.filter (· ≠ separator) := by
  induction text with
  | nil => rfl
  | cons character rest induction =>
      by_cases same : character = separator
      · simpa [pieces, same] using induction
      · rw [List.filter_cons_of_pos (by simpa using same), ← induction]
        simp only [pieces, same, if_false]
        have counted := length_pieces separator rest
        cases split : pieces separator rest with
        | nil => simp [split] at counted
        | cons piece others => rfl

theorem pieces_of_not_mem {text : List Char} (inside : separator ∉ text) :
    pieces separator text = [text] := by
  have one : (pieces separator text).length = 1 := by
    rw [length_pieces, List.count_eq_zero.2 inside]
  obtain ⟨piece, split⟩ := List.length_eq_one_iff.1 one
  have whole := flatten_pieces separator text
  rw [split, List.flatten_singleton, List.filter_eq_self.2] at whole
  · rw [split, whole]
  · intro character member
    exact decide_eq_true fun same => inside (same ▸ member)

/-- Behind the last of the lines that all end with a separator there is an empty piece. -/
theorem pieces_lines {lines : List (List Char)} (whole : ∀ line ∈ lines, separator ∉ line) :
    pieces separator (lines.flatMap (· ++ [separator])) = lines ++ [[]] := by
  induction lines with
  | nil => rfl
  | cons line lines induction =>
      obtain ⟨here, later⟩ := List.forall_mem_cons.1 whole
      rw [List.flatMap_cons, List.append_assoc, List.singleton_append, pieces_append_separator,
        pieces_of_not_mem here, induction later]
      rfl

theorem pieces_eq_split_on (separator : Char) (text : List Char) :
    pieces separator text = text.splitOn separator := by
  induction text with
  | nil => rfl
  | cons character rest induction =>
      rw [pieces, induction, List.splitOn, List.splitOn, List.splitOnP_cons_eq_if_modifyHead]
      by_cases same : character = separator
      · simp [same]
      · simp only [same, if_false, beq_iff_eq]
        cases split : List.splitOnP (· == separator) rest with
        | nil => exact absurd split (List.splitOnP_ne_nil _ _)
        | cons piece others => rfl

end Text

namespace Path

/-- What stands before a name that is joined to a base. -/
def opening (base : String) : List Char :=
  if base.isEmpty then []
  else if base.endsWith "/" then base.toList
  else base.toList ++ ['/']

theorem join_relative {name : String} (relative : name.startsWith "/" = false) (base : String) :
    (join base name).toList = opening base ++ name.toList := by
  rw [join, opening, relative, Bool.false_or]
  split
  · rfl
  · split <;> simp

theorem ends_with_slash_iff {path : String} :
    path.endsWith "/" = true ↔ ∃ front, path.toList = front ++ ['/'] := by
  rw [String.endsWith_eq_endsWith_toSlice, String.Slice.endsWith_string_iff, String.copy_toSlice]
  exact exists_congr fun front => eq_comm

theorem absolute_iff {path : String} :
    isAbsolute path = true ↔ ∃ rest, path.toList = '/' :: rest := by
  rw [isAbsolute, String.startsWith_string_iff]
  exact exists_congr fun rest => eq_comm

theorem not_ends_with_slash {path : String} {before : List Char} {last : Char}
    (text : path.toList = before ++ [last]) (inside : last ≠ '/') :
    path.endsWith "/" = false := by
  rw [Bool.eq_false_iff, ne_eq, ends_with_slash_iff, text]
  intro ending
  obtain ⟨front, same⟩ := ending
  exact inside (List.singleton_inj.1 (List.append_inj_right' same rfl))

theorem opening_of_last {base : String} {before : List Char} {last : Char}
    (text : base.toList = before ++ [last]) (inside : last ≠ '/') :
    opening base = base.toList ++ ['/'] := by
  have nonempty : ¬ base.isEmpty = true := by
    intro empty
    rw [String.isEmpty_iff.1 empty] at text
    simp at text
  rw [opening, if_neg nonempty, not_ends_with_slash text inside, if_neg Bool.false_ne_true]

theorem join_ends (base name : String) :
    ∃ before, (join base name).toList = before ++ name.toList := by
  rw [join]
  split
  · exact ⟨[], rfl⟩
  · split
    · exact ⟨base.toList, String.toList_append⟩
    · exact ⟨(base ++ "/").toList, String.toList_append⟩

/-- Names that end differently do not lead to the same place, whatever they are joined to. -/
theorem join_ne_of_getLast {base other name second : String}
    (apart : name.toList.getLast? ≠ second.toList.getLast?) (nonempty : name ≠ "")
    (alike : second ≠ "") : join base name ≠ join other second := by
  intro same
  obtain ⟨before, reached⟩ := join_ends base name
  obtain ⟨front, arrived⟩ := join_ends other second
  rw [same, arrived] at reached
  have lasts := congrArg List.getLast? reached
  rw [List.getLast?_append_of_ne_nil _ (by simpa using alike),
    List.getLast?_append_of_ne_nil _ (by simpa using nonempty)] at lasts
  exact apart lasts.symm

variable {base name : String}

/-- An opening is nothing or ends with a slash, which may be the base's own. -/
theorem opening_cases (base : String) :
    (base = "" ∧ opening base = []) ∨ ∃ front, opening base = front ++ ['/'] ∧
      (base.toList = front ∨ base.toList = front ++ ['/']) := by
  rw [opening]
  split
  · rename_i empty
    exact .inl ⟨String.isEmpty_iff.1 empty, rfl⟩
  · split
    · rename_i ending
      obtain ⟨front, same⟩ := ends_with_slash_iff.1 ending
      exact .inr ⟨front, same, .inr same⟩
    · exact .inr ⟨base.toList, rfl, .inl rfl⟩

theorem absolute_join (relative : name.startsWith "/" = false) :
    isAbsolute (join base name) = isAbsolute base := by
  cases spelled : base.toList with
  | nil =>
      obtain rfl := String.toList_eq_nil_iff.1 spelled
      have joined : join "" name = name := if_pos (by simp)
      have nowhere : ("" : String).startsWith "/" = false := by
        simp [String.startsWith_string_eq_false_iff]
      rw [joined, isAbsolute, isAbsolute, relative, nowhere]
  | cons first rest =>
      have opened : ∃ more, opening base = first :: more := by
        rw [opening]
        have nonempty : ¬ base.isEmpty = true := by simp [← String.toList_eq_nil_iff, spelled]
        rw [if_neg nonempty]
        split
        · exact ⟨rest, spelled⟩
        · exact ⟨rest ++ ['/'], by rw [spelled]; rfl⟩
      obtain ⟨more, opened⟩ := opened
      rw [Bool.eq_iff_iff, absolute_iff, absolute_iff, join_relative relative, opened, spelled]
      simp

section Steps

theorem relative_of_whole (whole : '/' ∉ name.toList) : name.startsWith "/" = false := by
  rw [String.startsWith_string_eq_false_iff]
  exact fun leading => whole (leading.subset List.mem_cons_self)

/-- A dot counts as a step only where a path begins with it. -/
theorem components_eq (path : String) : components path =
    (if (Text.pieces '/' path.toList).head? = some ['.'] then [['.']] else []) ++
      (Text.pieces '/' path.toList).filter fun piece => !piece.isEmpty && piece ≠ ['.'] := by
  rw [components]
  split
  · rename_i rest pieces
    rw [pieces, List.head?_cons, if_pos rfl, List.filter_cons_of_neg (by simp)]
    rfl
  · rename_i other
    rw [if_neg, List.nil_append]
    intro leading
    obtain ⟨rest, pieces⟩ := List.head?_eq_some_iff.1 leading
    exact other rest pieces

/-- A name that is joined to a base is one more step behind those of the base. -/
theorem components_join (nonempty : name ≠ "") (whole : '/' ∉ name.toList) (proper : name ≠ ".")
    (base : String) : components (join base name) = components base ++ [name.toList] := by
  have undotted : name.toList ≠ ['.'] := fun same => proper (String.toList_inj.1 same)
  have single : Text.pieces '/' name.toList = [name.toList] := Text.pieces_of_not_mem whole
  have kept : [name.toList].filter (fun piece => !piece.isEmpty && piece ≠ ['.']) =
      [name.toList] := by
    simp [nonempty, undotted]
  rw [components_eq, components_eq base, join_relative (relative_of_whole whole)]
  rcases opening_cases base with ⟨rfl, opened⟩ | ⟨front, opened, spelled⟩
  · rw [opened, List.nil_append, single, kept]
    simp [Text.pieces, undotted]
  · have cut : Text.pieces '/' (opening base ++ name.toList) =
        Text.pieces '/' front ++ [name.toList] := by
      rw [opened, List.append_assoc, List.singleton_append, Text.pieces_append_separator, single]
    have first : ∃ piece others, Text.pieces '/' front = piece :: others := by
      apply List.exists_cons_of_length_pos
      rw [Text.length_pieces]
      omega
    obtain ⟨piece, others, begun⟩ := first
    rw [cut, List.filter_append, kept]
    rcases spelled with spelled | spelled
    · rw [spelled, begun]
      simp
    · have silent : [([] : List Char)].filter (fun piece => !piece.isEmpty && piece ≠ ['.']) = [] :=
        rfl
      rw [spelled, Text.pieces_append_separator, Text.pieces, List.filter_append _ [[]], silent, begun]
      simp

theorem opening_join (nonempty : name ≠ "") (whole : '/' ∉ name.toList) (base : String) :
    opening (join base name) = opening base ++ (name.toList ++ ['/']) := by
  have spelled := join_relative (relative_of_whole whole) base
  have letters : name.toList ≠ [] := mt String.toList_eq_nil_iff.1 nonempty
  have ending : (join base name).toList =
      opening base ++ name.toList.dropLast ++ [name.toList.getLast letters] := by
    rw [spelled, List.append_assoc, List.dropLast_append_getLast]
  have inside : name.toList.getLast letters ≠ '/' := fun same =>
    whole (same ▸ List.getLast_mem letters)
  rw [opening_of_last ending inside, spelled, List.append_assoc]

/-- The steps of a path, after the one to the root if the path begins there. -/
def route (path : String) : List (List Char) :=
  (if isAbsolute path then [['/']] else []) ++ components path

/-- Whether a path is another one or lies below it, as far as their steps tell. -/
def Within (inner outer : String) : Prop := route outer <+: route inner

instance (inner outer : String) : Decidable (Within inner outer) :=
  inferInstanceAs (Decidable (_ <+: _))

theorem route_join (nonempty : name ≠ "") (whole : '/' ∉ name.toList) (proper : name ≠ ".")
    (base : String) : route (join base name) = route base ++ [name.toList] := by
  rw [route, route, absolute_join (relative_of_whole whole), components_join nonempty whole proper,
    List.append_assoc]

theorem within_refl (path : String) : Within path path := List.prefix_rfl

end Steps

end Path

end TraceOverhead
